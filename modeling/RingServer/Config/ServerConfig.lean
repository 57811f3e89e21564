import RingServer.Config.IPNet
import RingServer.Library.Settings

set_option autoImplicit false

namespace RingServer.Config

open Library

inductive StorageMode where
  | file
  | sql
  | auto
deriving DecidableEq

-- The parameters that are not lists, those of the logs among them.
inductive Parameter where
  | verbose
  | serverId
  | maxClients
  | maxClientsPerIP
  | clientTimeout
  | ringDir
  | ringSize
  | pktSize
  | memoryMapRing
  | volatileRing
  | autoRecovery
  | resolveHosts
  | timeWinLimit
  | webRoot
  | httpHeaders
  | tLogBaseDir
  | tLogInterval
  | tLogPrefix
  | txLog
  | rxLog
  | mSeedArchive
  | postgresConnStr
  | postgresRetentionDays
  | storageMode
  | mSeedIdleTo
  | tlsCertFile
  | tlsKeyFile
  | tlsVerifyClientCert
deriving DecidableEq

-- A float is its bit pattern.
abbrev Parameter.Value : Parameter → Type
  | .verbose | .tLogInterval | .txLog | .rxLog | .postgresRetentionDays | .mSeedIdleTo => Int32
  | .serverId | .ringDir | .webRoot | .httpHeaders | .tLogBaseDir | .tLogPrefix | .mSeedArchive | .postgresConnStr | .tlsCertFile
  | .tlsKeyFile => Option Text
  | .maxClients | .maxClientsPerIP | .clientTimeout | .pktSize | .timeWinLimit => UInt32
  | .ringSize => UInt64
  | .memoryMapRing | .volatileRing | .resolveHosts | .tlsVerifyClientCert => Bool
  | .autoRecovery => UInt8
  | .storageMode => StorageMode

-- The parameters that ring.conf does not call dynamic.
def Parameter.fixed : Parameter → Bool
  | .ringDir | .ringSize | .pktSize | .memoryMapRing | .volatileRing | .autoRecovery | .mSeedArchive | .postgresConnStr
  | .postgresRetentionDays | .storageMode => true
  | _ => false

inductive IPList where
  | limitIps
  | matchIps
  | rejectIps
  | writeIps
  | trustedIps
deriving DecidableEq

structure ListenProtocols where
  dataLink : Bool
  seedLink : Bool
  http : Bool
deriving DecidableEq

def ListenProtocols.all : ListenProtocols := ⟨true, true, true⟩

structure ListenOptions where
  tls : Bool
  ipv4 : Bool
  ipv6 : Bool
deriving DecidableEq

structure ListenPortParams where
  portStr : Text
  protocols : ListenProtocols
  options : ListenOptions
deriving DecidableEq

inductive SThread where
  | listen (params : ListenPortParams) (family : AddressFamily)
  | mSeedScan (configstr : Text)
deriving DecidableEq

-- A list of networks that is null has no entry.
structure ServerConfig where
  values : (p : Parameter) → p.Value
  ips : IPList → List IPNet
  sthreads : List SThread

-- The values before the command line; the packets have 512 bytes of data, and the time
-- window limit is 1.0.
def initialValues : (p : Parameter) → p.Value
  | .verbose | .txLog | .rxLog => (1 : Int32)
  | .postgresRetentionDays => (0 : Int32)
  | .tLogInterval => (86400 : Int32)
  | .mSeedIdleTo => (300 : Int32)
  | .serverId | .ringDir | .webRoot | .httpHeaders | .tLogBaseDir | .tLogPrefix | .mSeedArchive | .postgresConnStr | .tlsCertFile
  | .tlsKeyFile => (none : Option Text)
  | .maxClients => (600 : UInt32)
  | .maxClientsPerIP => (0 : UInt32)
  | .clientTimeout => (3600 : UInt32)
  | .pktSize => (624 : UInt32)
  | .timeWinLimit => (0x3F800000 : UInt32)
  | .ringSize => (1073741824 : UInt64)
  | .memoryMapRing | .resolveHosts => true
  | .volatileRing | .tlsVerifyClientCert => false
  | .autoRecovery => (1 : UInt8)
  | .storageMode => StorageMode.auto

def initialConfig : ServerConfig := ⟨initialValues, fun _ => [], []⟩

def yesNo (value : Text) : Bool :=
  let lower := value.map Char.toLower
  value = "1".toList || lower = "yes".toList || lower = "true".toList || lower = "on".toList

-- What TryParse of the library makes of an address and of a float, the size that a double
-- comes to, and the families that the system has sockets for.
structure Platform where
  tryParseAddress : Text → Option IPAddress
  tryParseFloat : Text → Option UInt32
  doubleSize : Text → UInt64 → Option UInt64
  supports : AddressFamily → Bool

-- char.IsWhiteSpace
def isUnicodeSpace (c : Char) : Bool :=
  isWhiteSpace c || (0x2000 ≤ c.toNat && c.toNat ≤ 0x200A) ||
    [0x85, 0xA0, 0x1680, 0x2028, 0x2029, 0x202F, 0x205F, 0x3000].contains c.toNat

def trimSpace (text : Text) : Text := trimBoth isUnicodeSpace text

def multiplierOf (suffix : Char) : Option UInt64 :=
  if suffix.toUpper = 'K' then some 1024
  else if suffix.toUpper = 'M' then some (1024 * 1024)
  else if suffix.toUpper = 'G' then some (1024 * 1024 * 1024)
  else if suffix.toUpper = 'T' then some (1024 * 1024 * 1024 * 1024)
  else none

def calcSize (platform : Platform) (sizestr : Text) : UInt64 :=
  let sizestr := trimSpace sizestr
  match sizestr.getLast? with
  | none => 0
  | some suffix =>
      let multiplier := (multiplierOf suffix).getD 1
      let numPart := if (multiplierOf suffix).isSome then sizestr.dropLast else sizestr
      match tryParseULong numPart with
      | some value => value * multiplier
      | none => (platform.doubleSize numPart multiplier).getD 0

def storageModeOf (value : Text) : StorageMode :=
  let lower := value.map Char.toLower
  if lower = "file".toList then .file else if lower = "sql".toList then .sql else .auto

-- Split(' ', 2, StringSplitOptions.TrimEntries)
def splitTwo (text : Text) : Text × Option Text :=
  match text.dropWhile (· ≠ ' ') with
  | [] => (trimSpace text, none)
  | _ :: rest => (trimSpace (text.takeWhile (· ≠ ' ')), some (trimSpace rest))

def optionOf (options : ListenOptions) (word : Text) : ListenOptions :=
  let lower := word.map Char.toLower
  if lower = "tls".toList then { options with tls := true }
  else if lower = "dual".toList then { options with ipv4 := true, ipv6 := true }
  else if lower = "ipv4".toList then { options with ipv4 := true }
  else if lower = "ipv6".toList then { options with ipv6 := true }
  else options

def parseListenPort (spec : Text) (defaultProtocol : ListenProtocols) : ListenPortParams :=
  let front := (spec.takeWhile (· ≠ ':')).map Char.toLower
  let behind := (spec.dropWhile (· ≠ ':')).tail
  let none : ListenOptions := ⟨false, false, false⟩
  let (protocols, options, portStr) :=
    if ':' ∉ spec then (defaultProtocol, none, spec)
    else if front = "datalink".toList then (⟨true, false, false⟩, none, behind)
    else if front = "seedlink".toList then (⟨false, true, false⟩, none, behind)
    else if front = "http".toList then (⟨false, false, true⟩, none, behind)
    else if front = "tls".toList ∨ front = "dual".toList ∨ front = "ipv4".toList ∨ front = "ipv6".toList then
      (defaultProtocol, optionOf none front, behind)
    else (defaultProtocol, none, spec)
  let portParts := portStr.splitOnP fun c => c = ':'
  ⟨portParts.headD [], protocols, portParts.tail.foldl optionOf options⟩

def familiesOf (options : ListenOptions) : List AddressFamily :=
  (if options.ipv6 || (!options.ipv4 && !options.ipv6) then [.interNetworkV6] else []) ++
    (if options.ipv4 || (!options.ipv4 && !options.ipv6) then [.interNetwork] else [])

inductive Assignment where
  | nothing
  | set (setting : (p : Parameter) × p.Value)
  | addIPNet (keyword : IPList) (net : IPNet)
  | listen (lpp : ListenPortParams)
  | mSeedScan (configstr : Text)
  | throws
  | unknown

def Assignment.ofOption (p : Parameter) : Option p.Value → Assignment
  | some value => .set ⟨p, value⟩
  | none => .nothing

-- int.Parse throws on what is no number.
def listenAssignment (value : Option Text) (protocols : ListenProtocols) : Assignment :=
  match value with
  | none => .nothing
  | some spec =>
      let lpp := parseListenPort spec protocols
      if (tryParseInt lpp.portStr).isNone then .throws else .listen lpp

def ipAssignment (platform : Platform) (keyword : IPList) (value : Option Text) : Assignment :=
  match value with
  | none => .nothing
  | some value =>
      let (network, limitstr) := splitTwo value
      (parseIPNet platform.tryParseAddress network limitstr).elim .nothing (.addIPNet keyword)

def assignmentOf (platform : Platform) (keyword : Text) (value : Option Text) : Assignment :=
  let int := fun text => (tryParseInt text).map Int32.ofInt
  if keyword = "Verbosity".toList then .ofOption .verbose (value.bind int)
  else if keyword = "ServerID".toList then .set ⟨.serverId, value⟩
  else if keyword = "MaxClients".toList then .ofOption .maxClients (value.bind tryParseUInt)
  else if keyword = "MaxClientsPerIP".toList then .ofOption .maxClientsPerIP (value.bind tryParseUInt)
  else if keyword = "ClientTimeout".toList then .ofOption .clientTimeout (value.bind tryParseUInt)
  else if keyword = "RingDirectory".toList then .set ⟨.ringDir, value⟩
  else if keyword = "RingSize".toList then .ofOption .ringSize (value.map (calcSize platform))
  else if keyword = "MaxPacketSize".toList then .ofOption .pktSize ((value.bind tryParseUInt).map fun size => (112 + size : UInt32))
  else if keyword = "MemoryMapRing".toList then .ofOption .memoryMapRing (value.map yesNo)
  else if keyword = "VolatileRing".toList then .ofOption .volatileRing (value.map yesNo)
  else if keyword = "AutoRecovery".toList then
    .ofOption .autoRecovery ((value.bind tryParseInt).map fun ar => UInt8.ofNat (ar % 256).toNat)
  else if keyword = "ResolveHostnames".toList ∨ keyword = "ResolveHosts".toList then .ofOption .resolveHosts (value.map yesNo)
  else if keyword = "TimeWindowLimit".toList then .ofOption .timeWinLimit (value.bind platform.tryParseFloat)
  else if keyword = "ListenPort".toList then listenAssignment value .all
  else if keyword = "DataLinkPort".toList then listenAssignment value ⟨true, false, false⟩
  else if keyword = "SeedLinkPort".toList then listenAssignment value ⟨false, true, false⟩
  else if keyword = "HTTPPort".toList then listenAssignment value ⟨false, false, true⟩
  else if keyword = "WebRoot".toList then .set ⟨.webRoot, value⟩
  else if keyword = "HTTPHeader".toList ∨ keyword = "HttpHeaders".toList then .set ⟨.httpHeaders, value⟩
  else if keyword = "TransferLogDirectory".toList then .set ⟨.tLogBaseDir, value⟩
  else if keyword = "TransferLogInterval".toList then
    .ofOption .tLogInterval ((value.bind int).map fun hours => (hours * 3600 : Int32))
  else if keyword = "TransferLogPrefix".toList then .set ⟨.tLogPrefix, value⟩
  else if keyword = "TransferLogTX".toList then .ofOption .txLog (value.bind int)
  else if keyword = "TransferLogRX".toList then .ofOption .rxLog (value.bind int)
  else if keyword = "MSeedWrite".toList then .set ⟨.mSeedArchive, value⟩
  else if keyword = "PostgresConnStr".toList then .set ⟨.postgresConnStr, value⟩
  else if keyword = "PostgresRetentionDays".toList then .ofOption .postgresRetentionDays (value.bind int)
  else if keyword = "StorageMode".toList then .ofOption .storageMode (value.map storageModeOf)
  else if keyword = "MSeedScan".toList then value.elim .nothing .mSeedScan
  else if keyword = "MSeedIdleTimeout".toList then .ofOption .mSeedIdleTo (value.bind int)
  else if keyword = "LimitIP".toList then ipAssignment platform .limitIps value
  else if keyword = "MatchIP".toList then ipAssignment platform .matchIps value
  else if keyword = "RejectIP".toList then ipAssignment platform .rejectIps value
  else if keyword = "WriteIP".toList then ipAssignment platform .writeIps value
  else if keyword = "TrustedIP".toList then ipAssignment platform .trustedIps value
  else if keyword = "TLSCertFile".toList ∨ keyword = "TlsCertificate".toList then .set ⟨.tlsCertFile, value⟩
  else if keyword = "TLSKeyFile".toList ∨ keyword = "TlsKey".toList then .set ⟨.tlsKeyFile, value⟩
  else if keyword = "TLSVerifyClientCert".toList ∨ keyword = "TlsVerifyClient".toList then
    .ofOption .tlsVerifyClientCert (value.map yesNo)
  else .unknown

def parameterOf (platform : Platform) (paramstring : Text) : Assignment :=
  let (keyword, value) := splitTwo paramstring
  assignmentOf platform keyword (value.map (trimBoth fun c => c = '"'))

def addIPNet (config : ServerConfig) (keyword : IPList) (net : IPNet) : ServerConfig :=
  { config with ips := Function.update config.ips keyword (net :: config.ips keyword) }

-- Each family that binds gets a thread, in front of those before it. The constructor of
-- Socket throws for a family that the system has not.
def addListenThreads (platform : Platform) (binds : AddressFamily → Bool) (lpp : ListenPortParams) : List SThread :=
  ((((familiesOf lpp.options).takeWhile platform.supports).filter binds).map (SThread.listen lpp)).reverse

-- An exception is -1 to ReadConfigFile.
def setParameter (platform : Platform) (binds : AddressFamily → Bool) (dynamiconly : Bool) (config : ServerConfig) :
    Assignment → ServerConfig × Int
  | .nothing => (config, 1)
  | .set setting => ({ config with values := Function.update config.values setting.1 setting.2 }, 1)
  | .addIPNet keyword net => (addIPNet config keyword net, 1)
  | .listen lpp =>
      ({ config with sthreads := addListenThreads platform binds lpp ++ config.sthreads },
        if (familiesOf lpp.options).all platform.supports then 1 else -1)
  | .mSeedScan configstr => ({ config with sthreads := .mSeedScan configstr :: config.sthreads }, 1)
  | .throws => (config, -1)
  | .unknown => (config, if dynamiconly then 0 else -1)

def readLines (platform : Platform) (binds : Nat → AddressFamily → Bool) (dynamiconly : Bool) (config : ServerConfig) (linenum : Nat) :
    List Assignment → ServerConfig × Int
  | [] => (config, 0)
  | line :: rest =>
      let (config, code) := setParameter platform (binds linenum) dynamiconly config line
      if code < 0 then (config, -1) else readLines platform binds dynamiconly config (linenum + 1) rest

def parameterLines (platform : Platform) (lines : List Text) : List Assignment :=
  ((lines.map trimSpace).filter fun line => !line.isEmpty && line.head? ≠ some '#').map (parameterOf platform)

-- binds says for each line which families bind.
def readConfigFile (platform : Platform) (binds : Nat → AddressFamily → Bool) (dynamiconly : Bool) (config : ServerConfig)
    (lines : List Text) : ServerConfig × Int :=
  readLines platform binds dynamiconly config 0 (parameterLines platform lines)

def addNetwork (platform : Platform) (keyword : IPList) (network : Text) (config : ServerConfig) : ServerConfig :=
  (parseIPNet platform.tryParseAddress network none).elim config (addIPNet config keyword)

def addLoopback (platform : Platform) (keyword : IPList) (config : ServerConfig) : ServerConfig :=
  if config.ips keyword = [] then
    addNetwork platform keyword "::1/128".toList (addNetwork platform keyword "127.0.0.1/8".toList config)
  else config

-- The end of ProcessParam.
def addDefaults (platform : Platform) (config : ServerConfig) : ServerConfig :=
  addLoopback platform .trustedIps (addLoopback platform .writeIps config)

def resolveStorageMode (config : ServerConfig) : StorageMode :=
  match config.values .storageMode with
  | .file => .file
  | .sql => .sql
  | .auto => if ((config.values .postgresConnStr).getD []).isEmpty then .file else .sql

def forceVolatile (config : ServerConfig) : ServerConfig :=
  if resolveStorageMode config = .sql then { config with values := Function.update config.values .volatileRing true } else config

-- The start of the server up to the ring, from what the command line has set. A file named
-- there is read before the defaults are added, a ring.conf that is found by itself behind
-- them. none is a start that ends with an error.
def startServer (platform : Platform) (binds : Nat → AddressFamily → Bool) (detected : Bool) (config : ServerConfig)
    (lines : List Text) : Option ServerConfig :=
  if detected then
    let (config, code) := readConfigFile platform binds false (addDefaults platform config) lines
    if code < 0 then none else some (forceVolatile config)
  else
    let (config, code) := readConfigFile platform binds false config lines
    if code < 0 then none else some (forceVolatile (addDefaults platform config))

-- The watchdog passes over the code that ReadConfigFile returns.
def reload (platform : Platform) (binds : Nat → AddressFamily → Bool) (config : ServerConfig) (lines : List Text) : ServerConfig :=
  (readConfigFile platform binds true config lines).1

end RingServer.Config
