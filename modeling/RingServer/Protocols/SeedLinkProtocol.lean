import RingServer.Protocols.DataLinkProtocol
import RingServer.Protocols.SeedLinkCommand

set_option autoImplicit false

namespace RingServer

structure MseedQueryResult where
  id : Int64
  streamId : Text
  startTime : NsTime
  endTime : NsTime
  rawData : Option (List UInt8)
  pktId : UInt64
deriving DecidableEq

-- The queries of the archive; none is an exception.
structure MseedArchive where
  queryByTime : List Text → NsTime → NsTime → Nat → Option (List MseedQueryResult)
  queryByTimePagination : List Text → NsTime → NsTime → NsTime → Int64 → Nat → Option (List MseedQueryResult)

-- What a SeedLink handler finds around it: StartsWith("FDSN:") in the culture of the
-- process, ServerConfig.Archive, NsTime.Now and the time seven days before it, year,
-- day of the year, hour, minute and second of DateTime.UtcNow, config.ServerId and
-- Environment.NewLine.
structure Surroundings where
  engine : Engine
  startsWithFdsn : Text → Bool
  archive : Option MseedArchive
  now : NsTime
  weekAgo : NsTime
  utcNow : Nat × Nat × Nat × Nat × Nat
  serverId : Text
  newLine : Text

namespace SeedLink

open Library

-- A list stands for a collection that may be null, where the source treats null as
-- empty. cached has the packet and the data buffer of the last StreamPackets.
structure SLExtInfo where
  protoMajor : Int
  protoMinor : Int
  currentStation : Option Text
  startTime : NsTime
  endTime : NsTime
  inStationMode : Bool
  selectedStations : List Text
  dbRecords : List MseedQueryResult
  dbPreFetchDone : Bool
  lastDbEndTime : NsTime
  lastDbStartTime : NsTime
  lastDbRecordId : Int64
  dbQueryEndTime : NsTime
  dbQueryStreamIds : List Text
  cached : Option (RingPacket × List UInt8)

def newExtInfo : SLExtInfo where
  protoMajor := 3
  protoMinor := 0
  currentStation := none
  startTime := NsTime.unset
  endTime := NsTime.unset
  inStationMode := false
  selectedStations := []
  dbRecords := []
  dbPreFetchDone := false
  lastDbEndTime := NsTime.unset
  lastDbStartTime := NsTime.unset
  lastDbRecordId := 0
  dbQueryEndTime := NsTime.unset
  dbQueryStreamIds := []
  cached := none

structure Session where
  client : ClientInfo
  ext : SLExtInfo

-- What a handler leaves when the sends succeed: its return value, the session and
-- the bytes of each send. The ring stays as it is.
structure Outcome where
  code : Int
  session : Session
  sent : List (List UInt8)

def Session.withReader (session : Session) (reader : RingReader) : Session :=
  { session with client := { session.client with reader := reader } }

def Session.withExt (session : Session) (ext : SLExtInfo) : Session := { session with ext := ext }

def Session.streaming (session : Session) : Session := { session with client := { session.client with state := .stream } }

def silent (session : Session) : Outcome := ⟨0, session, []⟩

def sendResponse (session : Session) (response : Text) : Outcome :=
  ⟨0, session, [encodeASCII (response ++ ['\r', '\n'])]⟩

def slServerId : Text := "SeedLink v4.0 (RingServer/4.0.1-csharp) :: SLPROTO:4.0 SLPROTO:3.1 CAP WS:13".toList

def sendHello (around : Surroundings) (session : Session) : Outcome :=
  ⟨0, session, [encodeASCII (slServerId ++ '\r' :: '\n' :: (around.serverId ++ ['\r', '\n']))]⟩

def sendCatalog (around : Surroundings) (ring : RingParams) (session : Session) : Option Outcome := do
  let streams ← RingBuffer.getStreamsStack ring (some session.client.reader)
  let lines := "CAT".toList :: (streams.reverse.map (·.streamId) ++ ["END".toList])
  some ⟨0, session, [encodeASCII (lines.flatMap (· ++ around.newLine))]⟩

def setMatch (around : Surroundings) (reader : RingReader) (pattern : Text) : RingReader :=
  { reader with matching := (RingBuffer.updatePattern around.engine pattern).2 }

-- While packets are streamed the patterns stay as they are.
def handleStation (around : Surroundings) (session : Session) (parts : List Text) : Outcome :=
  match parts with
  | _ :: sta :: behind =>
      let staid := behind.head?.getD ['*'] ++ '_' :: sta
      let stations := session.ext.selectedStations
      let ext := { session.ext with
        currentStation := some staid
        inStationMode := true
        selectedStations := if staid ∈ stations then stations else stations ++ [staid] }
      let reader := if session.client.state = .stream then session.client.reader
        else { setMatch around session.client.reader (buildStreamRegex (some staid) none) with reject := none }
      sendResponse ((session.withExt ext).withReader reader) "OK".toList
  | _ => sendResponse session "ERROR".toList

def handleSlProto (session : Session) (parts : List Text) : Outcome :=
  let version : Option (Int × Int) := do
    let versionStr ← parts[1]?
    let versionParts := versionStr.splitOnP fun c => c = '.'
    let major ← versionParts.head?.bind tryParseInt
    some (major, (versionParts[1]?.bind tryParseInt).getD 0)
  match version with
  | some (major, minor) =>
      if major = 3 ∨ (major = 4 ∧ minor = 0) then
        sendResponse (session.withExt { session.ext with protoMajor := major, protoMinor := minor }) "OK".toList
      else sendResponse session "ERROR UNSUPPORTED".toList
  | none => sendResponse session "ERROR UNSUPPORTED".toList

-- The sequence number of DATA as a packet ID; none is one that does not count.
def startPacket (protoMajor : Int) (ring : RingParams) (seqStr : Text) : Option UInt64 :=
  if protoMajor = 4 then (tryParseDigits seqStr).filter (· ≠ 0)
  else ((tryParseHex seqStr).filter (· ≠ 0xFFFFFF)).map fun hexseq =>
    if ring.latestId ≤ Constants.ringIdMaximum then (ring.latestId &&& 0xFFFFFFFFFF000000) ||| (hexseq.toUInt64 &&& 0xFFFFFF)
    else hexseq.toUInt64 &&& 0xFFFFFF

-- The packet ID that DATA leaves in the reader. A client asks for the packet after
-- the last one it has.
def dataPktId (protoMajor : Int) (ring : RingParams) (seqStr : Option Text) : UInt64 :=
  match seqStr with
  | none => Constants.ringIdNext
  | some seqStr =>
      if toUpperInvariant seqStr = "ALL".toList then Constants.ringIdEarliest
      else if seqStr = "-1".toList then Constants.ringIdNext
      else match startPacket protoMajor ring seqStr with
        | none => Constants.ringIdNext
        | some id => if id < Constants.ringIdMaximum ∧ id > 0 then id - 1 else id

-- FETCH is handled like DATA.
def handleData (ring : RingParams) (session : Session) (parts : List Text) : Outcome :=
  let pktId := dataPktId session.ext.protoMajor ring parts[1]?
  let session := session.withReader { session.client.reader with pktId := pktId }
  if session.ext.inStationMode then sendResponse session "OK".toList else silent session.streaming

def dbEnd (around : Surroundings) (ext : SLExtInfo) : NsTime := if ext.endTime = NsTime.unset then around.now else ext.endTime

def preFetch (around : Surroundings) (ext : SLExtInfo) (streamIds : List Text) : SLExtInfo :=
  match around.archive with
  | none => ext
  | some archive =>
      match archive.queryByTime streamIds ext.startTime (dbEnd around ext) 10000 with
      | some (record :: records) =>
          { ext with dbQueryStreamIds := streamIds, dbRecords := record :: records, dbQueryEndTime := dbEnd around ext }
      | _ => { ext with dbQueryStreamIds := streamIds }

def earlierStart (startTime : NsTime) (ext : SLExtInfo) : NsTime :=
  if ext.startTime = NsTime.unset ∨ startTime.value < ext.startTime.value then startTime else ext.startTime

def widenWindow (startTime endTime : NsTime) (ext : SLExtInfo) : SLExtInfo :=
  { ext with
    startTime := earlierStart startTime ext
    endTime := if endTime ≠ NsTime.unset then endTime else ext.endTime }

def storeTimes (startTime endTime : NsTime) (ext : SLExtInfo) : SLExtInfo :=
  { ext with
    startTime := earlierStart startTime ext
    endTime := if endTime ≠ NsTime.unset then endTime
      else if ext.endTime ≠ NsTime.unset ∧ startTime.value > ext.endTime.value then NsTime.unset
      else ext.endTime }

def handleTime (around : Surroundings) (fuel : Nat) (ring : RingParams) (session : Session) (parts : List Text) : Option Outcome :=
  match parts with
  | _ :: startStr :: behind =>
      let startTime := parseSeedLinkTime startStr
      let endTime := behind.head?.elim NsTime.unset parseSeedLinkTime
      let ext := session.ext
      if startTime = NsTime.error ∨ endTime = NsTime.error then some (sendResponse session "ERROR arguments".toList)
      else if ext.inStationMode then some (sendResponse (session.withExt (storeTimes startTime endTime ext)) "OK".toList)
      else do
        let ext := preFetch around (widenWindow startTime endTime ext) [['%']]
        let moved ← RingBuffer.after fuel ring session.client.reader startTime 0
        some (silent ((session.withExt ext).withReader moved.2).streaming)
  | _ => some (sendResponse session "ERROR arguments".toList)

-- END first looks for the packet that DATA has named; the flag tells whether it is there.
def positionById (fuel : Nat) (ring : RingParams) (reader : RingReader) : Option (RingReader × Bool) :=
  if 0 < reader.pktId ∧ reader.pktId < Constants.ringIdMaximum then do
    let (retval, reader) ← RingBuffer.position fuel ring reader reader.pktId NsTime.unset
    if retval = Constants.ringIdNone ∨ retval = Constants.ringIdError then
      some ({ reader with pktId := Constants.ringIdNext }, false)
    else some (reader, true)
  else some (reader, false)

def HasStart (ext : SLExtInfo) : Prop := ext.startTime ≠ NsTime.unset ∧ ext.startTime ≠ NsTime.error

instance (ext : SLExtInfo) : Decidable (HasStart ext) := inferInstanceAs (Decidable (_ ∧ _))

def archivePatterns (stations : List Text) : List Text :=
  if stations.isEmpty then [['%']] else stations.map fun staid => "FDSN:".toList ++ (staid ++ ['_', '%'])

-- What END leaves of the archive: a start seven days ago for DATA ALL without TIME,
-- and one query for a session.
def endArchive (around : Surroundings) (pktId : UInt64) (ext : SLExtInfo) : SLExtInfo :=
  let ext := if ext.startTime = NsTime.unset ∧ pktId = Constants.ringIdEarliest then
    { ext with startTime := around.weekAgo } else ext
  if HasStart ext ∧ ¬ ext.dbPreFetchDone then
    { preFetch around ext (archivePatterns ext.selectedStations) with dbPreFetchDone := true }
  else ext

-- A reader that is not on its packet goes to the start time of the session.
def positionByTime (fuel : Nat) (ring : RingParams) (ext : SLExtInfo) (reader : RingReader) (positioned : Bool) : Option RingReader :=
  if ¬ positioned ∧ HasStart ext then (RingBuffer.after fuel ring reader ext.startTime 0).map (·.2) else some reader

def matchStations (around : Surroundings) (ext : SLExtInfo) (reader : RingReader) : RingReader :=
  if ext.selectedStations.isEmpty then reader else setMatch around reader (buildMultiStationRegex ext.selectedStations)

def nextForNone (reader : RingReader) : RingReader :=
  if reader.pktId = Constants.ringIdNone then { reader with pktId := Constants.ringIdNext } else reader

def handleEnd (around : Surroundings) (fuel : Nat) (ring : RingParams) (session : Session) : Option Outcome :=
  if session.client.state = .stream then some (silent session)
  else do
    let (reader, positioned) ← positionById fuel ring session.client.reader
    let reader ← positionByTime fuel ring session.ext reader positioned
    let reader := matchStations around session.ext reader
    let ext := endArchive around reader.pktId session.ext
    some (silent ((session.withExt ext).withReader (nextForNone reader)).streaming)

def argument (cmd : Text) : Option Text :=
  if ' ' ∈ cmd then some (trim (cmd.dropWhile (· ≠ ' ')).tail) else none

def handleSelect (around : Surroundings) (session : Session) (cmd : Text) : Outcome :=
  match argument cmd with
  | none => silent session
  | some selector =>
      if selector.isEmpty then silent session
      else match convertV3Selector selector with
        | none => sendResponse session "ERROR".toList
        | some converted =>
            let reader := if session.client.state = .stream then session.client.reader
              else setMatch around session.client.reader (buildStreamRegex session.ext.currentStation (some converted))
            sendResponse (session.withReader reader) "OK".toList

-- MATCH, REJECT and LINT differ in the pattern they set; the reply does not tell
-- whether it compiles.
def handlePattern (set : RingReader → Option (Text → Bool) → RingReader) (around : Surroundings) (session : Session)
    (cmd : Text) : Outcome :=
  match argument cmd with
  | none => silent session
  | some pattern =>
      sendResponse (session.withReader (set session.client.reader (RingBuffer.updatePattern around.engine pattern).2)) "OK".toList

def handleMatch : Surroundings → Session → Text → Outcome := handlePattern fun reader code => { reader with matching := code }

def handleReject : Surroundings → Session → Text → Outcome := handlePattern fun reader code => { reader with reject := code }

def handleLimit : Surroundings → Session → Text → Outcome := handlePattern fun reader code => { reader with limit := code }

def putBEUInt16 (value : Nat) : List UInt8 := [UInt8.ofNat (value / 256), UInt8.ofNat value]

def infoCapacity : Nat := 456

def infoRecord (around : Surroundings) (errflag : Bool) (seqnum : Nat) (part : List UInt8) : List UInt8 :=
  let (year, yday, hour, min, sec) := around.utcNow
  let digits := decimal seqnum
  let seqStr := List.replicate (6 - digits.length) '0' ++ digits
  let channel := if errflag then "ERR".toList else "INF".toList
  encodeASCII (seqStr.take 6 ++ ("D INFO   ".toList ++ (channel ++ "XX".toList))) ++ (putBEUInt16 year ++ (putBEUInt16 yday ++
    ([UInt8.ofNat hour, UInt8.ofNat min, UInt8.ofNat sec, 0, 0, 0] ++ (putBEUInt16 part.length ++
      (List.replicate 7 0 ++ ([1, 0, 0, 0, 0] ++ (putBEUInt16 56 ++ (putBEUInt16 48 ++ (putBEUInt16 1000 ++
        ([0, 0, 0, 1, 9, 0] ++ (part ++ List.replicate (infoCapacity - part.length) 0)))))))))))

def infoFrames (around : Surroundings) (errflag : Bool) : Nat → Nat → List UInt8 → List (List UInt8)
  | 0, _, _ => []
  | fuel + 1, seqnum, xml =>
      let lastRecord := xml.length ≤ infoCapacity
      let header := if lastRecord then "SLINFO  ".toList else "SLINFO *".toList
      (encodeASCII header ++ infoRecord around errflag seqnum (xml.take infoCapacity)) ::
        if lastRecord then [] else infoFrames around errflag fuel (seqnum + 1) (xml.drop infoCapacity)

def sendInfoMseed (around : Surroundings) (session : Session) (xml : List UInt8) (errflag : Bool) : Outcome :=
  ⟨0, session, infoFrames around errflag (xml.length + 1) 1 xml⟩

-- The streams of an INFO document are those of the whole ring.
def handleInfo (around : Surroundings) (ring : RingParams) (session : Session) (parts : List Text) : Option Outcome :=
  let level := parts[1]?.elim "ID".toList toUpperInvariant
  let document (type : Text) (streams : List RingStream) (errflag : Bool) : Outcome :=
    sendInfoMseed around session (around.engine.infoXml type session.client ring session.ext.currentStation streams) errflag
  if level = "ID".toList then some (document level [] false)
  else if level = "STREAMS".toList ∨ level = "STATIONS".toList then
    (RingBuffer.getStreamsStack ring none).map fun streams => document level streams.reverse false
  else if level = "CAPABILITIES".toList then some (document level [] false)
  else if level = "CONNECTIONS".toList ∧ session.client.trusted then some (document level [] false)
  else some (document "ID".toList [] true)

def handleRequest (around : Surroundings) (ring : RingParams) (session : Session) (cmd command : Text) (parts : List Text) :
    Option Outcome :=
  if command = "HELLO".toList ∨ command = "ID".toList then some (sendHello around session)
  else if command = "INFO".toList then handleInfo around ring session parts
  else if command = "CAT".toList then sendCatalog around ring session
  else if command = "CAPABILITIES".toList ∨ command = "USERAGENT".toList ∨ command = "BATCH".toList then
    some (sendResponse session "OK".toList)
  else if command = "SLPROTO".toList then some (handleSlProto session parts)
  else if command = "STATION".toList then some (handleStation around session parts)
  else if command = "SELECT".toList then some (handleSelect around session cmd)
  else if command = "MATCH".toList ∧ 1 < parts.length then some (handleMatch around session cmd)
  else if command = "REJECT".toList ∧ 1 < parts.length then some (handleReject around session cmd)
  else if command = "LINT".toList ∧ 1 < parts.length then some (handleLimit around session cmd)
  else if command = "BYE".toList then some ⟨1, session, []⟩
  else some (silent session)

def commandText (line : List UInt8) : Text := (decodeASCII line).rdropWhile fun c => c = '\n' || c = '\r'

def handleCommand (around : Surroundings) (fuel : Nat) (ring : RingParams) (session : Session) (line : List UInt8) :
    Option Outcome :=
  match splitWords (commandText line) with
  | [] => some (silent session)
  | word :: arguments =>
      let parts := word :: arguments
      let command := toUpperInvariant word
      if command = "DATA".toList ∨ command = "FETCH".toList then some (handleData ring session parts)
      else if command = "TIME".toList then handleTime around fuel ring session parts
      else if command = "STREAM".toList then
        some (sendResponse (session.withReader { session.client.reader with pktId := Constants.ringIdEarliest }).streaming "OK".toList)
      else if command = "END".toList ∨ command = "ENDFETCH".toList then handleEnd around fuel ring session
      else handleRequest around ring session (commandText line) command parts

end SeedLink

end RingServer
