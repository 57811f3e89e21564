import RingServer.Library.Grouping
import RingServer.Library.Xml
import RingServer.Net.IdleTimeout
import RingServer.Net.Detection
import RingServer.Protocols.SourceCodes

set_option autoImplicit false

namespace RingServer

open Library Xml

-- How the library writes a DateTime of so many nanoseconds, a double with the format F1 and
-- the time of the request; a double is its bit pattern, and seconds is the division by
-- NsModulus. No culture has markup in a number or a time.
structure Formats where
  dateTime : Int64 → Text
  fixed : UInt64 → Text
  seconds : Int64 → UInt64
  utcNow : Text
  dateTimeVerbatim : ∀ value, Verbatim (dateTime value)
  fixedVerbatim : ∀ value, Verbatim (fixed value)
  utcNowVerbatim : Verbatim utcNow

def NsTime.toIsoString (formats : Formats) (t : NsTime) : Text :=
  if t = NsTime.unset then "UNSET".toList
  else if t = NsTime.error then "ERROR".toList
  else formats.dateTime t.value ++ ['Z']

-- The fields of RingParams that only an INFO document shows.
structure RingStatus where
  ring : RingParams
  mmapFlag : UInt8
  txPacketRate : UInt64
  txByteRate : UInt64
  rxPacketRate : UInt64
  rxByteRate : UInt64

-- Undetermined is none.
structure ClientStatus where
  type : Option Net.ClientType
  tls : Bool
  hostname : Text
  ipStr : Text
  portStr : Text
  clientId : Text
  connTime : NsTime
  matchStr : Option Text
  rejectStr : Option Text
  streamsCount : Int32
  reader : Option RingReader
  txPackets : UInt64
  txPacketRate : UInt64
  txBytes : UInt64
  txByteRate : UInt64
  rxPackets : UInt64
  rxPacketRate : UInt64
  rxBytes : UInt64
  rxByteRate : UInt64

-- Td?.State, and Params; none is a thread for connections without ListenPortParams.
structure ServerThread where
  state : Option Net.ThreadState
  params : Option Config.SThread

-- Td.State, and Td?.PrivatePtr where that is a ClientInfo.
structure CThread where
  state : Net.ThreadState
  client : Option ClientStatus

structure ServerParams where
  serverStartTime : NsTime
  clientCount : Int32
  sthreads : List ServerThread
  cthreads : List CThread

-- What a request finds: new Regex, where none is an exception, and NSnow at the row of each
-- stream.
structure Listed where
  formats : Formats
  compile : Text → Option (Text → Bool)
  now : RingStream → NsTime
  serverId : Option Text
  params : ServerParams
  status : RingStatus

def attributesOf (values : List (String × Text)) : List Attribute := values.map fun value => (value.1.toList, value.2)

namespace Net

def ThreadState.upper : ThreadState → Text
  | .spawning => "SPAWNING".toList
  | .active => "ACTIVE".toList
  | .close => "CLOSE".toList
  | .closing => "CLOSING".toList
  | .closed => "CLOSED".toList

def genProtocolString (protocols : Config.ListenProtocols) (options : Config.ListenOptions) : Text :=
  let part (has : Bool) (name : String) : List Text := if has then [name.toList] else []
  ", ".toList.intercalate (part protocols.dataLink "DataLink" ++ part protocols.seedLink "SeedLink" ++ part protocols.http "HTTP" ++
    part options.tls "TLS" ++ part options.ipv4 "IPv4" ++ part options.ipv6 "IPv6")

end Net

namespace DataLink

def iso (formats : Formats) (t : NsTime) : Text := if t = NsTime.unset then ['-'] else NsTime.toIsoString formats t

def flagText (flag : Bool) : Text := if flag then "TRUE".toList else "FALSE".toList

def infoCapabilities (ring : RingParams) (writePerm : Bool) : Text :=
  "DLPROTO:1.1".toList ++ (" PACKETSIZE:".toList ++ (decimal (ring.pktSize - UInt32.ofNat RingPacket.serializedSize).toNat ++
    if writePerm then " WRITE".toList else []))

section

variable (listed : Listed)

def rootValues (client : ClientInfo) : List Attribute :=
  attributesOf [("Version", "RingServer/4.0.1-csharp".toList), ("ServerID", listed.serverId.getD "Ring Server".toList),
    ("Capabilities", infoCapabilities listed.status.ring client.writePerm)]

def statusValues : List Attribute :=
  let rp := listed.status.ring
  let formats := listed.formats
  attributesOf [("StartTime", iso formats listed.params.serverStartTime), ("RingVersion", decimal Constants.ringVersion.toNat),
    ("RingSize", decimal rp.ringSize.toNat), ("PacketSize", decimal rp.pktSize.toNat), ("MaximumPackets", decimal rp.maxPackets.toNat),
    ("MemoryMappedRing", flagText (listed.status.mmapFlag > 0)), ("VolatileRing", flagText (rp.volatileFlag > 0)),
    ("TotalConnections", decimalInt listed.params.clientCount.toInt), ("TotalStreams", decimal rp.streamCount.toNat),
    ("TXPacketRate", formats.fixed listed.status.txPacketRate), ("TXByteRate", formats.fixed listed.status.txByteRate),
    ("RXPacketRate", formats.fixed listed.status.rxPacketRate), ("RXByteRate", formats.fixed listed.status.rxByteRate),
    ("EarliestPacketID", decimal rp.earliestId.toNat), ("LatestPacketID", decimal rp.latestId.toNat),
    ("EarliestPacketCreationTime", iso formats rp.earliestPTime), ("EarliestPacketDataStartTime", iso formats rp.earliestDsTime),
    ("EarliestPacketDataEndTime", iso formats rp.earliestDeTime), ("LatestPacketCreationTime", iso formats rp.latestPTime),
    ("LatestPacketDataStartTime", iso formats rp.latestDsTime), ("LatestPacketDataEndTime", iso formats rp.latestDeTime)]

def threadValues (thread : ServerThread) : List Attribute :=
  let state := thread.state.elim "UNKNOWN".toList Net.ThreadState.upper
  match thread.params with
  | some (.listen lpp _) =>
      attributesOf [("Flags", state), ("Type", Net.genProtocolString lpp.protocols lpp.options), ("Port", lpp.portStr)]
  | some (.mSeedScan _) => attributesOf [("Flags", state), ("Type", "miniSEED scanner".toList)]
  | none => attributesOf [("Flags", state), ("Type", "Unknown Thread".toList)]

-- LatestPacketDataStartTime is given LatestDeTime.
def streamValues (st : RingStream) : List Attribute :=
  let formats := listed.formats
  let latency := if st.latestDeTime = NsTime.unset then 0 else (listed.now st).value - st.latestDeTime.value
  attributesOf [("Name", st.streamId), ("EarliestPacketID", decimal st.earliestId.toNat),
    ("EarliestPacketDataStartTime", iso formats st.earliestDsTime), ("LatestPacketID", decimal st.latestId.toNat),
    ("LatestPacketDataStartTime", iso formats st.latestDeTime), ("LatestPacketDataEndTime", iso formats st.latestDeTime),
    ("DataLatency", formats.fixed (formats.seconds latency))]

def connectionType (tc : ClientStatus) : Text :=
  match tc.type with
  | some .dataLink => if tc.tls then "DataLink:TLS".toList else "DataLink".toList
  | some .seedLink => if tc.tls then "SeedLink:TLS".toList else "SeedLink".toList
  | some .http => if tc.tls then "HTTPS".toList else "HTTP".toList
  | none => "Unknown".toList

def connectionValues (tc : ClientStatus) : List Attribute :=
  let formats := listed.formats
  attributesOf [("Type", connectionType tc), ("Host", tc.hostname), ("IP", tc.ipStr), ("Port", tc.portStr), ("ClientID", tc.clientId),
    ("ConnectionTime", iso formats tc.connTime), ("Match", tc.matchStr.getD ['-']), ("Reject", tc.rejectStr.getD ['-']),
    ("StreamCount", decimalInt tc.streamsCount.toInt), ("PacketID", decimal (tc.reader.elim 0 (·.pktId)).toNat),
    ("PacketDataStartTime", ['-']), ("PacketCreationTime", tc.reader.elim ['-'] fun reader => iso formats reader.pktTime),
    ("TXPacketCount", decimal tc.txPackets.toNat), ("TXPacketRate", formats.fixed tc.txPacketRate),
    ("TXByteCount", decimal tc.txBytes.toNat), ("TXByteRate", formats.fixed tc.txByteRate),
    ("RXPacketCount", decimal tc.rxPackets.toNat), ("RXPacketRate", formats.fixed tc.rxPacketRate),
    ("RXByteCount", decimal tc.rxBytes.toNat), ("RXByteRate", formats.fixed tc.rxByteRate)]

def infoPattern (matchexpr : Option Text) : Option (Text → Bool) := (matchexpr.filter fun text => !text.isEmpty).bind listed.compile

def selectedStreams (matchexpr : Option Text) (stk : List RingStream) : List RingStream :=
  stk.filter fun st => (infoPattern listed matchexpr).all (· st.streamId)

def selectedClients (matchexpr : Option Text) : List ClientStatus :=
  (listed.params.cthreads.filterMap (·.client)).filter fun tc =>
    (infoPattern listed matchexpr).all fun m => m tc.hostname || m tc.ipStr || m tc.clientId

def threadTag (thread : ServerThread) : Tag := .empty "Thread".toList (threadValues thread)

def streamTag (st : RingStream) : Tag := .empty "Stream".toList (streamValues listed st)

def connectionTag (tc : ClientStatus) : Tag := .empty "Connection".toList (connectionValues listed tc)

def infoSection (type : Text) (client : ClientInfo) (matchexpr : Option Text) (stk : List RingStream) : List Tag :=
  if type = "STATUS".toList ∧ client.trusted then
    .start "ServerThreads".toList (attributesOf [("TotalServerThreads", decimal listed.params.sthreads.length)]) ::
      (listed.params.sthreads.map threadTag ++ [.finish "ServerThreads".toList])
  else if type = "STREAMS".toList then
    let selected := selectedStreams listed matchexpr stk
    .start "StreamList".toList (attributesOf [("TotalStreams", decimal listed.status.ring.streamCount.toNat),
        ("SelectedStreams", decimal selected.length)]) ::
      (selected.map (streamTag listed) ++ [.finish "StreamList".toList])
  else if type = "CONNECTIONS".toList then
    .start "ConnectionList".toList [] ::
      ((selectedClients listed matchexpr).map (connectionTag listed) ++ [.finish "ConnectionList".toList])
  else []

def infoTags (type : Text) (client : ClientInfo) (matchexpr : Option Text) (stk : List RingStream) : List Tag :=
  .start "DataLink".toList (rootValues listed client) ::
    ((.empty "Status".toList (statusValues listed) :: infoSection listed type client matchexpr stk) ++ [.finish "DataLink".toList])

-- Each value is appended as it is. stk has the streams in the order in which they are popped.
def generateInfoXml (type : Text) (client : ClientInfo) (matchexpr : Option Text) (stk : List RingStream) : Text :=
  (infoTags listed type client matchexpr stk).flatMap Tag.text

end

end DataLink

namespace SeedLink

-- string.Replace of one character.
def replace (c : Char) (newValue s : Text) : Text := s.flatMap fun d => if d = c then newValue else [d]

def escapeXml (s : Text) : Text :=
  replace apostrophe "&apos;".toList (replace quotation "&quot;".toList (replace '>' "&gt;".toList
    (replace '<' "&lt;".toList (replace '&' "&amp;".toList s))))

def line (indent : Nat) (tag : Tag) : Text := List.replicate indent ' ' ++ (tag.text ++ ['\r', '\n'])

def prolog : Text := declaration ++ ['\r', '\n']

def trimmedId (st : RingStream) : Text := trimBoth (fun c => c = Char.ofNat 0 || c = ' ') st.streamId

def stationKey (st : RingStream) : Text := parseStationKey (trimmedId st)

def splitKey (key : Text) : Text × Text :=
  if key.contains '_' then (key.takeWhile (· ≠ '_'), (key.dropWhile (· ≠ '_')).tail) else ([], key)

def isTarget (targetStation : Option Text) (key : Text) : Bool :=
  targetStation.all fun target => target.isEmpty || toUpperInvariant key = toUpperInvariant target

def beginSeq (streams : List RingStream) : UInt64 :=
  let first := streams.foldl (fun seq s => if s.earliestId < seq then s.earliestId else seq) 0xFFFFFFFFFFFFFFFF
  if first = 0xFFFFFFFFFFFFFFFF then 0 else first

def endSeq (streams : List RingStream) : UInt64 := streams.foldl (fun seq s => if s.latestId > seq then s.latestId else seq) 0

def streamTime (formats : Formats) (t : NsTime) : Text := if t = NsTime.unset ∨ t.value = 0 then [] else NsTime.toIsoString formats t

def capabilityNames : List String :=
  ["dialup", "multistation", "window-extraction", "info:id", "info:capabilities", "info:stations", "info:streams", "info:connections"]

def network (tc : ClientStatus) : Text :=
  match tc.type with
  | some .dataLink => "DL".toList
  | some .seedLink => "SL".toList
  | some .http => "HP".toList
  | none => "??".toList

section

variable (spell : Text → Text) (listed : Listed)

-- The attributes of the elements, where spell writes the values that the source gives to
-- EscapeXml.
def seedlinkValues : List Attribute :=
  attributesOf [("software", spell slServerId), ("organization", spell (listed.serverId.getD "RingServer".toList)),
    ("started", listed.formats.utcNow)]

def stationValues (key : Text) (streams : List RingStream) : List Attribute :=
  attributesOf [("name", spell (splitKey key).2), ("network", spell (splitKey key).1), ("description", "Station ID ".toList ++ spell key),
    ("begin_seq", decimal (beginSeq streams).toNat), ("end_seq", decimal (endSeq streams).toNat), ("stream_check", "enabled".toList)]

def streamValues (s : RingStream) : List Attribute :=
  let components := parseStreamComponents (trimmedId s)
  attributesOf [("location", spell components.1), ("seedname", spell components.2), ("type", "D".toList),
    ("begin_time", spell (streamTime listed.formats s.earliestDsTime)), ("end_time", spell (streamTime listed.formats s.latestDeTime))]

def clientValues (tc : ClientStatus) : List Attribute :=
  attributesOf [("name", "CLIENT".toList), ("network", network tc), ("description", "Ringserver Client".toList), ("begin_seq", ['0']),
    ("end_seq", ['0']), ("stream_check", "enabled".toList)]

def connectionValues (tc : ClientStatus) : List Attribute :=
  let ctime := if tc.connTime = NsTime.unset then [] else NsTime.toIsoString listed.formats tc.connTime
  let pktId := tc.reader.elim 0 (·.pktId)
  let pktid := if pktId > 0 ∧ pktId ≤ Constants.ringIdMaximum then decimal pktId.toNat else ['0']
  attributesOf [("host", spell tc.hostname), ("port", spell tc.portStr), ("ctime", spell ctime), ("begin_seq", ['0']),
    ("current_seq", pktid), ("sequence_gaps", ['0']), ("txcount", decimal tc.txPackets.toNat), ("totBytes", decimal tc.txBytes.toNat),
    ("begin_seq_valid", "yes".toList), ("realtime", "yes".toList), ("end_of_data", "no".toList)]

end

section

variable (listed : Listed)

def buildInfoIdXml : Text := prolog ++ line 0 (.empty "seedlink".toList (seedlinkValues escapeXml listed))

def capabilityTag (name : String) : Tag := .empty "capability".toList (attributesOf [("name", name.toList)])

def buildInfoCapabilitiesXml : Text :=
  prolog ++ (line 0 (.start "seedlink".toList (seedlinkValues escapeXml listed)) ++
    (capabilityNames.flatMap (fun name => line 2 (capabilityTag name)) ++ line 0 (.finish "seedlink".toList)))

def stationXml (includeStreams : Bool) (kvp : Text × List RingStream) : Text :=
  line 2 (.start "station".toList (stationValues escapeXml kvp.1 kvp.2)) ++
    ((if includeStreams then kvp.2.flatMap fun s => line 4 (.empty "stream".toList (streamValues escapeXml listed s)) else []) ++
      line 2 (.finish "station".toList))

-- The dictionary lists its keys in the order in which they came.
def buildInfoStreamsXml (includeStreams : Bool) (targetStation : Option Text) (streams : List RingStream) : Text :=
  prolog ++ (line 0 (.start "seedlink".toList (seedlinkValues escapeXml listed)) ++
    (((Grouping.group stationKey streams).filter fun kvp => isTarget targetStation kvp.1).flatMap (stationXml listed includeStreams) ++
      line 0 (.finish "seedlink".toList)))

def activeClients : List ClientStatus := (listed.params.cthreads.filter fun curr => curr.state = .active).filterMap (·.client)

def clientXml (tc : ClientStatus) : Text :=
  line 2 (.start "station".toList (clientValues tc)) ++
    (line 4 (.empty "connection".toList (connectionValues escapeXml listed tc)) ++ line 2 (.finish "station".toList))

def buildInfoConnectionsXml : Text :=
  prolog ++ (line 0 (.start "seedlink".toList (seedlinkValues escapeXml listed)) ++
    ((activeClients listed).flatMap (clientXml listed) ++ line 0 (.finish "seedlink".toList)))

end

end SeedLink

end RingServer
