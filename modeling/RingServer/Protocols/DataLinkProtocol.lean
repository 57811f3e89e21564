import RingServer.Protocols.DataLinkCommand
import RingServer.Ring.RingFile

set_option autoImplicit false

namespace RingServer

inductive ClientState where
  | command
  | station
  | ringConfig
  | stream
deriving DecidableEq

-- A time window limit below 1 is given as the number of packets it makes of
-- MaxPackets.
inductive TimeWinLimit where
  | whole
  | part (packets : UInt64 → UInt64)
  | invalid

structure ClientInfo where
  dlCommand : List UInt8
  state : ClientState
  writePerm : Bool
  trusted : Bool
  timeWinLimit : TimeWinLimit
  reader : RingReader

-- What the handlers take from the runtime: new Regex, where none is an exception
-- that UpdatePattern catches, UTF-8 decoding, and the text around the streams in
-- an INFO document.
structure Engine where
  compile : Text → Option (Text → Bool)
  decodeUTF8 : List UInt8 → Text
  infoXml : Text → ClientInfo → RingParams → Option Text → List RingStream → List UInt8

namespace RingBuffer

def updatePattern (engine : Engine) (pattern : Text) : Bool × Option (Text → Bool) :=
  if pattern.isEmpty then (true, none)
  else match engine.compile pattern with
    | some code => (true, some code)
    | none => (false, none)

end RingBuffer

namespace DataLink

open Library

def maxRegexLen : Int := 1048576

structure Reply where
  header : Text
  data : Option (List UInt8)
  value : UInt64
  addVal : Bool
  addSz : Bool

def Reply.dataBytes (reply : Reply) : List UInt8 := reply.data.getD []

def Reply.headerText (reply : Reply) : Text :=
  let size := decimal reply.dataBytes.length
  if reply.addVal && reply.addSz then reply.header ++ ' ' :: (decimal reply.value.toNat ++ ' ' :: size)
  else if reply.addVal then reply.header ++ ' ' :: decimal reply.value.toNat
  else if reply.addSz then reply.header ++ ' ' :: size
  else reply.header

-- The bytes that SendPacket hands to the socket; none is a header that is too long.
def sendPacket (reply : Reply) : Option (List UInt8) :=
  let headerBytes := encodeASCII reply.headerText
  if 255 < headerBytes.length then none
  else some ([68, 76, UInt8.ofNat headerBytes.length] ++ headerBytes ++ reply.dataBytes)

-- The messages are ASCII, where UTF-8 and ASCII encode alike.
def errorReply (message : Text) : Reply := ⟨"ERROR".toList, some (encodeASCII message), 0, false, false⟩

def sizedErrorReply (message : Text) : Reply := ⟨"ERROR".toList, some (encodeASCII message), 0, true, true⟩

def okReply (message : Text) (value : UInt64) : Reply := ⟨"OK".toList, some (encodeASCII message), value, true, true⟩

-- What a handler leaves when the sends succeed: its return value, the ring, the
-- client and the replies in order.
structure Outcome where
  code : Int
  ring : RingParams
  client : ClientInfo
  sent : List Reply

-- A handler may read a payload with RecvData before it goes on; lost is the outcome
-- when RecvData fails. An inner none is an exception.
inductive Handling where
  | throws
  | returns (outcome : Outcome)
  | receives (size : Nat) (next : List UInt8 → Option Outcome) (lost : Outcome)

def Handling.ofOption : Option Outcome → Handling
  | some outcome => .returns outcome
  | none => .throws

def returnSend (ring : RingParams) (client : ClientInfo) (reply : Reply) : Outcome :=
  if (sendPacket reply).isSome then ⟨0, ring, client, [reply]⟩ else ⟨-1, ring, client, []⟩

def refuse (ring : RingParams) (client : ClientInfo) (reply : Reply) : Outcome :=
  ⟨-1, ring, client, (returnSend ring client reply).sent⟩

def showId (id : UInt64) : Text := decimal id.toNat

def packetSize (ring : RingParams) : UInt32 := ring.pktSize - 112

def idReply (ring : RingParams) (client : ClientInfo) : Reply :=
  let capability := "PACKETSIZE:".toList ++ decimal (packetSize ring).toNat ++ (if client.writePerm then " WRITE".toList else [])
  ⟨"ID DataLink v1.1 (RingServer/4.0.1-csharp) :: DLPROTO:1.1 ".toList ++ capability, none, 0, false, false⟩

def positioned (ring : RingParams) (client : ClientInfo) (result : UInt64 × RingReader) : Outcome :=
  let client := { client with reader := result.2 }
  if result.1 = Constants.ringIdError then refuse ring client (errorReply "Error positioning reader".toList)
  else if result.1 = Constants.ringIdNone then refuse ring client (errorReply "Packet not found".toList)
  else returnSend ring client (okReply ("Positioned to packet ID ".toList ++ showId result.1) result.1)

def microseconds (time : Int64) : NsTime := ⟨time * 1000⟩

def handlePosition (fuel : Nat) (ring : RingParams) (client : ClientInfo) (parts : List Text) : Option Outcome :=
  match parts with
  | _ :: subcmd :: valueStr :: behind =>
      if 1 < behind.length then some (refuse ring client (errorReply "POSITION requires 2 or 3 arguments".toList))
      else if toUpperInvariant subcmd = "SET".toList then
        let target : Option (UInt64 × NsTime) :=
          if toUpperInvariant valueStr = "EARLIEST".toList then some (Constants.ringIdEarliest, NsTime.unset)
          else if toUpperInvariant valueStr = "LATEST".toList then some (Constants.ringIdLatest, NsTime.unset)
          else (tryParseULong valueStr).map fun id =>
            (id, match behind with
              | [] => NsTime.unset
              | timeStr :: _ => ((tryParseLong timeStr).map microseconds).getD NsTime.unset)
        match target with
        | none => some (refuse ring client (errorReply "Error with POSITION SET value".toList))
        | some (pktId, nstime) => (RingBuffer.position fuel ring client.reader pktId nstime).map (positioned ring client)
      else if toUpperInvariant subcmd = "AFTER".toList ∨ toUpperInvariant subcmd = "AFTERREV".toList then
        match tryParseLong valueStr with
        | none => some (refuse ring client (errorReply "Error with POSITION AFTER time".toList))
        | some ht =>
            match client.timeWinLimit with
            | .whole =>
                if toUpperInvariant subcmd = "AFTERREV".toList then
                  (RingBuffer.afterRev fuel ring client.reader (microseconds ht) 0).map (positioned ring client)
                else (RingBuffer.after fuel ring client.reader (microseconds ht) 1).map (positioned ring client)
            | .part packets =>
                (RingBuffer.afterRev fuel ring client.reader (microseconds ht) (packets ring.maxPackets)).map (positioned ring client)
            | .invalid => some (refuse ring client (errorReply "time window search limit is invalid".toList))
      else some (refuse ring client (errorReply "Unsupported POSITION subcommand".toList))
  | _ => some (refuse ring client (errorReply "POSITION requires 2 or 3 arguments".toList))

def selected (ring : RingParams) (client : ClientInfo) (word : Text) : Option Outcome := do
  let streams ← RingBuffer.getStreamsStack ring (some client.reader)
  some (returnSend ring client (okReply (decimal streams.length ++ " streams selected after ".toList ++ word)
    (UInt64.ofNat streams.length)))

-- MATCH and REJECT differ in the word of their messages and in the pattern they set.
def handlePattern (word : Text) (set : RingReader → Option (Text → Bool) → RingReader) (engine : Engine) (ring : RingParams)
    (client : ClientInfo) (parts : List Text) : Handling :=
  match parts with
  | _ :: sizeStr :: _ =>
      match tryParseInt sizeStr with
      | none => .returns ⟨-1, ring, client, []⟩
      | some size =>
          if size = 0 then
            .ofOption (selected ring { client with reader := set client.reader none } word)
          else if maxRegexLen < size then
            .returns (refuse ring client (sizedErrorReply (word ++ " expression too large, must be <= 1048576".toList)))
          -- new byte[size] with a negative size
          else if size < 0 then .throws
          else .receives size.toNat
            (fun regexBytes =>
              let updated := RingBuffer.updatePattern engine (engine.decodeUTF8 regexBytes)
              let client := { client with reader := set client.reader updated.2 }
              if updated.1 then selected ring client word
              else some (refuse ring client (errorReply ("Error with ".toList ++ word ++ " expression".toList))))
            ⟨-1, ring, client, []⟩
  | _ => .returns ⟨-1, ring, client, []⟩

def handleMatch : Engine → RingParams → ClientInfo → List Text → Handling :=
  handlePattern "match".toList fun reader code => { reader with matching := code }

def handleReject : Engine → RingParams → ClientInfo → List Text → Handling :=
  handlePattern "reject".toList fun reader code => { reader with reject := code }

-- The header of PACKET; the times are in microseconds, rounded towards zero.
def packetHeader (packet : RingPacket) : Text :=
  "PACKET ".toList ++ packet.streamId ++ ' ' :: (showId packet.pktId ++ ' ' :: (decimalInt (packet.pktTime.value / 1000).toInt ++
    ' ' :: (decimalInt (packet.dataStart.value / 1000).toInt ++ ' ' :: (decimalInt (packet.dataEnd.value / 1000).toInt ++
      ' ' :: decimal packet.dataSize.toNat))))

-- op: the serialized header of the packet and behind it DataSize bytes of the
-- packet data; none is a DataSize beyond the array.
def packetReply (packet : RingPacket) (data : List UInt8) : Option Reply :=
  if packet.dataSize.toNat ≤ data.length then
    some ⟨packetHeader packet, some (packet.serialize ++ data.take packet.dataSize.toNat), 0, false, false⟩
  else none

def newPacket : RingPacket := ⟨0, 0, ⟨0⟩, 0, [], ⟨0⟩, ⟨0⟩, 0⟩

-- new byte[PktSize - 112], filled with zeros; none is a size that no array has.
def newData (ring : RingParams) : Option (List UInt8) :=
  if RingBuffer.maxArrayLength < (packetSize ring).toNat then none else some (List.replicate (packetSize ring).toNat 0)

def handleRead (fuel : Nat) (ring : RingParams) (client : ClientInfo) (parts : List Text) : Option Outcome :=
  match parts with
  | _ :: idStr :: _ =>
      match tryParseULong idStr with
      | none => some ⟨-1, ring, client, []⟩
      | some _ => do
          let db ← newData ring
          let reading ← RingBuffer.readNext fuel ring client.reader newPacket (some db)
          let client := { client with reader := reading.reader }
          if reading.code = Constants.ringIdError then
            some (refuse ring client (errorReply "Error reading packet from ring".toList))
          else if reading.code = Constants.ringIdNone then
            some (refuse ring client (errorReply "Packet not found".toList))
          else do
            let reply ← packetReply reading.packet (reading.data.getD [])
            some (returnSend ring client reply)
  | _ => some (refuse ring client (errorReply "READ requires a single pktid argument".toList))

-- The streams of INFO STREAMS are those of the whole ring, behind the pattern of
-- the request where that compiles.
def infoStreams (engine : Engine) (ring : RingParams) (matchexpr : Option Text) : Option (List RingStream) := do
  let streams ← RingBuffer.getStreamsStack ring none
  let pattern := (matchexpr.filter fun text => !text.isEmpty).bind engine.compile
  some (streams.reverse.filter fun stream => pattern.all (· stream.streamId))

def handleInfo (engine : Engine) (ring : RingParams) (client : ClientInfo) (parts : List Text) : Option Outcome :=
  match parts with
  | _ :: level :: behind =>
      let type := toUpperInvariant level
      let matchexpr := if behind.isEmpty then none else some ([' '].intercalate behind)
      let document (streams : List RingStream) : Outcome :=
        returnSend ring client ⟨"INFO ".toList ++ type, some (engine.infoXml type client ring matchexpr streams), 0, false, true⟩
      if type = "STREAMS".toList then (infoStreams engine ring matchexpr).map document
      else if type = "STATUS".toList then some (document [])
      else if type = "CONNECTIONS".toList then
        if client.trusted then some (document [])
        else some (refuse ring client (sizedErrorReply "Access to CONNECTIONS denied".toList))
      else some (refuse ring client (sizedErrorReply ("Unrecognized INFO request type: ".toList ++ type)))
  | _ => some ⟨-1, ring, client, []⟩

def isCode (c : Char) : Bool := c.isDigit || c.isUpper

-- LegacyMseedStreamIdPattern; the end of the text may be a line feed.
def isLegacyStreamId (streamId : Text) : Bool :=
  let line := if streamId.getLast? = some '\n' then streamId.dropLast else streamId
  match line.splitOnP (fun c => c = '_') with
  | [net, sta, loc, chan] =>
      1 ≤ net.length && net.length ≤ 2 && net.all isCode && 1 ≤ sta.length && sta.length ≤ 5 && sta.all isCode &&
        loc.length ≤ 2 && loc.all isCode && chan.drop 3 = "/MSEED".toList && (chan.take 3).all isCode
  | _ => false

-- The underscores between the letters of the channel, with LastIndexOf('_') = lu.
def toFDSN (streamId : Text) : Text :=
  let chan := streamId.rtakeWhile (· ≠ '_')
  let before := streamId.take (streamId.length - chan.length - 1)
  if chan.length < streamId.length ∧ 3 < chan.length then
    "FDSN:".toList ++ before ++ '_' :: (chan.take 1 ++ '_' :: ((chan.drop 1).take 1 ++ '_' :: ((chan.drop 2).take 1 ++ chan.drop 3)))
  else streamId

def canonicalStreamId (streamId : Text) : Text :=
  if isLegacyStreamId streamId then toFDSN streamId else streamId

-- The packet ID of the request: None where Write is to choose one; TryParse leaves 0
-- in it where it fails.
def requestedId (flags : Text) (idStr : Option Text) : UInt64 :=
  match idStr with
  | some text => if 'I' ∈ flags then (tryParseULong text).getD 0 else Constants.ringIdNone
  | none => Constants.ringIdNone

-- HandleWrite once its payload is there.
def storePacket (clock : NsTime) (ring : RingParams) (client : ClientInfo) (flags : Text) (packet : RingPacket)
    (db : List UInt8) : Option Outcome := do
  let (rv, ring, packet) ← RingBuffer.write clock ring packet db packet.dataSize
  if rv ≠ 0 then some (refuse ring client (sizedErrorReply "Error adding packet to ring".toList))
  else if 'A' ∈ flags then some (returnSend ring client ⟨"OK".toList, none, packet.pktId, true, true⟩)
  else some ⟨0, ring, client, []⟩

def handleWrite (clock : NsTime) (ring : RingParams) (client : ClientInfo) (parts : List Text) : Handling :=
  match parts with
  | _ :: streamId :: startStr :: endStr :: flags :: sizeStr :: behind =>
      if Constants.maxStreamId - 1 < streamId.length then
        .returns (refuse ring client (sizedErrorReply "Error, stream ID too long".toList))
      else
        match tryParseLong startStr, tryParseLong endStr, tryParseUInt sizeStr with
        | some dsHt, some deHt, some dSize =>
            let streamId := canonicalStreamId streamId
            if ¬ client.reader.limit.all (· streamId) then
              .returns (refuse ring client (sizedErrorReply ("Error, permission denied for WRITE of stream ID: ".toList ++ streamId)))
            else if 112 + dSize > ring.pktSize then
              .returns (refuse ring client (sizedErrorReply ("Packet size (".toList ++ decimal dSize.toNat ++
                ") is too large for ring, maximum is ".toList ++ decimal (packetSize ring).toNat ++ " bytes".toList)))
            -- new byte[dSize]
            else if RingBuffer.maxArrayLength < dSize.toNat then .throws
            else .receives dSize.toNat
              (storePacket clock ring client flags ⟨0, requestedId flags behind.head?, ⟨0⟩, 0, streamId, microseconds dsHt,
                microseconds deHt, dSize⟩)
              ⟨-1, ring, client, []⟩
        | _, _, _ => .returns (refuse ring client (sizedErrorReply "Error parsing WRITE command parameters".toList))
  | _ => .returns (refuse ring client (sizedErrorReply "Error parsing WRITE command parameters".toList))

def handleNegotiation (engine : Engine) (fuel : Nat) (ring : RingParams) (client : ClientInfo) (command : Text)
    (parts : List Text) : Handling :=
  if command = "ID".toList then .returns (returnSend ring client (idReply ring client))
  else if command = "POSITION".toList then .ofOption (handlePosition fuel ring client parts)
  else if command = "MATCH".toList then handleMatch engine ring client parts
  else if command = "REJECT".toList then handleReject engine ring client parts
  else if command = "BYE".toList then .returns ⟨1, ring, client, []⟩
  else .returns (refuse ring client (errorReply "Unknown command".toList))

def handleCommand (engine : Engine) (fuel : Nat) (clock : NsTime) (ring : RingParams) (client : ClientInfo) : Handling :=
  match (readCommand client.dlCommand).parts with
  | [] => .returns ⟨0, ring, client, []⟩
  | word :: arguments =>
      let parts := word :: arguments
      let command := toUpperInvariant word
      if command = "WRITE".toList then
        if client.writePerm then handleWrite clock ring client parts
        else .returns (refuse ring client (errorReply "Write permission not granted, no soup for you!".toList))
      else if command = "INFO".toList then .ofOption (handleInfo engine ring client parts)
      else if command = "READ".toList then .ofOption (handleRead fuel ring { client with state := .command } parts)
      else if command = "STREAM".toList then
        let reader := if client.reader.pktId = Constants.ringIdNone then
          { client.reader with pktId := Constants.ringIdNext } else client.reader
        .returns ⟨0, ring, { client with reader := reader, state := .stream }, []⟩
      else if command = "ENDSTREAM".toList then
        .returns ⟨0, ring, { client with state := .command }, [⟨"ENDSTREAM".toList, none, 0, false, false⟩]⟩
      else
        let client := if command = "ID".toList then client else { client with state := .command }
        handleNegotiation engine fuel ring client command parts

-- StreamPackets: up to ten packets; the data buffer is cleared before each read and
-- the packet of the read before is handed in again.
def streamFrom (fuel : Nat) (ring : RingParams) : Nat → ClientInfo → RingPacket → List Reply → Option Outcome
  | 0, client, _, sent => some ⟨0, ring, client, sent⟩
  | rounds + 1, client, packet, sent => do
      let packetData ← newData ring
      let reading ← RingBuffer.readNext fuel ring client.reader packet (some packetData)
      let client := { client with reader := reading.reader }
      if reading.code = Constants.ringIdError then some ⟨-1, ring, client, sent⟩
      else if reading.code = Constants.ringIdNone then some ⟨0, ring, client, sent⟩
      else do
        let reply ← packetReply reading.packet (reading.data.getD [])
        if (sendPacket reply).isSome then streamFrom fuel ring rounds client reading.packet (sent ++ [reply])
        else some ⟨-1, ring, client, sent⟩

def streamPackets (fuel : Nat) (ring : RingParams) (client : ClientInfo) (cachedPacket : RingPacket) : Option Outcome :=
  if client.state = .stream then streamFrom fuel ring 10 client cachedPacket [] else some ⟨0, ring, client, []⟩

end DataLink

end RingServer
