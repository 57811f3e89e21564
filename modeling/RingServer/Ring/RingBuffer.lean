import Mathlib.Data.List.Lex
import Mathlib.Data.Char
import RingServer.Ring.RingTypes

set_option autoImplicit false

namespace RingServer.RingBuffer

open Library

def nextOffset (offset maxOffset : Int64) (pktSize : UInt32) : Int64 :=
  let result := offset + pktSize.toUInt64.toInt64
  if result > maxOffset then 0 else result

-- DataOffset + (int)offset, a 32-bit sum.
def bufOffset (ring : RingParams) (offset : Int64) : Int32 := ring.dataOffset + offset.toInt32

-- DataBuffer.AsSpan(start) with count bytes taken from it; none is an exception.
def spanAt (ring : RingParams) (start : Int32) (count : Nat) : Option (List UInt8) :=
  if start.toInt < 0 ∨ ring.dataBuffer.length < start.toInt + count then none
  else some (ring.dataBuffer.slice start.toInt.toNat count)

def readPacketAtOffset (ring : RingParams) (offset : Int64) : Option RingPacket :=
  if offset < 0 then none
  else if ring.dataBuffer.length < (bufOffset ring offset + 112).toInt then none
  else (spanAt ring (bufOffset ring offset) RingPacket.serializedSize).map RingPacket.deserialize

-- The node of a stream and its entry; the outer none is an exception.
def getStreamIdx (ring : RingParams) (streamId : Text) : Option (Option (NodeId × RingStream)) := do
  let node ← ring.streamIdx.find streamId
  some (node.bind fun node => (ring.streamIdx.nodes node).data.map fun stream => (node, stream))

def delStreamIdx (ring : RingParams) (streamId : Text) : Option RingParams := do
  match ← ring.streamIdx.find streamId with
  | none => some ring
  | some node => (ring.streamIdx.delete node).map fun tree => { ring with streamIdx := tree }

-- The removal of the earliest packet, whose slot the next packet takes.
def removeEarliest (ring : RingParams) (earliest : RingPacket) : Option RingParams := do
  let next := readPacketAtOffset ring (nextOffset earliest.offset ring.maxOffset ring.pktSize)
  let nextInStream := if earliest.nextInStream ≥ 0 then readPacketAtOffset ring earliest.nextInStream else none
  let streamOfEarliest ← getStreamIdx ring earliest.streamId
  let ring := { ring with
    earliestId := next.elim Constants.ringIdNone (·.pktId)
    earliestPTime := next.elim NsTime.unset (·.pktTime)
    earliestDsTime := next.elim NsTime.unset (·.dataStart)
    earliestDeTime := next.elim NsTime.unset (·.dataEnd)
    earliestOffset := next.elim (-1) (·.offset) }
  match streamOfEarliest with
  | none => some ring
  | some (node, stream) =>
      if earliest.offset = stream.earliestOffset ∧ earliest.offset = stream.latestOffset then
        (delStreamIdx ring earliest.streamId).map fun ring => { ring with streamCount := ring.streamCount - 1 }
      else match nextInStream with
        | none => some ring
        | some next => some { ring with
            streamIdx := ring.streamIdx.setData node { stream with
              earliestDsTime := next.dataStart
              earliestDeTime := next.dataEnd
              earliestPTime := next.pktTime
              earliestId := next.pktId
              earliestOffset := next.offset } }

def addStream (ring : RingParams) (packet : RingPacket) : Option (RingParams × NodeId × RingStream) := do
  match ← getStreamIdx ring packet.streamId with
  | some (node, stream) => some (ring, node, stream)
  | none =>
      let stream : RingStream :=
        { streamId := packet.streamId
          earliestDsTime := packet.dataStart
          earliestDeTime := packet.dataEnd
          earliestPTime := packet.pktTime
          earliestId := packet.pktId
          earliestOffset := packet.offset
          latestDsTime := ⟨0⟩
          latestDeTime := ⟨0⟩
          latestPTime := ⟨0⟩
          latestId := 0
          latestOffset := -1 }
      let (tree, node) ← ring.streamIdx.insert stream.streamId stream
      some ({ ring with streamIdx := tree, streamCount := ring.streamCount + 1 }, node, stream)

-- packetSpan: the header, the payload and zeros up to PktSize. Array.Copy throws
-- on a negative count and on a payload longer than the slot.
def packetSpan (pktSize : UInt32) (packet : RingPacket) (packetData : List UInt8) (dataSize : UInt32) : Option (List UInt8) :=
  let count : Int := min dataSize.toInt32.toInt packetData.length
  if pktSize.toNat < RingPacket.serializedSize then none
  else if dataSize > 0 ∧ (count < 0 ∨ pktSize.toNat < RingPacket.serializedSize + count) then none
  else
    let payload := if dataSize > 0 then packetData.take count.toNat else []
    some (packet.serialize ++ (payload ++ List.replicate (pktSize.toNat - RingPacket.serializedSize - payload.length) 0))

def copyTo (ring : RingParams) (start : Int32) (bytes : List UInt8) : Option RingParams :=
  if start.toInt < 0 ∨ ring.dataBuffer.length < start.toInt + bytes.length then none
  else some { ring with dataBuffer := ring.dataBuffer.blit start.toInt.toNat bytes }

-- The previous packet of the stream gets the offset of the new one; only the
-- header of its slot is written again.
def linkPrevious (ring : RingParams) (stream : RingStream) (packet : RingPacket) : Option RingParams :=
  if stream.latestOffset ≥ 0 then
    match readPacketAtOffset ring stream.latestOffset with
    | none => some ring
    | some previous =>
        copyTo ring (bufOffset ring stream.latestOffset) { previous with nextInStream := packet.offset }.serialize
  else some ring

def nextPktId (latest : RingPacket) : UInt64 :=
  let pktId := latest.pktId + 1
  if pktId > Constants.ringIdMaximum then 1 else pktId

-- Remove earliest packet if ring is full.
def makeRoom (ring : RingParams) (earliest latest : Option RingPacket) (packet : RingPacket) : Option RingParams :=
  match earliest with
  | some earliest =>
      if latest.isSome ∧ packet.offset = ring.earliestOffset then removeEarliest ring earliest else some ring
  | none => some ring

def setLatest (ring : RingParams) (packet : RingPacket) : RingParams :=
  { ring with
    latestId := packet.pktId
    latestPTime := packet.pktTime
    latestDsTime := packet.dataStart
    latestDeTime := packet.dataEnd
    latestOffset := packet.offset }

def setEarliest (ring : RingParams) (packet : RingPacket) : RingParams :=
  { ring with
    earliestId := packet.pktId
    earliestPTime := packet.pktTime
    earliestDsTime := packet.dataStart
    earliestDeTime := packet.dataEnd
    earliestOffset := packet.offset }

-- Write from the removal of the earliest packet on: packet has its final ID,
-- offset and time, earliest and latest are the ends of the ring before it.
def store (ring : RingParams) (earliest latest : Option RingPacket) (packet : RingPacket) (packetData : List UInt8)
    (dataSize : UInt32) : Option RingParams := do
  let ring ← makeRoom ring earliest latest packet
  let (ring, node, stream) ← addStream ring packet
  let span ← packetSpan ring.pktSize packet packetData dataSize
  let ring ← copyTo ring (bufOffset ring packet.offset) span
  let ring := setLatest ring packet
  let ring := if earliest.isNone then setEarliest ring packet else ring
  let ring ← linkPrevious ring stream packet
  let stream := { stream with
    latestDsTime := packet.dataStart
    latestDeTime := packet.dataEnd
    latestPTime := packet.pktTime
    latestId := packet.pktId
    latestOffset := packet.offset }
  some { ring with streamIdx := ring.streamIdx.setData node stream, fluxFlag := 0 }

-- Generic.NSnow() is the argument clock. The result is the return value, the
-- ring and the packet, whose ID, offset and time Write fills in.
def write (clock : NsTime) (ring : RingParams) (packet : RingPacket) (packetData : List UInt8) (dataSize : UInt32) :
    Option (Int × RingParams × RingPacket) :=
  if 112 + dataSize > ring.pktSize then some (-1, ring, packet)
  else
    let ring := { ring with fluxFlag := 1 }
    let earliest := if ring.earliestOffset ≥ 0 then readPacketAtOffset ring ring.earliestOffset else none
    let latest := if ring.latestOffset ≥ 0 then readPacketAtOffset ring ring.latestOffset else none
    let offset := latest.elim 0 fun latest => nextOffset latest.offset ring.maxOffset ring.pktSize
    let pktId := latest.elim 1 nextPktId
    let packet := { packet with
      pktId := if packet.pktId = Constants.ringIdNone then pktId else packet.pktId
      offset := offset
      pktTime := clock
      nextInStream := -1 }
    (store ring earliest latest packet packetData dataSize).map fun ring => (0, ring, packet)

-- A while loop takes one unit of fuel for each pass; none is a loop that has run
-- out of it, or an exception.
def findFrom (ring : RingParams) (pktId : UInt64) (eobOffset : Int64) : Nat → Int64 → Option (Option (Int64 × NsTime))
  | 0, _ => none
  | fuel + 1, offset =>
      if offset = eobOffset then some none
      else match readPacketAtOffset ring offset with
        | none => some none
        | some pkt =>
            if pkt.pktId = pktId then some (some (offset, pkt.pktTime))
            else
              let offset := nextOffset offset ring.maxOffset ring.pktSize
              if offset = ring.earliestOffset then some none
              else findFrom ring pktId eobOffset fuel offset

-- FindOffsetForID returns -1 for none.
def findOffsetForId (fuel : Nat) (ring : RingParams) (pktId : UInt64) : Option (Option (Int64 × NsTime)) :=
  if ring.earliestOffset < 0 ∨ ring.latestOffset < 0 then some none
  else findFrom ring pktId (nextOffset ring.latestOffset ring.maxOffset ring.pktSize) fuel ring.earliestOffset

-- What a reading call leaves: the returned value, the reader and the packet and
-- data of the caller.
structure Reading where
  code : UInt64
  reader : RingReader
  packet : RingPacket
  data : Option (List UInt8)

-- Copy packet data, where it is asked for and lies inside the buffer.
def copyData (ring : RingParams) (offset : Int64) (dataSize : UInt32) (data : Option (List UInt8)) :
    Option (Option (List UInt8)) :=
  match data with
  | none => some none
  | some packetData =>
      if dataSize > 0 then
        let start := bufOffset ring offset + 112
        let count := dataSize.toInt32
        if (start + count).toInt ≤ ring.dataBuffer.length then
          if count.toInt < 0 ∨ packetData.length < count.toInt then none
          else (spanAt ring start count.toInt.toNat).map fun bytes => some (bytes ++ packetData.drop count.toInt.toNat)
        else some (some packetData)
      else some (some packetData)

def moveTo (reader : RingReader) (offset : Int64) (pkt : RingPacket) : RingReader :=
  { reader with
    pktOffset := offset
    pktId := pkt.pktId
    pktTime := pkt.pktTime
    dataStart := pkt.dataStart
    dataEnd := pkt.dataEnd }

def read (fuel : Nat) (ring : RingParams) (reader : RingReader) (reqId : UInt64) (packet : RingPacket)
    (data : Option (List UInt8)) : Option Reading :=
  if reqId > Constants.ringIdMaximum then some ⟨Constants.ringIdError, reader, packet, data⟩
  else do
    match ← findOffsetForId fuel ring reqId with
    | none => some ⟨Constants.ringIdNone, reader, packet, data⟩
    | some (offset, _) =>
        match readPacketAtOffset ring offset with
        | none => some ⟨Constants.ringIdNone, reader, packet, data⟩
        | some pkt =>
            let data ← copyData ring offset pkt.dataSize data
            if reqId ≠ pkt.pktId then some ⟨Constants.ringIdNone, reader, pkt, data⟩
            else some ⟨reqId, moveTo reader pkt.offset pkt, pkt, data⟩

def passes (reader : RingReader) (streamId : Text) : Bool :=
  reader.limit.all (· streamId) && reader.matching.all (· streamId) && !reader.reject.any (· streamId)

def readNextFrom (ring : RingParams) (latestPTime : NsTime) (eobOffset : Int64) (packet : RingPacket)
    (data : Option (List UInt8)) : Nat → Nat → RingReader → Int64 → Option Reading
  | 0, _, _, _ => none
  | fuel + 1, skipped, reader, offset =>
      if offset = eobOffset then some ⟨Constants.ringIdNone, reader, packet, data⟩
      else match readPacketAtOffset ring offset with
        | none => some ⟨Constants.ringIdNone, reader, packet, data⟩
        | some pkt =>
            if pkt.pktTime.value > latestPTime.value then
              if skipped + 1 ≥ 100 then some ⟨Constants.ringIdNone, reader, packet, data⟩
              else readNextFrom ring latestPTime eobOffset packet data fuel (skipped + 1) reader ring.earliestOffset
            else
              let reader := moveTo reader offset pkt
              if passes reader pkt.streamId then do
                let data ← copyData ring offset pkt.dataSize data
                -- The packet time is read again from the live buffer.
                let timeOffset := bufOffset ring offset + 16
                if (timeOffset + 8).toInt ≤ ring.dataBuffer.length then
                  let live ← spanAt ring timeOffset 8
                  if pkt.pktTime.value ≠ getInt64 live then some ⟨Constants.ringIdNone, reader, pkt, data⟩
                  else some ⟨pkt.pktId, reader, pkt, data⟩
                else some ⟨pkt.pktId, reader, pkt, data⟩
              else
                readNextFrom ring latestPTime eobOffset packet data fuel 0 reader
                  (nextOffset offset ring.maxOffset ring.pktSize)

def readNext (fuel : Nat) (ring : RingParams) (reader : RingReader) (packet : RingPacket) (data : Option (List UInt8)) :
    Option Reading :=
  if ring.latestOffset < 0 then
    let reader := if reader.pktOffset < 0 ∧ reader.pktId = Constants.ringIdNext then
        { reader with pktId := Constants.ringIdEarliest } else reader
    some ⟨Constants.ringIdNone, reader, packet, data⟩
  else
    let latestBufOff := bufOffset ring ring.latestOffset
    if ring.dataBuffer.length < (latestBufOff + 112).toInt then some ⟨Constants.ringIdNone, reader, packet, data⟩
    else do
      let latestId := getUInt64 (← spanAt ring (latestBufOff + 8) 8)
      let latestPTime := NsTime.mk (getInt64 (← spanAt ring (latestBufOff + 16) 8))
      let latestDsTime := NsTime.mk (getInt64 (← spanAt ring (latestBufOff + 92) 8))
      let latestDeTime := NsTime.mk (getInt64 (← spanAt ring (latestBufOff + 100) 8))
      let eobOffset := nextOffset ring.latestOffset ring.maxOffset ring.pktSize
      if reader.pktOffset < 0 then
        if reader.pktId = Constants.ringIdNext then
          some ⟨Constants.ringIdNone, { reader with
            pktOffset := ring.latestOffset
            pktId := latestId
            pktTime := latestPTime
            dataStart := latestDsTime
            dataEnd := latestDeTime }, packet, data⟩
        else if reader.pktId = Constants.ringIdLatest then
          readNextFrom ring latestPTime eobOffset packet data fuel 0 reader ring.latestOffset
        else if reader.pktId = Constants.ringIdEarliest then
          readNextFrom ring latestPTime eobOffset packet data fuel 0 reader ring.earliestOffset
        else some ⟨Constants.ringIdError, reader, packet, data⟩
      else
        readNextFrom ring latestPTime eobOffset packet data fuel 0 reader
          (nextOffset reader.pktOffset ring.maxOffset ring.pktSize)

def position (fuel : Nat) (ring : RingParams) (reader : RingReader) (pktId : UInt64) (pktTime : NsTime) :
    Option (UInt64 × RingReader) :=
  let pktId := if pktId = Constants.ringIdEarliest then ring.earliestId
    else if pktId = Constants.ringIdLatest then ring.latestId else pktId
  if pktId > Constants.ringIdMaximum then some (Constants.ringIdError, reader)
  else do
    match ← findOffsetForId fuel ring pktId with
    | none => some (Constants.ringIdNone, reader)
    | some (offset, time) =>
        match readPacketAtOffset ring offset with
        | none => some (Constants.ringIdNone, reader)
        | some pkt =>
            if pktTime ≠ NsTime.unset ∧ pktTime ≠ NsTime.error ∧ pktTime ≠ time then some (Constants.ringIdNone, reader)
            else if pktId ≠ pkt.pktId then some (Constants.ringIdNone, reader)
            else some (pktId, { moveTo reader offset pkt with pktId := pktId, pktTime := time })

def afterFrom (ring : RingParams) (refTime : NsTime) (eobOffset : Int64) (reader : RingReader) :
    Nat → Int64 → Option (UInt64 × RingReader)
  | 0, _ => none
  | fuel + 1, offset =>
      if offset = eobOffset then some (Constants.ringIdNone, reader)
      else match readPacketAtOffset ring offset with
        | none => some (Constants.ringIdNone, reader)
        | some pkt =>
            if pkt.dataStart.value ≥ refTime.value then some (pkt.pktId, moveTo reader offset pkt)
            else afterFrom ring refTime eobOffset reader fuel (nextOffset offset ring.maxOffset ring.pktSize)

def after (fuel : Nat) (ring : RingParams) (reader : RingReader) (refTime : NsTime) (whence : Int) :
    Option (UInt64 × RingReader) :=
  if ring.latestOffset < 0 then some (Constants.ringIdNone, reader)
  else
    let offset := if whence = 0 then ring.earliestOffset else 0
    let offset := if offset < 0 then 0 else offset
    afterFrom ring refTime (nextOffset ring.latestOffset ring.maxOffset ring.pktSize) reader fuel offset

def afterRevFrom (ring : RingParams) (refTime : NsTime) (pktLimit : UInt64) :
    Nat → UInt64 → RingReader → Int64 → Option (UInt64 × RingReader)
  | 0, _, _, _ => none
  | fuel + 1, count, reader, offset =>
      let stop := (if count > 0 then reader.pktId else Constants.ringIdNone, reader)
      if ¬ (offset ≥ 0 ∧ count < pktLimit) then some stop
      else match readPacketAtOffset ring offset with
        | none => some stop
        | some pkt =>
            let hit : Bool := pkt.dataStart.value ≥ refTime.value
            let reader := if hit then moveTo reader offset pkt else reader
            let count := if hit then count + 1 else count
            if hit ∧ count ≥ pktLimit then some (pkt.pktId, reader)
            else
              let offset := if offset = 0 then ring.maxOffset else offset - ring.pktSize.toUInt64.toInt64
              if offset = ring.latestOffset then
                some (if count > 0 then reader.pktId else Constants.ringIdNone, reader)
              else afterRevFrom ring refTime pktLimit fuel count reader offset

def afterRev (fuel : Nat) (ring : RingParams) (reader : RingReader) (refTime : NsTime) (pktLimit : UInt64) :
    Option (UInt64 × RingReader) :=
  if ring.latestOffset < 0 then some (Constants.ringIdNone, reader)
  else afterRevFrom ring refTime pktLimit fuel 0 reader ring.latestOffset

-- The test of a stream in GetStreamsStack; a stream is dropped when Reject does
-- not match it.
def listed (reader : Option RingReader) (streamId : Text) : Bool :=
  reader.all fun reader =>
    reader.limit.all (· streamId) && reader.matching.all (· streamId) && reader.reject.all (· streamId)

-- The streams in the order in which they are pushed.
def getStreamsStack (ring : RingParams) (reader : Option RingReader) : Option (List RingStream) := do
  let nodes ← ring.streamIdx.traverse
  let streams ← nodes.mapM fun node => (ring.streamIdx.nodes node).data
  some (streams.filter fun stream => listed reader stream.streamId)

end RingServer.RingBuffer
