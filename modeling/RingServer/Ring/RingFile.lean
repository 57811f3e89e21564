import RingServer.Ring.RingBuffer

set_option autoImplicit false

namespace RingServer.RingBuffer

open Library

-- The files <ringdir>/packetbuf and <ringdir>/streamidx.
structure RingFiles where
  packetbuf : Option (List UInt8)
  streamidx : Option (List UInt8)

-- Array.MaxLength, the limit of new byte[ringsize].
def maxArrayLength : Nat := 0x7FFFFFC7

def streamRecordSize : Nat := 60 + 8 + 8 + 8 + 8 + 8 + 8 + 8 + 8 + 8 + 8

-- while (size < limit) size += pagesize
def growToPages (pageSize limit : UInt32) : Nat → UInt32 → Option UInt32
  | 0, _ => none
  | fuel + 1, size => if size < limit then growToPages pageSize limit fuel (size + pageSize) else some size

-- The header takes whole pages for a packet header and for the parameters.
def headerSizeFor (pageSize : UInt32) : Option UInt32 := do
  let headerSize ← growToPages pageSize (112 + 128) 321 pageSize
  let paramHeaderSize ← growToPages pageSize (256 + 64) 321 headerSize
  some (max headerSize paramHeaderSize)

def padRight (text : Text) (width : Nat) : Text := text ++ List.replicate (width - text.length) (Char.ofNat 0)

def serializeRingStream (stream : RingStream) : List UInt8 :=
  (encodeASCII (padRight stream.streamId 60)).take 60 ++ (putInt64 stream.earliestDsTime.value ++
    (putInt64 stream.earliestDeTime.value ++ (putInt64 stream.earliestPTime.value ++ (putUInt64 stream.earliestId ++
      (putInt64 stream.earliestOffset ++ (putInt64 stream.latestDsTime.value ++ (putInt64 stream.latestDeTime.value ++
        (putInt64 stream.latestPTime.value ++ (putUInt64 stream.latestId ++ putInt64 stream.latestOffset)))))))))

def deserializeRingStream (data : List UInt8) : RingStream where
  streamId := trimEndNul (decodeASCII (data.take 60))
  earliestDsTime := ⟨getInt64 (data.drop 60)⟩
  earliestDeTime := ⟨getInt64 (data.drop 68)⟩
  earliestPTime := ⟨getInt64 (data.drop 76)⟩
  earliestId := getUInt64 (data.drop 84)
  earliestOffset := getInt64 (data.drop 92)
  latestDsTime := ⟨getInt64 (data.drop 100)⟩
  latestDeTime := ⟨getInt64 (data.drop 108)⟩
  latestPTime := ⟨getInt64 (data.drop 116)⟩
  latestId := getUInt64 (data.drop 124)
  latestOffset := getInt64 (data.drop 132)

-- Full records are read until the file ends; each one is inserted.
def loadStreams : Nat → List UInt8 → RingParams → Option RingParams
  | 0, _, ring => some ring
  | records + 1, bytes, ring => do
      let stream := deserializeRingStream (bytes.take streamRecordSize)
      let (tree, _) ← ring.streamIdx.insert stream.streamId stream
      loadStreams records (bytes.drop streamRecordSize) { ring with streamIdx := tree, streamCount := ring.streamCount + 1 }

def resetRingParams (ring : RingParams) (ringSize : UInt64) (pktSize : UInt32) (maxPackets : UInt64) (maxOffset : Int64)
    (headerSize : UInt32) : RingParams :=
  { ring with
    signature := encodeASCII Constants.ringSignature
    version := Constants.ringVersion
    ringSize := ringSize
    pktSize := pktSize
    maxPackets := maxPackets
    maxOffset := maxOffset
    headerSize := headerSize
    corruptFlag := 0
    fluxFlag := 0
    earliestId := Constants.ringIdNone
    earliestPTime := NsTime.unset
    earliestDsTime := NsTime.unset
    earliestDeTime := NsTime.unset
    earliestOffset := -1
    latestId := Constants.ringIdNone
    latestPTime := NsTime.unset
    latestDsTime := NsTime.unset
    latestDeTime := NsTime.unset
    latestOffset := -1
    dataBuffer := if 4 < ring.dataBuffer.length then ring.dataBuffer.blit 0 (encodeASCII Constants.ringSignature)
      else ring.dataBuffer }

-- The parameters as the header of the packet buffer gives them.
def readHeader (ring : RingParams) : RingParams :=
  let header := fun start => ring.dataBuffer.slice start 8
  { ring with
    signature := ring.dataBuffer.slice 0 4
    version := getUInt16 (header 4)
    ringSize := getUInt64 (header 6)
    pktSize := getUInt32 (header 14)
    maxPackets := getUInt64 (header 18)
    maxOffset := getInt64 (header 26)
    headerSize := getUInt32 (header 34)
    corruptFlag := ring.dataBuffer.byte 38
    fluxFlag := ring.dataBuffer.byte 39
    earliestId := getUInt64 (header 144)
    earliestPTime := ⟨getInt64 (header 152)⟩
    earliestDsTime := ⟨getInt64 (header 160)⟩
    earliestDeTime := ⟨getInt64 (header 168)⟩
    earliestOffset := getInt64 (header 176)
    latestId := getUInt64 (header 184)
    latestPTime := ⟨getInt64 (header 192)⟩
    latestDsTime := ⟨getInt64 (header 200)⟩
    latestDeTime := ⟨getInt64 (header 208)⟩
    latestOffset := getInt64 (header 216) }

-- The parameters before the header is read: a new object, with the buffer of the
-- packet buffer file if that has the right length.
def newRingParams (files : RingFiles) (ringSize : UInt64) (pktSize : UInt32) (maxPackets : UInt64) (maxOffset : Int64)
    (headerSize : UInt32) (volatileFlag : Bool) : RingParams where
  signature := [0, 0, 0, 0]
  version := 0
  ringSize := ringSize
  pktSize := pktSize
  maxPackets := maxPackets
  maxOffset := maxOffset
  headerSize := headerSize
  corruptFlag := 0
  fluxFlag := 0
  volatileFlag := if volatileFlag then 1 else 0
  streamIdx := RBTree.create
  streamCount := 0
  earliestId := 0
  earliestPTime := ⟨0⟩
  earliestDsTime := ⟨0⟩
  earliestDeTime := ⟨0⟩
  earliestOffset := 0
  latestId := 0
  latestPTime := ⟨0⟩
  latestDsTime := ⟨0⟩
  latestDeTime := ⟨0⟩
  latestOffset := 0
  dataBuffer :=
    { length := ringSize.toNat
      byte := fun i =>
        match files.packetbuf with
        | some bytes => if !volatileFlag && bytes.length = ringSize.toNat then bytes.getD i 0 else 0
        | none => 0 }
  dataOffset := headerSize.toInt32

def mustReset (ring : RingParams) (ringSize : UInt64) (pktSize : UInt32) (maxPackets : UInt64) (maxOffset : Int64)
    (headerSize : UInt32) (volatileFlag : Bool) : Bool :=
  volatileFlag || trimEndNul (decodeASCII ring.signature) != Constants.ringSignature ||
    ring.version != Constants.ringVersion || ring.ringSize != ringSize || ring.pktSize != pktSize ||
    ring.maxPackets != maxPackets || ring.maxOffset != maxOffset || ring.headerSize != headerSize

def loadRing (files : RingFiles) (ring : RingParams) (volatileFlag : Bool) (reset : Bool) (fresh : RingParams) :
    Option (Int × Option RingParams) := do
  let ring ←
    if reset then some fresh
    else if volatileFlag = false ∧ ring.earliestOffset ≥ 0 then
      match files.streamidx with
      | none => some ring
      | some bytes => loadStreams (bytes.length / streamRecordSize) bytes ring
    else some ring
  if ring.earliestOffset > ring.maxOffset then some (-1, some { ring with streamIdx := ring.streamIdx.destroy })
  else if ring.latestOffset > ring.maxOffset then some (-1, some { ring with streamIdx := ring.streamIdx.destroy })
  else some (0, some ring)

def openRing (files : RingFiles) (ringSize : UInt64) (pktSize : UInt32) (maxPackets : UInt64) (maxOffset : Int64)
    (headerSize : UInt32) (volatileFlag : Bool) : Option (Int × Option RingParams) :=
  let ring := newRingParams files ringSize pktSize maxPackets maxOffset headerSize volatileFlag
  if maxArrayLength < ringSize.toNat then none
  else if headerSize.toUInt64 ≤ ringSize then
    let ring := readHeader ring
    loadRing files ring volatileFlag (mustReset ring ringSize pktSize maxPackets maxOffset headerSize volatileFlag)
      (resetRingParams ring ringSize pktSize maxPackets maxOffset headerSize)
  else some (0, some (resetRingParams ring ringSize pktSize maxPackets maxOffset headerSize))

-- The result is the return value and, unless that is -2, the ring; none is an
-- exception. The file names are given as whether they are set.
def ringInitialize (named : Bool) (files : RingFiles) (pageSize : UInt32) (ringSize : UInt64) (pktSize : UInt32)
    (volatileFlag : Bool) : Option (Int × Option RingParams) :=
  if !volatileFlag && !named then some (-2, none)
  else do
    let headerSize ← headerSizeFor pageSize
    if ringSize < (headerSize + 2 * pktSize).toUInt64 then some (-2, none)
    else if pktSize = 0 then none
    else
      let maxPackets := (ringSize - headerSize.toUInt64) / pktSize.toUInt64
      openRing files ringSize pktSize maxPackets ((maxPackets - 1) * pktSize.toUInt64).toInt64 headerSize volatileFlag

def writeHeaderToBuffer (ring : RingParams) : RingParams :=
  { ring with
    dataBuffer := (ring.dataBuffer.blit 0 (encodeASCII Constants.ringSignature ++ (putUInt16 ring.version ++
      (putUInt64 ring.ringSize ++ (putUInt32 ring.pktSize ++ (putUInt64 ring.maxPackets ++ (putInt64 ring.maxOffset ++
        (putUInt32 ring.headerSize ++ [ring.corruptFlag, ring.fluxFlag])))))))).blit 144
      (putUInt64 ring.earliestId ++ (putInt64 ring.earliestPTime.value ++ (putInt64 ring.earliestDsTime.value ++
        (putInt64 ring.earliestDeTime.value ++ (putInt64 ring.earliestOffset ++ (putUInt64 ring.latestId ++
          (putInt64 ring.latestPTime.value ++ (putInt64 ring.latestDsTime.value ++ (putInt64 ring.latestDeTime.value ++
            putInt64 ring.latestOffset))))))))) }

-- The stack of streams is popped from its end, so the file has them in
-- descending order.
def streamFile (ring : RingParams) : Option (List UInt8) := do
  let nodes ← ring.streamIdx.traverse
  let streams ← nodes.mapM fun node => (ring.streamIdx.nodes node).data
  some (streams.reverse.flatMap serializeRingStream)

def ringShutdown (named : Bool) (files : RingFiles) (ring : RingParams) : Option (Int × RingFiles × RingParams) :=
  if ring.volatileFlag = 0 ∧ named = false then some (-1, files, ring)
  else if ring.volatileFlag > 0 then some (0, files, { ring with streamIdx := ring.streamIdx.destroy })
  else do
    let ring := writeHeaderToBuffer ring
    let streams ← streamFile ring
    let files := RingFiles.mk (some (ring.dataBuffer.slice 0 ring.dataBuffer.length)) (some streams)
    some (0, files, { ring with fluxFlag := 0, streamIdx := ring.streamIdx.destroy })

end RingServer.RingBuffer
