import Mathlib.Data.List.DropRight
import RingServer.Library.Bytes
import RingServer.Types.RBTree

set_option autoImplicit false

namespace RingServer

open Library

-- A string of the source, as the list of its characters.
abbrev Text := List Char

structure NsTime where
  value : Int64
deriving DecidableEq

def NsTime.unset : NsTime := ⟨Int64.minValue⟩

def NsTime.error : NsTime := ⟨Int64.minValue + 1⟩

namespace Constants

def ringSignature : Text := ['R', 'I', 'N', 'G']

def ringVersion : UInt16 := 2

-- The highest ten packet IDs are reserved.
def ringIdError : UInt64 := 0xFFFFFFFFFFFFFFFF

def ringIdNone : UInt64 := ringIdError - 1

def ringIdEarliest : UInt64 := ringIdError - 2

def ringIdLatest : UInt64 := ringIdError - 3

def ringIdNext : UInt64 := ringIdError - 4

def ringIdMaximum : UInt64 := ringIdError - 10

def maxStreamId : Nat := 60

end Constants

-- BitConverter on a little-endian machine.
def getUInt16 (span : List UInt8) : UInt16 := UInt16.ofNat (leValue (span.take 2))

def getUInt32 (span : List UInt8) : UInt32 := UInt32.ofNat (leValue (span.take 4))

def getUInt64 (span : List UInt8) : UInt64 := UInt64.ofNat (leValue (span.take 8))

def getInt64 (span : List UInt8) : Int64 := (getUInt64 span).toInt64

def putUInt16 (value : UInt16) : List UInt8 := leBytes 2 value.toNat

def putUInt32 (value : UInt32) : List UInt8 := leBytes 4 value.toNat

def putUInt64 (value : UInt64) : List UInt8 := leBytes 8 value.toNat

def putInt64 (value : Int64) : List UInt8 := putUInt64 value.toUInt64

-- Encoding.ASCII replaces what it cannot encode or decode by a question mark.
def encodeASCII (text : Text) : List UInt8 :=
  text.map fun c => if c.toNat < 128 then UInt8.ofNat c.toNat else 63

def decodeASCII (bytes : List UInt8) : Text :=
  bytes.map fun b => if b.toNat < 128 then Char.ofNat b.toNat else '?'

theorem ascii_char (n : Nat) (small : n < 128) : (Char.ofNat n).toNat = n := by
  have valid : n.isValidChar := Or.inl (by omega)
  rewrite [Char.ofNat, dif_pos valid]
  rfl

theorem decoded_char (b : UInt8) (c : Char) (ascii : c.toNat < 128) (known : c ≠ '?') :
    (if b.toNat < 128 then Char.ofNat b.toNat else '?') = c ↔ b = UInt8.ofNat c.toNat := by
  by_cases small : b.toNat < 128
  · rw [if_pos small]
    constructor
    · rintro rfl
      rw [ascii_char _ small, UInt8.ofNat_toNat]
    · rintro rfl
      have code : (UInt8.ofNat c.toNat).toNat = c.toNat := UInt8.toNat_ofNat_of_lt' (Nat.lt_trans ascii (by decide))
      rw [code, Char.ofNat_toNat]
  · rw [if_neg small]
    refine iff_of_false (fun same => known same.symm) ?_
    rintro rfl
    exact small (by rw [UInt8.toNat_ofNat_of_lt' (Nat.lt_trans ascii (by decide))]; exact ascii)

def trimEndNul (text : Text) : Text := text.rdropWhile (· = Char.ofNat 0)

def untilNul (text : Text) : Text := text.takeWhile (· ≠ Char.ofNat 0)

structure RingPacket where
  offset : Int64
  pktId : UInt64
  pktTime : NsTime
  nextInStream : Int64
  streamId : Text
  dataStart : NsTime
  dataEnd : NsTime
  dataSize : UInt32
deriving DecidableEq

namespace RingPacket

def serializedSize : Nat := 8 + 8 + 8 + 8 + Constants.maxStreamId + 8 + 8 + 4

def putStreamId (streamId : Text) : List UInt8 :=
  let sidBytes := encodeASCII streamId
  let copyLen := min sidBytes.length Constants.maxStreamId
  sidBytes.take copyLen ++ List.replicate (Constants.maxStreamId - copyLen) 0

def getStreamId (span : List UInt8) : Text := untilNul (decodeASCII (span.take Constants.maxStreamId))

def serialize (packet : RingPacket) : List UInt8 :=
  putInt64 packet.offset ++ (putUInt64 packet.pktId ++ (putInt64 packet.pktTime.value ++
    (putInt64 packet.nextInStream ++ (putStreamId packet.streamId ++ (putInt64 packet.dataStart.value ++
      (putInt64 packet.dataEnd.value ++ putUInt32 packet.dataSize))))))

def deserialize (span : List UInt8) : RingPacket where
  offset := getInt64 span
  pktId := getUInt64 (span.drop 8)
  pktTime := ⟨getInt64 (span.drop 16)⟩
  nextInStream := getInt64 (span.drop 24)
  streamId := getStreamId (span.drop 32)
  dataStart := ⟨getInt64 (span.drop 92)⟩
  dataEnd := ⟨getInt64 (span.drop 100)⟩
  dataSize := getUInt32 (span.drop 108)

end RingPacket

structure RingStream where
  streamId : Text
  earliestDsTime : NsTime
  earliestDeTime : NsTime
  earliestPTime : NsTime
  earliestId : UInt64
  earliestOffset : Int64
  latestDsTime : NsTime
  latestDeTime : NsTime
  latestPTime : NsTime
  latestId : UInt64
  latestOffset : Int64
deriving DecidableEq

-- A regular expression is the predicate its IsMatch computes.
structure RingReader where
  pktOffset : Int64
  pktId : UInt64
  pktTime : NsTime
  dataStart : NsTime
  dataEnd : NsTime
  limit : Option (Text → Bool)
  matching : Option (Text → Bool)
  reject : Option (Text → Bool)

structure RingParams where
  signature : List UInt8
  version : UInt16
  ringSize : UInt64
  pktSize : UInt32
  maxPackets : UInt64
  maxOffset : Int64
  headerSize : UInt32
  corruptFlag : UInt8
  fluxFlag : UInt8
  volatileFlag : UInt8
  streamIdx : RBTree Text RingStream
  streamCount : UInt32
  earliestId : UInt64
  earliestPTime : NsTime
  earliestDsTime : NsTime
  earliestDeTime : NsTime
  earliestOffset : Int64
  latestId : UInt64
  latestPTime : NsTime
  latestDsTime : NsTime
  latestDeTime : NsTime
  latestOffset : Int64
  dataBuffer : Buffer
  dataOffset : Int32

@[simp] theorem put_uint64_length (value : UInt64) : (putUInt64 value).length = 8 := le_bytes_length 8 _

@[simp] theorem put_int64_length (value : Int64) : (putInt64 value).length = 8 := put_uint64_length _

@[simp] theorem put_uint32_length (value : UInt32) : (putUInt32 value).length = 4 := le_bytes_length 4 _

@[simp] theorem put_uint16_length (value : UInt16) : (putUInt16 value).length = 2 := le_bytes_length 2 _

@[simp] theorem get_put_uint64 (value : UInt64) (rest : List UInt8) : getUInt64 (putUInt64 value ++ rest) = value := by
  have small : value.toNat < 256 ^ 8 := value.toNat_lt
  rw [getUInt64, List.take_left' (put_uint64_length value), putUInt64, le_value_bytes 8 _ small, UInt64.ofNat_toNat]

@[simp] theorem get_put_int64 (value : Int64) (rest : List UInt8) : getInt64 (putInt64 value ++ rest) = value := by
  rw [getInt64, putInt64, get_put_uint64, Int64.toInt64_toUInt64]

@[simp] theorem get_put_uint32 (value : UInt32) (rest : List UInt8) : getUInt32 (putUInt32 value ++ rest) = value := by
  have small : value.toNat < 256 ^ 4 := value.toNat_lt
  rw [getUInt32, List.take_left' (put_uint32_length value), putUInt32, le_value_bytes 4 _ small, UInt32.ofNat_toNat]

@[simp] theorem get_put_uint16 (value : UInt16) (rest : List UInt8) : getUInt16 (putUInt16 value ++ rest) = value := by
  have small : value.toNat < 256 ^ 2 := value.toNat_lt
  rw [getUInt16, List.take_left' (put_uint16_length value), putUInt16, le_value_bytes 2 _ small, UInt16.ofNat_toNat]

@[simp] theorem encode_length (text : Text) : (encodeASCII text).length = text.length := by simp [encodeASCII]

@[simp] theorem put_stream_id_length (streamId : Text) : (RingPacket.putStreamId streamId).length = 60 := by
  simp only [RingPacket.putStreamId, encode_length, Constants.maxStreamId, List.length_append, List.length_take,
    List.length_replicate]
  omega

@[simp] theorem serialize_length (packet : RingPacket) : packet.serialize.length = 112 := by
  simp [RingPacket.serialize]

-- The stream ID that the fixed-width field of the header gives back.
def storedId (streamId : Text) : Text := RingPacket.getStreamId (RingPacket.putStreamId streamId)

-- The stream IDs that it gives back unchanged.
def Survives (streamId : Text) : Prop := RingPacket.getStreamId (RingPacket.putStreamId streamId) = streamId

instance (streamId : Text) : Decidable (Survives streamId) :=
  inferInstanceAs (Decidable (RingPacket.getStreamId (RingPacket.putStreamId streamId) = streamId))

theorem get_put_stream_id (streamId : Text) (rest : List UInt8) :
    RingPacket.getStreamId (RingPacket.putStreamId streamId ++ rest) = storedId streamId := by
  have whole : (RingPacket.putStreamId streamId).take Constants.maxStreamId = RingPacket.putStreamId streamId :=
    List.take_of_length_le (by simp [Constants.maxStreamId])
  have cut : (RingPacket.putStreamId streamId ++ rest).take Constants.maxStreamId = RingPacket.putStreamId streamId :=
    List.take_left' (put_stream_id_length streamId)
  rw [storedId, RingPacket.getStreamId, RingPacket.getStreamId, cut, whole]

theorem deserialize_stored (packet : RingPacket) (rest : List UInt8) :
    RingPacket.deserialize (packet.serialize ++ rest) = { packet with streamId := storedId packet.streamId } := by
  have skip : ∀ (first tail : List UInt8) (count : Nat), first.length ≤ count →
      (first ++ tail).drop count = tail.drop (count - first.length) := by
    intro first tail count long
    rw [List.drop_append, List.drop_eq_nil_of_le long, List.nil_append]
  obtain ⟨offset, pktId, pktTime, nextInStream, streamId, dataStart, dataEnd, dataSize⟩ := packet
  simp only [RingPacket.serialize, List.append_assoc, RingPacket.deserialize, get_put_int64, RingPacket.mk.injEq, true_and]
  simp (disch := simp) only [skip, put_int64_length, put_uint64_length, put_stream_id_length, Nat.reduceSub, Nat.sub_self, List.drop_zero]
  simp [get_put_stream_id streamId _]

theorem deserialize_serialize (packet : RingPacket) (rest : List UInt8) (survives : Survives packet.streamId) :
    RingPacket.deserialize (packet.serialize ++ rest) = packet := by
  have same : storedId packet.streamId = packet.streamId := survives
  rw [deserialize_stored, same]

end RingServer
