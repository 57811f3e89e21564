import RingServer.Library.Window
import RingServer.Ring.RingBuffer
import RingServer.Types.RBTreeMap

set_option autoImplicit false

namespace RingServer

open Library

-- count slots of slot bytes each behind base header bytes, inside one array.
structure Geometry where
  base : Nat
  slot : Nat
  count : Nat
  length : Nat
  two : 2 ≤ count
  room : base + count * slot ≤ length
  small : length < 2 ^ 31

namespace Geometry

variable (g : Geometry)

def place (i : Nat) : Nat := i % g.count * g.slot

def offsetAt (i : Nat) : Int64 := Int64.ofNat (g.place i)

theorem positive : 0 < g.count := lt_of_lt_of_le (by decide) g.two

theorem place_room (i : Nat) : g.base + g.place i + g.slot ≤ g.length := by
  have below := Nat.mod_lt i g.positive
  have slots : (i % g.count + 1) * g.slot ≤ g.count * g.slot := Nat.mul_le_mul_right _ below
  have room := g.room
  rw [Nat.add_mul, Nat.one_mul] at slots
  simp only [place]
  omega

theorem place_small (i : Nat) : g.place i < 2 ^ 31 := by
  have room := g.place_room i
  have small := g.small
  omega

theorem offset_at_int (i : Nat) : (g.offsetAt i).toInt = g.place i :=
  Int64.toInt_ofNat_of_lt (lt_trans (g.place_small i) (by decide))

theorem offset_at_nonneg (i : Nat) : 0 ≤ g.offsetAt i := by
  rw [Int64.le_iff_toInt_le, offset_at_int]
  exact Int.natCast_nonneg _

theorem offset_at_not_neg (i : Nat) : ¬ g.offsetAt i < 0 := by
  rw [Int64.lt_iff_toInt_lt, offset_at_int]
  exact not_lt.mpr (Int.natCast_nonneg _)

theorem offset_at_ne (i j : Nat) (slots : 0 < g.slot) (different : i % g.count ≠ j % g.count) :
    g.offsetAt i ≠ g.offsetAt j := by
  intro same
  have places := congrArg Int64.toInt same
  rw [offset_at_int, offset_at_int] at places
  exact different (Nat.eq_of_mul_eq_mul_right slots (Int.ofNat_inj.mp places))

theorem offset_at_congr (i j : Nat) (same : i % g.count = j % g.count) : g.offsetAt i = g.offsetAt j := by
  rw [offsetAt, offsetAt, place, place, same]

theorem place_apart (i j : Nat) (different : i % g.count ≠ j % g.count) :
    g.place i + g.slot ≤ g.place j ∨ g.place j + g.slot ≤ g.place i := by
  simp only [place]
  rcases Nat.lt_or_gt_of_ne different with less | greater
  · left
    have step : (i % g.count + 1) * g.slot ≤ j % g.count * g.slot := Nat.mul_le_mul_right _ less
    rwa [Nat.add_mul, Nat.one_mul] at step
  · right
    have step : (j % g.count + 1) * g.slot ≤ i % g.count * g.slot := Nat.mul_le_mul_right _ greater
    rwa [Nat.add_mul, Nat.one_mul] at step

end Geometry

structure Shaped (g : Geometry) (ring : RingParams) : Prop where
  pktSize : ring.pktSize.toNat = g.slot
  maxOffset : ring.maxOffset.toInt = ((g.count - 1) * g.slot : Nat)
  dataOffset : ring.dataOffset.toInt = g.base
  length : ring.dataBuffer.length = g.length

theorem next_offset_at (g : Geometry) (ring : RingParams) (shaped : Shaped g ring) (i : Nat) :
    RingBuffer.nextOffset (g.offsetAt i) ring.maxOffset ring.pktSize = g.offsetAt (i + 1) := by
  have room := g.place_room i
  have small := g.small
  have sum : (g.offsetAt i + ring.pktSize.toUInt64.toInt64).toInt = (g.place i + g.slot : Nat) := by
    rw [int64_add_small _ _ (by rw [g.offset_at_int, uint32_to_int64, shaped.pktSize]; omega)
      (by rw [g.offset_at_int, uint32_to_int64, shaped.pktSize]; omega), g.offset_at_int, uint32_to_int64, shaped.pktSize]
    exact (Int.natCast_add _ _).symm
  have top : g.place i + g.slot = (i % g.count + 1) * g.slot := by rw [Geometry.place, Nat.add_mul, Nat.one_mul]
  have bound := Nat.mod_lt i g.positive
  apply Int64.toInt_inj.mp
  simp only [RingBuffer.nextOffset, gt_iff_lt, Int64.lt_iff_toInt_lt, shaped.maxOffset, sum, Int.ofNat_lt]
  have nextPlace : g.place (i + 1) = (if i % g.count + 1 < g.count then i % g.count + 1 else 0) * g.slot := by
    rw [Geometry.place, slot_next g.count i g.positive]
  rw [g.offset_at_int (i + 1), nextPlace]
  by_cases last : i % g.count + 1 < g.count
  · have inside : g.place i + g.slot ≤ (g.count - 1) * g.slot := by
      rw [top]
      exact Nat.mul_le_mul_right _ (by omega)
    rw [if_neg (not_lt.mpr inside), if_pos last, sum, top]
  · have full : i % g.count + 1 = g.count := by omega
    rw [if_neg last, Nat.zero_mul, top, full]
    by_cases empty : g.slot = 0
    · rw [if_neg (by rw [empty]; simp), sum, top, empty]
      simp
    · have beyond : (g.count - 1) * g.slot < g.count * g.slot :=
        Nat.mul_lt_mul_of_pos_right (by have := g.positive; omega) (Nat.pos_of_ne_zero empty)
      rw [if_pos beyond]
      rfl

theorem prev_offset_at (g : Geometry) (ring : RingParams) (shaped : Shaped g ring) (slots : 0 < g.slot) (i : Nat) :
    (if g.offsetAt i = 0 then ring.maxOffset else g.offsetAt i - ring.pktSize.toUInt64.toInt64) = g.offsetAt (i + g.count - 1) := by
  have two := g.two
  have room := g.place_room i
  have small := g.small
  have zero : (0 : Int64).toInt = 0 := rfl
  have before : (i + g.count - 1) % g.count = if i % g.count = 0 then g.count - 1 else i % g.count - 1 := by
    have bound := Nat.mod_lt i g.positive
    have split : i + g.count - 1 = g.count * (i / g.count) + (i % g.count + g.count - 1) := by
      have parts := Nat.div_add_mod i g.count
      omega
    rw [split, Nat.mul_add_mod]
    by_cases first : i % g.count = 0
    · rw [if_pos first, first, Nat.zero_add, Nat.mod_eq_of_lt (by omega)]
    · have beyond : i % g.count + g.count - 1 = i % g.count - 1 + g.count := by omega
      rw [if_neg first, beyond, Nat.add_mod_right, Nat.mod_eq_of_lt (by omega)]
  apply Int64.toInt_inj.mp
  by_cases first : i % g.count = 0
  · have atZero : g.offsetAt i = 0 := by
      apply Int64.toInt_inj.mp
      rw [g.offset_at_int, Geometry.place, first, Nat.zero_mul, zero]
      rfl
    rw [if_pos atZero, shaped.maxOffset, g.offset_at_int, Geometry.place, before, if_pos first]
  · have notZero : ¬ g.offsetAt i = 0 := by
      intro atZero
      have places := congrArg Int64.toInt atZero
      rw [g.offset_at_int, zero, Geometry.place] at places
      have product : i % g.count * g.slot = 0 := by exact_mod_cast places
      rcases Nat.mul_eq_zero.mp product with none | none
      · exact first none
      · omega
    have step : g.place i = (i % g.count - 1) * g.slot + g.slot := by
      obtain ⟨m, isSucc⟩ := Nat.exists_eq_succ_of_ne_zero first
      rw [Geometry.place, isSucc, Nat.succ_sub_one, Nat.succ_mul]
    rw [if_neg notZero, g.offset_at_int (i + g.count - 1), Geometry.place, before, if_neg first,
      int64_sub_small _ _ (by rw [g.offset_at_int, uint32_to_int64, shaped.pktSize]; omega)
      (by rw [g.offset_at_int, uint32_to_int64, shaped.pktSize]; omega), g.offset_at_int, uint32_to_int64, shaped.pktSize]
    omega

theorem buf_offset_at (g : Geometry) (ring : RingParams) (shaped : Shaped g ring) (i : Nat) :
    (RingBuffer.bufOffset ring (g.offsetAt i)).toInt = (g.base + g.place i : Nat) := by
  have room := g.place_room i
  have small := g.small
  have cast : (g.offsetAt i).toInt32.toInt = g.place i := int64_to_int32 _ (g.place_small i)
  rw [RingBuffer.bufOffset, int32_add_small _ _ (by rw [shaped.dataOffset, cast]; omega)
    (by rw [shaped.dataOffset, cast]; omega), shaped.dataOffset, cast]
  exact (Int.natCast_add _ _).symm

theorem buf_offset_add (g : Geometry) (ring : RingParams) (shaped : Shaped g ring) (i skip : Nat) (inside : skip ≤ g.slot) :
    (RingBuffer.bufOffset ring (g.offsetAt i) + Int32.ofNat skip).toInt = (g.base + g.place i + skip : Nat) := by
  have room := g.place_room i
  have small := g.small
  have known := buf_offset_at g ring shaped i
  have constant : (Int32.ofNat skip).toInt = skip := Int32.toInt_ofNat_of_lt (by omega)
  rw [int32_add_small _ _ (by rw [known, constant]; omega) (by rw [known, constant]; omega), known, constant]
  exact (Int.natCast_add _ _).symm

theorem span_at_slot (g : Geometry) (ring : RingParams) (shaped : Shaped g ring) (i skip count : Nat)
    (inside : skip + count ≤ g.slot) :
    RingBuffer.spanAt ring (RingBuffer.bufOffset ring (g.offsetAt i) + Int32.ofNat skip) count =
      some (ring.dataBuffer.slice (g.base + g.place i + skip) count) := by
  have room := g.place_room i
  have start := buf_offset_add g ring shaped i skip (by omega)
  rw [RingBuffer.spanAt, start, shaped.length, if_neg (by omega)]
  rfl

theorem read_packet_slice (g : Geometry) (ring : RingParams) (shaped : Shaped g ring) (i : Nat) (header : 112 ≤ g.slot) :
    RingBuffer.readPacketAtOffset ring (g.offsetAt i) =
      some (RingPacket.deserialize (ring.dataBuffer.slice (g.base + g.place i) 112)) := by
  have room := g.place_room i
  have bound := buf_offset_add g ring shaped i 112 header
  have whole := span_at_slot g ring shaped i 0 112 (by omega)
  have zero : RingBuffer.bufOffset ring (g.offsetAt i) + Int32.ofNat 0 = RingBuffer.bufOffset ring (g.offsetAt i) := by
    simp
  rw [zero] at whole
  have inside : ¬ (ring.dataBuffer.length : Int) < (RingBuffer.bufOffset ring (g.offsetAt i) + 112).toInt := by
    have constant : (112 : Int32) = Int32.ofNat 112 := rfl
    rw [constant, bound, shaped.length]
    omega
  have size : RingPacket.serializedSize = 112 := rfl
  rw [RingBuffer.readPacketAtOffset, if_neg (g.offset_at_not_neg i), if_neg inside, size, whole]
  rfl

structure Entry where
  packet : RingPacket
  body : List UInt8

-- All packets ever written, in write order; of these the ring holds the last
-- MaxPackets ones.
structure Journal where
  written : Nat
  entry : Nat → Entry

structure Bound where
  id : UInt64
  pTime : NsTime
  dsTime : NsTime
  deTime : NsTime
  offset : Int64

def noBound : Bound := ⟨Constants.ringIdNone, NsTime.unset, NsTime.unset, NsTime.unset, -1⟩

def boundOf (packet : RingPacket) : Bound :=
  ⟨packet.pktId, packet.pktTime, packet.dataStart, packet.dataEnd, packet.offset⟩

def earliestOf (ring : RingParams) : Bound :=
  ⟨ring.earliestId, ring.earliestPTime, ring.earliestDsTime, ring.earliestDeTime, ring.earliestOffset⟩

def latestOf (ring : RingParams) : Bound :=
  ⟨ring.latestId, ring.latestPTime, ring.latestDsTime, ring.latestDeTime, ring.latestOffset⟩

def streamOf (streamId : Text) (first last : RingPacket) : RingStream where
  streamId := streamId
  earliestDsTime := first.dataStart
  earliestDeTime := first.dataEnd
  earliestPTime := first.pktTime
  earliestId := first.pktId
  earliestOffset := first.offset
  latestDsTime := last.dataStart
  latestDeTime := last.dataEnd
  latestPTime := last.pktTime
  latestId := last.pktId
  latestOffset := last.offset

namespace Journal

def empty : Journal := ⟨0, fun _ => ⟨⟨0, 0, ⟨0⟩, 0, [], ⟨0⟩, ⟨0⟩, 0⟩, []⟩⟩

def append (journal : Journal) (entry : Entry) : Journal :=
  ⟨journal.written + 1, Function.update journal.entry journal.written entry⟩

def packet (journal : Journal) (i : Nat) : RingPacket := (journal.entry i).packet

def streamId (journal : Journal) (i : Nat) : Text := (journal.packet i).streamId

def low (journal : Journal) (g : Geometry) : Nat := oldest g.count journal.written

def Resident (journal : Journal) (g : Geometry) (i : Nat) : Prop := journal.low g ≤ i ∧ i < journal.written

instance (journal : Journal) (g : Geometry) (i : Nat) : Decidable (journal.Resident g i) :=
  inferInstanceAs (Decidable (_ ∧ _))

def next (journal : Journal) (i : Nat) : Option Nat :=
  firstIn (fun k => journal.streamId k = journal.streamId i) (i + 1) journal.written

def header (journal : Journal) (g : Geometry) (i : Nat) : RingPacket :=
  { journal.packet i with nextInStream := (journal.next i).elim (-1) g.offsetAt }

def streamFrom (journal : Journal) (start : Nat) (streamId : Text) : Option RingStream :=
  match firstIn (fun k => journal.streamId k = streamId) start journal.written,
      lastIn (fun k => journal.streamId k = streamId) start journal.written with
  | some first, some last => some (streamOf streamId (journal.packet first) (journal.packet last))
  | _, _ => none

end Journal

structure Holds (g : Geometry) (ring : RingParams) (journal : Journal) : Prop where
  shaped : Shaped g ring
  earliest : earliestOf ring = if journal.written = 0 then noBound else boundOf (journal.packet (journal.low g))
  latest : latestOf ring = if journal.written = 0 then noBound else boundOf (journal.packet (journal.written - 1))
  slots : ∀ i, journal.Resident g i → ring.dataBuffer.slice (g.base + g.place i) g.slot =
    (journal.header g i).serialize ++ (journal.entry i).body
  offsets : ∀ i, journal.Resident g i → (journal.packet i).offset = g.offsetAt i
  survive : ∀ i, journal.Resident g i → Survives (journal.streamId i)
  index : ∃ whole, RBTree.Index ring.streamIdx whole (journal.streamFrom (journal.low g)) ∧
    ring.streamCount = UInt32.ofNat whole.labels.length

namespace Journal

variable (journal : Journal)

theorem stream_from_some (start first last : Nat) (streamId : Text)
    (isFirst : firstIn (fun k => journal.streamId k = streamId) start journal.written = some first)
    (isLast : lastIn (fun k => journal.streamId k = streamId) start journal.written = some last) :
    journal.streamFrom start streamId = some (streamOf streamId (journal.packet first) (journal.packet last)) := by
  rw [streamFrom, isFirst, isLast]

theorem stream_from_none (start : Nat) (streamId : Text)
    (absent : firstIn (fun k => journal.streamId k = streamId) start journal.written = none) :
    journal.streamFrom start streamId = none := by
  rw [streamFrom, absent]

theorem stream_from_cases (start : Nat) (streamId : Text) :
    (journal.streamFrom start streamId = none ∧ ∀ i, start ≤ i → i < journal.written → journal.streamId i ≠ streamId) ∨
      ∃ first last, firstIn (fun k => journal.streamId k = streamId) start journal.written = some first ∧
        lastIn (fun k => journal.streamId k = streamId) start journal.written = some last ∧
        journal.streamFrom start streamId = some (streamOf streamId (journal.packet first) (journal.packet last)) := by
  cases isFirst : firstIn (fun k => journal.streamId k = streamId) start journal.written with
  | none =>
      exact Or.inl ⟨journal.stream_from_none start streamId isFirst, (first_in_none _ _ _).mp isFirst⟩
  | some first =>
      cases isLast : lastIn (fun k => journal.streamId k = streamId) start journal.written with
      | none =>
          have impossible := (first_last_in _ _ _).mpr isLast
          simp [isFirst] at impossible
      | some last => exact Or.inr ⟨first, last, rfl, rfl, journal.stream_from_some start first last streamId isFirst isLast⟩

theorem stream_from_other (start : Nat) (streamId : Text) (other : journal.streamId start ≠ streamId) :
    journal.streamFrom (start + 1) streamId = journal.streamFrom start streamId := by
  rw [streamFrom, streamFrom, first_in_tail _ start journal.written other, last_in_drop _ start journal.written other]

theorem stream_from_alone (start : Nat) (alone : journal.next start = none) :
    journal.streamFrom (start + 1) (journal.streamId start) = none :=
  journal.stream_from_none _ _ alone

theorem stream_from_next (start next last : Nat) (isNext : journal.next start = some next)
    (isLast : lastIn (fun k => journal.streamId k = journal.streamId start) start journal.written = some last)
    (later : start < last) :
    journal.streamFrom (start + 1) (journal.streamId start) =
      some (streamOf (journal.streamId start) (journal.packet next) (journal.packet last)) :=
  journal.stream_from_some _ _ _ _ isNext (last_in_tail _ _ _ _ isLast later)

theorem next_none_iff (start last : Nat)
    (isLast : lastIn (fun k => journal.streamId k = journal.streamId start) start journal.written = some last) :
    journal.next start = none ↔ last = start := by
  obtain ⟨above, below, same, later⟩ := (last_in_some _ _ _ _).mp isLast
  rw [next, first_in_none]
  constructor
  · intro none
    by_contra differ
    exact none last (by omega) below same
  · rintro rfl i above' below'
    exact later i above' below'

variable (entry : Entry)

@[simp] theorem append_written : (journal.append entry).written = journal.written + 1 := rfl

theorem append_entry_old (i : Nat) (old : i < journal.written) : (journal.append entry).entry i = journal.entry i :=
  Function.update_of_ne (Nat.ne_of_lt old) _ _

theorem append_entry_new : (journal.append entry).entry journal.written = entry := Function.update_self _ _ _

theorem append_packet_old (i : Nat) (old : i < journal.written) : (journal.append entry).packet i = journal.packet i :=
  congrArg Entry.packet (journal.append_entry_old entry i old)

theorem append_packet_new : (journal.append entry).packet journal.written = entry.packet :=
  congrArg Entry.packet (journal.append_entry_new entry)

theorem append_stream_id_old (i : Nat) (old : i < journal.written) :
    (journal.append entry).streamId i = journal.streamId i :=
  congrArg RingPacket.streamId (journal.append_packet_old entry i old)

theorem append_stream_id_new : (journal.append entry).streamId journal.written = entry.packet.streamId :=
  congrArg RingPacket.streamId (journal.append_packet_new entry)

theorem append_next_old (i : Nat) (old : i < journal.written) : (journal.append entry).next i =
    (journal.next i).or (if entry.packet.streamId = journal.streamId i then some journal.written else none) := by
  have same : firstIn (fun k => (journal.append entry).streamId k = (journal.append entry).streamId i) (i + 1) journal.written =
      journal.next i := by
    refine first_in_congr _ _ _ _ (fun k _ below => ?_)
    rw [append_stream_id_old journal entry k below, append_stream_id_old journal entry i old]
  rw [next, append_written, first_in_extend _ _ _ old, same, append_stream_id_new, append_stream_id_old journal entry i old]

theorem append_next_new : (journal.append entry).next journal.written = none :=
  (first_in_none _ _ _).mpr (fun i above below => absurd below (by rw [append_written]; omega))

theorem append_first (start : Nat) (streamId : Text) (ordered : start ≤ journal.written) :
    firstIn (fun k => (journal.append entry).streamId k = streamId) start (journal.written + 1) =
      (firstIn (fun k => journal.streamId k = streamId) start journal.written).or
        (if entry.packet.streamId = streamId then some journal.written else none) := by
  have same : firstIn (fun k => (journal.append entry).streamId k = streamId) start journal.written =
      firstIn (fun k => journal.streamId k = streamId) start journal.written :=
    first_in_congr _ _ _ _ (fun k _ below => by rw [append_stream_id_old journal entry k below])
  rw [first_in_extend _ _ _ ordered, same, append_stream_id_new]

theorem append_last_same (start : Nat) (ordered : start ≤ journal.written) :
    lastIn (fun k => (journal.append entry).streamId k = entry.packet.streamId) start (journal.written + 1) =
      some journal.written :=
  last_in_extend _ _ _ ordered (journal.append_stream_id_new entry)

theorem append_last_other (start : Nat) (streamId : Text) (other : entry.packet.streamId ≠ streamId) :
    lastIn (fun k => (journal.append entry).streamId k = streamId) start (journal.written + 1) =
      lastIn (fun k => journal.streamId k = streamId) start journal.written := by
  rw [last_in_same _ _ _ (by rw [append_stream_id_new]; exact other)]
  exact last_in_congr _ _ _ _ (fun k _ below => by rw [append_stream_id_old journal entry k below])

theorem append_stream_other (start : Nat) (streamId : Text) (ordered : start ≤ journal.written)
    (other : entry.packet.streamId ≠ streamId) :
    (journal.append entry).streamFrom start streamId = journal.streamFrom start streamId := by
  have isFirst := journal.append_first entry start streamId ordered
  have isLast := journal.append_last_other entry start streamId other
  rw [if_neg other, Option.or_none] at isFirst
  rcases journal.stream_from_cases start streamId with ⟨absent, nowhere⟩ | ⟨first, last, wasFirst, wasLast, present⟩
  · rw [absent]
    exact stream_from_none _ _ _ (isFirst.trans ((first_in_none _ _ _).mpr nowhere))
  · obtain ⟨_, firstOld, _⟩ := (first_in_some _ _ _ _).mp wasFirst
    obtain ⟨_, lastOld, _⟩ := (last_in_some _ _ _ _).mp wasLast
    rw [present, stream_from_some _ _ _ _ _ (isFirst.trans wasFirst) (isLast.trans wasLast),
      append_packet_old journal entry first firstOld, append_packet_old journal entry last lastOld]

end Journal

def RingStream.extend (stream : RingStream) (packet : RingPacket) : RingStream :=
  { stream with
    latestDsTime := packet.dataStart
    latestDeTime := packet.dataEnd
    latestPTime := packet.pktTime
    latestId := packet.pktId
    latestOffset := packet.offset }

theorem Journal.append_stream_same (journal : Journal) (entry : Entry) (start : Nat) (ordered : start ≤ journal.written) :
    (journal.append entry).streamFrom start entry.packet.streamId =
      some (((journal.streamFrom start entry.packet.streamId).getD
        (streamOf entry.packet.streamId entry.packet entry.packet)).extend entry.packet) := by
  have isFirst := journal.append_first entry start entry.packet.streamId ordered
  have isLast := journal.append_last_same entry start ordered
  rw [if_pos rfl] at isFirst
  rcases journal.stream_from_cases start entry.packet.streamId with ⟨absent, nowhere⟩ | ⟨first, last, wasFirst, wasLast, present⟩
  · rw [(first_in_none _ _ _).mpr nowhere, Option.none_or] at isFirst
    rw [absent, stream_from_some _ _ _ _ _ isFirst isLast, append_packet_new]
    rfl
  · obtain ⟨_, firstOld, _⟩ := (first_in_some _ _ _ _).mp wasFirst
    rw [wasFirst, Option.some_or] at isFirst
    rw [present, stream_from_some _ _ _ _ _ isFirst isLast, append_packet_new, append_packet_old journal entry first firstOld]
    rfl

theorem Journal.last_iff_next (journal : Journal) (start i : Nat) (streamId : Text) (above : start ≤ i)
    (below : i < journal.written) : lastIn (fun k => journal.streamId k = streamId) start journal.written = some i ↔
      journal.next i = none ∧ journal.streamId i = streamId := by
  rw [last_in_some, Journal.next, first_in_none]
  constructor
  · rintro ⟨_, _, same, later⟩
    exact ⟨fun k less old equal => later k less old (equal.trans same), same⟩
  · rintro ⟨later, same⟩
    exact ⟨above, below, same, fun k less old equal => later k less old (equal.trans same.symm)⟩

theorem Journal.append_header_old (journal : Journal) (g : Geometry) (entry : Entry) (i : Nat) (old : i < journal.written) :
    (journal.append entry).header g i =
      if journal.next i = none ∧ journal.streamId i = entry.packet.streamId then
        { journal.header g i with nextInStream := g.offsetAt journal.written }
      else journal.header g i := by
  rw [Journal.header, journal.append_next_old entry i old, journal.append_packet_old entry i old]
  cases isNext : journal.next i with
  | some k => simp [Journal.header, isNext]
  | none =>
      by_cases same : journal.streamId i = entry.packet.streamId
      · simp [Journal.header, same]
      · simp [Journal.header, isNext, same, Ne.symm same]

theorem Journal.append_header_new (journal : Journal) (g : Geometry) (entry : Entry) :
    (journal.append entry).header g journal.written = { entry.packet with nextInStream := -1 } := by
  rw [Journal.header, journal.append_next_new entry, journal.append_packet_new entry]
  rfl

end RingServer
