import RingServer.Ring.Search

set_option autoImplicit false

namespace RingServer

open Library

-- What ReadNext relies on beyond the slots themselves: the clock never goes back,
-- and no packet has the ID that ReadNext returns for no packet.
structure Timely (journal : Journal) : Prop where
  ordered : ∀ i j, i ≤ j → j < journal.written → (journal.packet i).pktTime.value ≤ (journal.packet j).pktTime.value
  named : ∀ i, i < journal.written → (journal.packet i).pktId ≠ Constants.ringIdNone

def Payloads (g : Geometry) (journal : Journal) (writes : List (Request × RingPacket)) : Prop :=
  writes.length = journal.written ∧ ∀ (i : Nat) request packet, writes[i]? = some (request, packet) →
    Sized request ∧ request.dataSize.toNat + 112 ≤ g.slot ∧ WrittenAs request packet ∧
      journal.entry i = ⟨packet, slotBody g.slot request.packetData request.dataSize⟩

def RoomFor (ring : RingParams) (data : Option (List UInt8)) : Prop :=
  ∀ buffer, data = some buffer → ring.pktSize.toNat ≤ buffer.length + 112

section

variable (g : Geometry) (ring : RingParams) (journal : Journal) (holds : Holds g ring journal)

include holds

theorem span_of_slot (i skip count : Nat) (resident : journal.Resident g i) (inside : skip + count ≤ g.slot) :
    RingBuffer.spanAt ring (RingBuffer.bufOffset ring (g.offsetAt i) + Int32.ofNat skip) count =
      some ((((journal.header g i).serialize ++ (journal.entry i).body).drop skip).take count) := by
  have part := Buffer.slice_part ring.dataBuffer (g.base + g.place i) g.slot skip count _ (holds.slots i resident) inside
  rw [span_at_slot g ring holds.shaped i skip count inside, part]

theorem live_time (i : Nat) (resident : journal.Resident g i) :
    ∃ bytes, RingBuffer.spanAt ring (RingBuffer.bufOffset ring (g.offsetAt i) + 16) 8 = some bytes ∧
      getInt64 bytes = (journal.packet i).pktTime.value := by
  have size := resident_slot g ring journal holds i resident
  have constant : (16 : Int32) = Int32.ofNat 16 := rfl
  refine ⟨_, constant ▸ span_of_slot g ring journal holds i 16 8 resident (by omega), ?_⟩
  have decoded := congrArg (fun packet : RingPacket => packet.pktTime.value)
    (deserialize_serialize (journal.header g i) (journal.entry i).body (holds.survive i resident))
  rw [getInt64, getUInt64, List.take_take, Nat.min_self]
  exact decoded

theorem slot_inside (i skip : Nat) (inside : skip ≤ g.slot) :
    (RingBuffer.bufOffset ring (g.offsetAt i) + Int32.ofNat skip).toInt ≤ ring.dataBuffer.length := by
  have room := g.place_room i
  rw [buf_offset_add g ring holds.shaped i skip inside, holds.shaped.length]
  exact Int.ofNat_le.mpr (by omega)

end

inductive Scanned (g : Geometry) (journal : Journal) (writes : List (Request × RingPacket)) (reader : RingReader)
    (caller : RingPacket) (data : Option (List UInt8)) (i : Nat) : RingBuffer.Reading → Prop where
  | hit (k : Nat) (request : Request) (packet : RingPacket)
      (found : firstIn (fun k => RingBuffer.passes reader (journal.streamId k) = true) i journal.written = some k)
      (isWrite : writes[k]? = some (request, packet)) :
      Scanned g journal writes reader caller data i
        ⟨packet.pktId, RingBuffer.moveTo reader packet.offset packet, journal.header g k, received request data⟩
  | stay (nothing : i = journal.written) :
      Scanned g journal writes reader caller data i ⟨Constants.ringIdNone, reader, caller, data⟩
  | miss (some : i < journal.written)
      (missing : firstIn (fun k => RingBuffer.passes reader (journal.streamId k) = true) i journal.written = none) :
      Scanned g journal writes reader caller data i ⟨Constants.ringIdNone,
        RingBuffer.moveTo reader (journal.packet (journal.written - 1)).offset (journal.packet (journal.written - 1)), caller, data⟩

theorem payloads_at (g : Geometry) (journal : Journal) (writes : List (Request × RingPacket)) (payloads : Payloads g journal writes)
    (i : Nat) (below : i < journal.written) : ∃ request, writes[i]? = some (request, journal.packet i) ∧ Sized request ∧
      request.dataSize.toNat + 112 ≤ g.slot ∧ (journal.packet i).dataSize = request.dataSize ∧
      (journal.entry i).body = slotBody g.slot request.packetData request.dataSize := by
  obtain ⟨length, all⟩ := payloads
  obtain ⟨⟨request, packet⟩, isWrite⟩ : ∃ write, writes[i]? = some write := ⟨_, List.getElem?_eq_getElem (by omega)⟩
  obtain ⟨sized, fits, writtenAs, entry⟩ := all i request packet isWrite
  have isPacket : journal.packet i = packet := congrArg Entry.packet entry
  have size : packet.dataSize = request.packet.dataSize := by rw [writtenAs.fields]
  exact ⟨request, isPacket ▸ isWrite, sized, fits, by rw [isPacket, size, sized.header], congrArg Entry.body entry⟩

section

variable (g : Geometry) (ring : RingParams) (journal : Journal) (holds : Holds g ring journal) (timely : Timely journal)
  (writes : List (Request × RingPacket)) (payloads : Payloads g journal writes)

include holds timely payloads

theorem read_next_pass (i : Nat) (fresh : oldest g.count (journal.written + 1) ≤ i) (below : i < journal.written)
    (caller : RingPacket) (data : Option (List UInt8)) (room : RoomFor ring data) (fuel skipped : Nat) (reader : RingReader) :
    RingBuffer.readNextFrom ring (journal.packet (journal.written - 1)).pktTime (g.offsetAt journal.written) caller data (fuel + 1)
        skipped reader (g.offsetAt i) =
      if RingBuffer.passes reader (journal.streamId i) = true then
        (writes[i]?).map fun write => ⟨write.2.pktId, RingBuffer.moveTo reader write.2.offset write.2, journal.header g i,
          received write.1 data⟩
      else RingBuffer.readNextFrom ring (journal.packet (journal.written - 1)).pktTime (g.offsetAt journal.written) caller data fuel 0
        (RingBuffer.moveTo reader (journal.packet i).offset (journal.packet i)) (g.offsetAt (i + 1)) := by
  have resident : journal.Resident g i := ⟨by simp only [Journal.low, oldest] at fresh ⊢; omega, below⟩
  have size := resident_slot g ring journal holds i resident
  have apart : g.offsetAt i ≠ g.offsetAt journal.written :=
    g.offset_at_ne _ _ (by omega) (slot_fresh g.count journal.written i fresh below)
  have notLater : ¬ (journal.header g i).pktTime.value > (journal.packet (journal.written - 1)).pktTime.value := by
    have ordered := timely.ordered i (journal.written - 1) (by omega) (by omega)
    rw [gt_iff_lt, Int64.lt_iff_toInt_lt]
    exact not_lt.mpr (Int64.le_iff_toInt_le.mp ordered)
  have moved : RingBuffer.moveTo reader (g.offsetAt i) (journal.header g i) =
      RingBuffer.moveTo reader (journal.packet i).offset (journal.packet i) := by
    rw [holds.offsets i resident]
    rfl
  have filters : RingBuffer.passes (RingBuffer.moveTo reader (journal.packet i).offset (journal.packet i))
      (journal.header g i).streamId = RingBuffer.passes reader (journal.streamId i) := rfl
  rw [RingBuffer.readNextFrom, if_neg apart, read_resident g ring journal holds i resident]
  simp only [if_neg notLater, moved, filters]
  by_cases hit : RingBuffer.passes reader (journal.streamId i) = true
  · obtain ⟨request, isWrite, sized, fits, dataSize, body⟩ := payloads_at g journal writes payloads i below
    have headerSize : (journal.header g i).dataSize = request.dataSize := dataSize
    have enough : Room request data := by
      intro buffer isBuffer
      have large := room buffer isBuffer
      rw [holds.shaped.pktSize] at large
      omega
    have copied := copy_resident g ring journal holds i resident request sized fits body data enough
    obtain ⟨bytes, isLive, live⟩ := live_time g ring journal holds i resident
    have inside : (RingBuffer.bufOffset ring (g.offsetAt i) + 16 + 8).toInt ≤ ring.dataBuffer.length := by
      have sum : RingBuffer.bufOffset ring (g.offsetAt i) + 16 + 8 = RingBuffer.bufOffset ring (g.offsetAt i) + Int32.ofNat 24 := by
        rw [Int32.add_assoc]
        rfl
      rw [sum]
      exact slot_inside g ring journal holds i 24 (by omega)
    have headerTime : (journal.header g i).pktTime.value = (journal.packet i).pktTime.value := rfl
    simp only [hit, if_true, headerSize, copied, Option.bind_eq_bind, Option.bind_some, if_pos inside, isLive, live, headerTime,
      ne_eq, not_true_eq_false, if_false, isWrite, Option.map_some]
    rfl
  · simp only [hit, Bool.false_eq_true, if_false, next_offset_at g ring holds.shaped]

theorem read_next_from_spec (caller : RingPacket) (data : Option (List UInt8)) (room : RoomFor ring data) (fuel skipped i : Nat)
    (reader : RingReader) (fresh : oldest g.count (journal.written + 1) ≤ i) (ordered : i ≤ journal.written)
    (enough : journal.written < fuel + i) :
    ∃ reading, RingBuffer.readNextFrom ring (journal.packet (journal.written - 1)).pktTime (g.offsetAt journal.written) caller data
        fuel skipped reader (g.offsetAt i) = some reading ∧ Scanned g journal writes reader caller data i reading := by
  induction fuel generalizing skipped i reader with
  | zero => exact absurd ordered (by omega)
  | succ fuel ih =>
      by_cases last : i = journal.written
      · refine ⟨_, ?_, .stay last⟩
        rw [RingBuffer.readNextFrom, if_pos (by rw [last])]
      · have below : i < journal.written := by omega
        have pass := read_next_pass g ring journal holds timely writes payloads i fresh below caller data room fuel skipped reader
        by_cases hit : RingBuffer.passes reader (journal.streamId i) = true
        · obtain ⟨request, isWrite, _⟩ := payloads_at g journal writes payloads i below
          rw [pass, if_pos hit, isWrite]
          exact ⟨_, rfl, .hit i request _ (first_in_head _ _ _ below hit) isWrite⟩
        · obtain ⟨reading, ran, scanned⟩ := ih 0 (i + 1) (RingBuffer.moveTo reader (journal.packet i).offset (journal.packet i))
            (by omega) (by omega) (by omega)
          refine ⟨reading, by rw [pass, if_neg hit, ran], ?_⟩
          have tail := first_in_tail (fun k => RingBuffer.passes reader (journal.streamId k) = true) i journal.written hit
          cases scanned with
          | hit k request packet found isWrite => exact .hit k request packet (tail.trans found) isWrite
          | stay nothing =>
              have isLast : i = journal.written - 1 := by omega
              have missing : firstIn (fun k => RingBuffer.passes reader (journal.streamId k) = true) i journal.written = none := by
                rw [tail]
                exact (first_in_none _ _ _).mpr (fun k above less => absurd less (by omega))
              rw [isLast]
              exact .miss (by omega) (isLast ▸ missing)
          | miss some missing => exact .miss below (tail.trans missing)

theorem read_next_spec (caller : RingPacket) (data : Option (List UInt8)) (room : RoomFor ring data) (fuel : Nat)
    (enough : g.count < fuel) (reader : RingReader) (place : Nat) (placed : place < journal.written)
    (stands : reader.pktOffset = g.offsetAt place) :
    ∃ reading, RingBuffer.readNext fuel ring reader caller data = some reading ∧
      Scanned g journal writes reader caller data (resume g.count journal.written place) reading := by
  have positive := g.positive
  have fresh := resume_fresh g.count journal.written place positive
  have residentLast : journal.Resident g (journal.written - 1) := ⟨by simp only [Journal.low, oldest]; omega, by omega⟩
  have size := resident_slot g ring journal holds _ residentLast
  have latest := latest_offset_at g ring journal holds (by omega)
  have notEmpty : ¬ ring.latestOffset < 0 := by rw [latest]; exact g.offset_at_not_neg _
  have constant : (112 : Int32) = Int32.ofNat 112 := rfl
  have inside : ¬ (ring.dataBuffer.length : Int) < (RingBuffer.bufOffset ring (g.offsetAt (journal.written - 1)) + 112).toInt := by
    rw [constant]
    exact not_lt.mpr (slot_inside g ring journal holds _ 112 (by omega))
  have positioned : ¬ reader.pktOffset < 0 := by rw [stands]; exact g.offset_at_not_neg _
  have start : RingBuffer.nextOffset reader.pktOffset ring.maxOffset ring.pktSize =
      g.offsetAt (resume g.count journal.written place) := by
    rw [stands, next_offset_at g ring holds.shaped]
    exact (g.offset_at_congr _ _ (resume_slot g.count journal.written place placed)).symm
  have eob := eob_offset_at g ring journal holds (by omega)
  obtain ⟨bytes, isTime, time⟩ := live_time g ring journal holds _ residentLast
  have latestTime : NsTime.mk (getInt64 bytes) = (journal.packet (journal.written - 1)).pktTime := by rw [time]
  have field8 := span_of_slot g ring journal holds _ 8 8 residentLast (by omega)
  have field92 := span_of_slot g ring journal holds _ 92 8 residentLast (by omega)
  have field100 := span_of_slot g ring journal holds _ 100 8 residentLast (by omega)
  have is8 : (8 : Int32) = Int32.ofNat 8 := rfl
  have is92 : (92 : Int32) = Int32.ofNat 92 := rfl
  have is100 : (100 : Int32) = Int32.ofNat 100 := rfl
  obtain ⟨reading, ran, scanned⟩ := read_next_from_spec g ring journal holds timely writes payloads caller data room fuel 0
    (resume g.count journal.written place) reader fresh (resume_le _ _ _) (by simp only [oldest] at fresh; omega)
  refine ⟨reading, ?_, scanned⟩
  rw [← ran]
  simp only [RingBuffer.readNext, if_neg notEmpty, if_neg positioned, start, eob]
  rw [latest, if_neg inside, is8, is92, is100, field8, field92, field100, isTime]
  simp only [Option.bind_eq_bind, Option.bind_some, latestTime]

end

end RingServer
