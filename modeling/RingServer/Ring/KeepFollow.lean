import RingServer.Ring.Deliver
import RingServer.Ring.Filters
import RingServer.Ring.KeepRead

set_option autoImplicit false

namespace RingServer

open Library

def Journal.storedStream (journal : Journal) (i : Nat) : Text := storedId (journal.streamId i)

inductive Follows (g : Geometry) (journal : Journal) (writes : List (Request × RingPacket)) (reader : RingReader)
    (caller : RingPacket) (data : Option (List UInt8)) (i : Nat) : RingBuffer.Reading → Prop where
  | hit (k : Nat) (request : Request) (packet header : RingPacket) (moved : RingReader)
      (found : firstIn (fun k => RingBuffer.passes reader (journal.storedStream k) = true) i journal.written = some k)
      (isWrite : writes[k]? = some (request, packet)) (isHeader : HeaderOf packet header)
      (streamId : header.streamId = storedId packet.streamId) (stands : moved.pktOffset = g.offsetAt k) :
      Follows g journal writes reader caller data i ⟨packet.pktId, moved, header, received request data⟩
  | rest (moved : RingReader)
      (missing : firstIn (fun k => RingBuffer.passes reader (journal.storedStream k) = true) i journal.written = none)
      (stands : moved.pktOffset = g.offsetAt (journal.written - 1)) :
      Follows g journal writes reader caller data i ⟨Constants.ringIdNone, moved, caller, data⟩

-- A packet that ReadNext skips: the clock has gone back behind it.
def Journal.Late (journal : Journal) (i : Nat) : Prop :=
  (journal.packet i).pktTime.value > (journal.packet (journal.written - 1)).pktTime.value

theorem least_late (journal : Journal) (i j : Nat) (above : i ≤ j) (late : journal.Late j) :
    ∃ stop, i ≤ stop ∧ stop ≤ j ∧ journal.Late stop ∧ ∀ k, i ≤ k → k < stop → ¬ journal.Late k := by
  classical
  have exists_late : ∃ k, i ≤ k ∧ journal.Late k := ⟨j, above, late⟩
  have found := Nat.find_spec exists_late
  exact ⟨Nat.find exists_late, found.1, Nat.find_min' exists_late ⟨above, late⟩, found.2,
    fun k aboveK before isLate => Nat.find_min exists_late before ⟨aboveK, isLate⟩⟩

def Clear (journal : Journal) (reader : RingReader) (i : Nat) : Prop :=
  ∀ k, i ≤ k → k < journal.written → (∀ j, i ≤ j → j < k → ¬ RingBuffer.passes reader (journal.storedStream j) = true) →
    ¬ journal.Late k

theorem timely_clear (journal : Journal) (timely : Timely journal) (reader : RingReader) (i : Nat) : Clear journal reader i := by
  intro k _ below _ late
  have ordered := Int64.le_iff_toInt_le.mp (timely.ordered k (journal.written - 1) (by omega) (by omega))
  exact absurd (Int64.lt_iff_toInt_lt.mp late) (not_lt.mpr ordered)

theorem clear_next (journal : Journal) (reader : RingReader) (i : Nat) (clear : Clear journal reader i)
    (fails : ¬ RingBuffer.passes reader (journal.storedStream i) = true) : Clear journal reader (i + 1) := by
  intro k above below skips
  refine clear k (by omega) below (fun j aboveJ belowJ => ?_)
  by_cases here : j = i
  · rw [here]
    exact fails
  · exact skips j (by omega) belowJ

section

variable (g : Geometry) (ring : RingParams) (journal : Journal) (keeps : Keeps g ring journal)
  (writes : List (Request × RingPacket)) (payloads : Payloads g journal writes)

include keeps payloads

omit payloads in
theorem copy_kept (i : Nat) (resident : journal.Resident g i) (request : Request) (sized : Sized request)
    (fits : request.dataSize.toNat + 112 ≤ g.slot)
    (body : (journal.entry i).body = slotBody g.slot request.packetData request.dataSize) (data : Option (List UInt8))
    (room : Room request data) :
    RingBuffer.copyData ring (g.offsetAt i) request.dataSize data = some (received request data) := by
  cases data with
  | none => rfl
  | some buffer =>
      obtain ⟨header, _, slot⟩ := keeps.slots i resident
      have copied := copy_slot g ring keeps.shaped i header _ slot request.dataSize fits buffer (room buffer rfl)
      rw [copied, body, payload_of_body request sized]
      rfl

theorem follow_pass (i : Nat) (fresh : oldest g.count (journal.written + 1) ≤ i) (below : i < journal.written) (punctual : ¬ journal.Late i)
    (caller : RingPacket) (data : Option (List UInt8)) (room : RoomFor ring data) (fuel skipped : Nat) (reader : RingReader) :
    ∃ request header, writes[i]? = some (request, journal.packet i) ∧ HeaderOf (journal.packet i) header ∧
      header.streamId = journal.storedStream i ∧
      RingBuffer.readNextFrom ring (journal.packet (journal.written - 1)).pktTime (g.offsetAt journal.written) caller data (fuel + 1)
          skipped reader (g.offsetAt i) =
        if RingBuffer.passes reader (journal.storedStream i) = true then
          some ⟨(journal.packet i).pktId, RingBuffer.moveTo reader (g.offsetAt i) header, header, received request data⟩
        else RingBuffer.readNextFrom ring (journal.packet (journal.written - 1)).pktTime (g.offsetAt journal.written) caller data fuel 0
          (RingBuffer.moveTo reader (g.offsetAt i) header) (g.offsetAt (i + 1)) := by
  have resident : journal.Resident g i := ⟨by simp only [Journal.low, oldest] at fresh ⊢; omega, below⟩
  have size := slot_keeps_size g _ journal i (keeps.slots i resident)
  have apart : g.offsetAt i ≠ g.offsetAt journal.written :=
    g.offset_at_ne _ _ (by omega) (slot_fresh g.count journal.written i fresh below)
  obtain ⟨header, isRead, isHeader, streamId⟩ := read_kept g ring keeps.shaped journal i (keeps.slots i resident)
  obtain ⟨request, isWrite, sized, fits, dataSize, body⟩ := payloads_at g journal writes payloads i below
  have headerTime : header.pktTime = (journal.packet i).pktTime := by rw [isHeader.fields]
  have headerSize : header.dataSize = request.dataSize := by
    rw [isHeader.fields]
    exact dataSize
  have notLater : ¬ header.pktTime.value > (journal.packet (journal.written - 1)).pktTime.value := by
    rw [headerTime]
    exact punctual
  have filters : RingBuffer.passes (RingBuffer.moveTo reader (g.offsetAt i) header) header.streamId =
      RingBuffer.passes reader (journal.storedStream i) := by
    rw [streamId]
    rfl
  refine ⟨request, header, isWrite, isHeader, streamId, ?_⟩
  rw [RingBuffer.readNextFrom, if_neg apart, isRead]
  simp only [if_neg notLater, filters]
  by_cases hit : RingBuffer.passes reader (journal.storedStream i) = true
  · have enough : Room request data := by
      intro buffer isBuffer
      have large := room buffer isBuffer
      rw [keeps.shaped.pktSize] at large
      omega
    have copied := copy_kept g ring journal keeps i resident request sized fits body data enough
    obtain ⟨bytes, isLive, live⟩ := kept_live g ring journal keeps i resident
    have inside : (RingBuffer.bufOffset ring (g.offsetAt i) + 16 + 8).toInt ≤ ring.dataBuffer.length := by
      have room' := g.place_room i
      have constant : (24 : Int32) = Int32.ofNat 24 := rfl
      have sum : RingBuffer.bufOffset ring (g.offsetAt i) + 16 + 8 = RingBuffer.bufOffset ring (g.offsetAt i) + 24 := by
        rw [Int32.add_assoc]
        rfl
      rw [sum, constant, buf_offset_add g ring keeps.shaped i 24 (by omega), keeps.shaped.length]
      exact Int.ofNat_le.mpr (by omega)
    simp only [hit, if_true, headerSize, copied, Option.bind_eq_bind, Option.bind_some, if_pos inside, isLive, live, headerTime,
      ne_eq, not_true_eq_false, if_false, isHeader.pktId]
  · simp only [hit, Bool.false_eq_true, if_false, next_offset_at g ring keeps.shaped]

theorem read_next_from_follows (caller : RingPacket) (data : Option (List UInt8)) (room : RoomFor ring data) (fuel skipped i : Nat)
    (reader : RingReader) (positive : 0 < i) (stands : reader.pktOffset = g.offsetAt (i - 1))
    (fresh : oldest g.count (journal.written + 1) ≤ i) (ordered : i ≤ journal.written) (enough : journal.written < fuel + i)
    (clear : Clear journal reader i) :
    ∃ reading, RingBuffer.readNextFrom ring (journal.packet (journal.written - 1)).pktTime (g.offsetAt journal.written) caller data
        fuel skipped reader (g.offsetAt i) = some reading ∧ Follows g journal writes reader caller data i reading := by
  induction fuel generalizing skipped i reader with
  | zero => exact absurd ordered (by omega)
  | succ fuel ih =>
      by_cases last : i = journal.written
      · have missing : firstIn (fun k => RingBuffer.passes reader (journal.storedStream k) = true) i journal.written = none :=
          (first_in_none _ _ _).mpr (fun k above less => absurd less (by omega))
        refine ⟨_, ?_, .rest reader missing (last ▸ stands)⟩
        rw [RingBuffer.readNextFrom, if_pos (by rw [last])]
      · have below : i < journal.written := by omega
        obtain ⟨request, header, isWrite, isHeader, streamId, pass⟩ :=
          follow_pass g ring journal keeps writes payloads i fresh below
            (clear i (Nat.le_refl i) below (fun j above less => absurd above (by omega))) caller data room fuel skipped reader
        by_cases hit : RingBuffer.passes reader (journal.storedStream i) = true
        · rw [pass, if_pos hit]
          exact ⟨_, rfl, .hit i request _ header _ (first_in_head _ _ _ below hit) isWrite isHeader streamId rfl⟩
        · obtain ⟨reading, ran, follows⟩ := ih 0 (i + 1) (RingBuffer.moveTo reader (g.offsetAt i) header)
            (Nat.succ_pos i) rfl (by omega) (by omega) (by omega) (clear_next journal reader i clear hit)
          refine ⟨reading, by rw [pass, if_neg hit, ran], ?_⟩
          have tail := first_in_tail (fun k => RingBuffer.passes reader (journal.storedStream k) = true) i journal.written hit
          cases follows with
          | hit k request packet header moved found isWrite isHeader streamId stands =>
              exact .hit k request packet header moved (tail.trans found) isWrite isHeader streamId stands
          | rest moved missing stands => exact .rest moved (tail.trans missing) stands

theorem read_next_follows (caller : RingPacket) (data : Option (List UInt8)) (room : RoomFor ring data) (fuel : Nat)
    (enough : g.count < fuel) (reader : RingReader) (place : Nat) (resident : journal.Resident g place)
    (stands : reader.pktOffset = g.offsetAt place) (clear : Clear journal reader (place + 1)) :
    ∃ reading, RingBuffer.readNext fuel ring reader caller data = some reading ∧
      Follows g journal writes reader caller data (place + 1) reading := by
  have low := resident.1
  have below := resident.2
  rw [read_next_standing g ring journal keeps caller data fuel reader place below stands]
  exact read_next_from_follows g ring journal keeps writes payloads caller data room fuel 0 (place + 1) reader (Nat.succ_pos place)
    stands (by simp only [Journal.low, oldest] at low ⊢; omega) (by omega) (by simp only [Journal.low, oldest] at low; omega) clear

omit payloads in
theorem read_next_unset (nonempty : journal.written ≠ 0) (fuel : Nat) (reader : RingReader) (unset : reader.pktOffset < 0)
    (notLatest : reader.pktId ≠ Constants.ringIdLatest) (notEarliest : reader.pktId ≠ Constants.ringIdEarliest)
    (caller : RingPacket) (data : Option (List UInt8)) :
    ∃ reading, RingBuffer.readNext fuel ring reader caller data = some reading ∧
      reading.code = if reader.pktId = Constants.ringIdNext then Constants.ringIdNone else Constants.ringIdError := by
  by_cases next : reader.pktId = Constants.ringIdNext
  · obtain ⟨reading, ran, _, _, code, _⟩ := read_next_to_latest g ring journal keeps nonempty fuel reader unset next caller data
    exact ⟨reading, ran, by rw [code, if_pos next]⟩
  · rw [read_next_unnamed g ring journal keeps nonempty fuel reader unset next notLatest notEarliest, if_neg next]
    exact ⟨_, rfl, rfl⟩

end

end RingServer
