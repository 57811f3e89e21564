import RingServer.Ring.Filters
import RingServer.Ring.KeepRead
import RingServer.Ring.Search

set_option autoImplicit false

namespace RingServer

open Library

inductive Sought (g : Geometry) (journal : Journal) (reader : RingReader) (wanted : RingPacket → Prop) :
    UInt64 × RingReader → Prop
  | missing (code : UInt64) (isCode : code = Constants.ringIdNone ∨ code = Constants.ringIdError) :
      Sought g journal reader wanted (code, reader)
  | found (i : Nat) (header : RingPacket) (resident : journal.Resident g i) (isHeader : HeaderOf (journal.packet i) header)
      (isWanted : wanted header) :
      Sought g journal reader wanted (header.pktId, RingBuffer.moveTo reader (g.offsetAt i) header)

theorem read_next_from_stays (ring : RingParams) (latestPTime : NsTime) (eobOffset : Int64) (packet : RingPacket)
    (data : Option (List UInt8)) (fuel skipped : Nat) (reader : RingReader) (offset : Int64) (reading : RingBuffer.Reading)
    (ran : RingBuffer.readNextFrom ring latestPTime eobOffset packet data fuel skipped reader offset = some reading) :
    reading.reader = reader ∨ ¬ reading.reader.pktOffset < 0 := by
  have inside : ∀ place pkt, RingBuffer.readPacketAtOffset ring place = some pkt → ¬ place < 0 := by
    intro place pkt isRead negative
    rw [RingBuffer.readPacketAtOffset, if_pos negative] at isRead
    cases isRead
  induction fuel generalizing skipped reader offset with
  | zero => cases ran
  | succ fuel ih =>
      cases read_next_from_turn ring latestPTime eobOffset packet data fuel skipped reader offset reading ran with
      | stopped isReading => exact Or.inl (by rw [isReading])
      | restarted pkt isRead late rest => exact ih _ _ _ rest
      | skipped pkt isRead rest =>
          cases ih _ _ _ rest with
          | inl same =>
              rw [same]
              exact Or.inr (inside offset pkt isRead)
          | inr placed => exact Or.inr placed
      | met pkt isRead code copied isCopied isCode isReading =>
          rw [isReading]
          exact Or.inr (inside offset pkt isRead)

section

variable (g : Geometry) (ring : RingParams) (journal : Journal) (keeps : Keeps g ring journal)

include keeps

theorem kept_slot (offset : Int64) (place : ∃ j, j ≤ journal.written ∧ offset = g.offsetAt j)
    (inside : offset ≠ g.offsetAt journal.written) :
    ∃ i header, journal.Resident g i ∧ offset = g.offsetAt i ∧ RingBuffer.readPacketAtOffset ring offset = some header ∧
      HeaderOf (journal.packet i) header ∧ RingBuffer.nextOffset offset ring.maxOffset ring.pktSize = g.offsetAt (i + 1) := by
  obtain ⟨j, below, isPlace⟩ := place
  have notEnd : j ≠ journal.written := fun same => inside (isPlace.trans (congrArg g.offsetAt same))
  obtain ⟨i, resident, sameSlot⟩ := resident_of_slot g journal j (by omega)
  obtain ⟨header, isRead, isHeader, _⟩ := read_kept g ring keeps.shaped journal i (keeps.slots i resident)
  have here : offset = g.offsetAt i := isPlace.trans sameSlot
  exact ⟨i, header, resident, here, here ▸ isRead, isHeader, here ▸ next_offset_at g ring keeps.shaped i⟩

theorem after_from_kept (refTime : NsTime) (reader : RingReader) (fuel : Nat) (offset : Int64) (result : UInt64 × RingReader)
    (place : ∃ j, j ≤ journal.written ∧ offset = g.offsetAt j)
    (ran : RingBuffer.afterFrom ring refTime (g.offsetAt journal.written) reader fuel offset = some result) :
    Sought g journal reader (fun header => header.dataStart.value ≥ refTime.value) result := by
  induction fuel generalizing offset with
  | zero => cases ran
  | succ fuel ih =>
      rw [RingBuffer.afterFrom] at ran
      by_cases atEnd : offset = g.offsetAt journal.written
      · rw [if_pos atEnd] at ran
        cases ran
        exact .missing _ (Or.inl rfl)
      obtain ⟨i, header, resident, here, isRead, isHeader, next⟩ := kept_slot g ring journal keeps offset place atEnd
      rw [if_neg atEnd, isRead] at ran
      dsimp only at ran
      by_cases hit : header.dataStart.value ≥ refTime.value
      · rw [if_pos hit, here] at ran
        cases ran
        exact .found i header resident isHeader hit
      · rw [if_neg hit, next] at ran
        exact ih _ ⟨i + 1, resident.2, rfl⟩ ran

theorem after_kept (fuel : Nat) (reader : RingReader) (refTime : NsTime) (result : UInt64 × RingReader)
    (ran : RingBuffer.after fuel ring reader refTime 0 = some result) :
    Sought g journal reader (fun header => header.dataStart.value ≥ refTime.value) result := by
  rw [RingBuffer.after] at ran
  by_cases empty : ring.latestOffset < 0
  · rw [if_pos empty] at ran
    cases ran
    exact .missing _ (Or.inl rfl)
  have nonempty : journal.written ≠ 0 := fun none => empty (by rw [keeps.latest, if_pos none]; decide)
  have atEarliest : ring.earliestOffset = g.offsetAt (journal.low g) := by rw [keeps.earliest, if_neg nonempty]
  have first : ¬ g.offsetAt (journal.low g) < 0 := g.offset_at_not_neg _
  rw [if_neg empty] at ran
  simp only [if_true, atEarliest, if_neg first, eob_kept g ring journal keeps nonempty] at ran
  exact after_from_kept g ring journal keeps refTime reader fuel _ result ⟨journal.low g, Nat.sub_le _ _, rfl⟩ ran

theorem after_from_finds (refTime : NsTime) (reader : RingReader) (filling : journal.written < g.count) (i : Nat)
    (below : i < journal.written) (wanted : (journal.packet i).dataStart.value ≥ refTime.value) (fuel j : Nat) (ordered : j ≤ i)
    (result : UInt64 × RingReader)
    (ran : RingBuffer.afterFrom ring refTime (g.offsetAt journal.written) reader fuel (g.offsetAt j) = some result) :
    ∃ k header, HeaderOf (journal.packet k) header ∧ k < journal.written ∧ result.2 = RingBuffer.moveTo reader (g.offsetAt k) header := by
  induction fuel generalizing j with
  | zero => cases ran
  | succ fuel ih =>
      have low : journal.low g = 0 := (oldest_filling g.count journal.written filling).1
      have residentJ : journal.Resident g j := ⟨by omega, by omega⟩
      have size := slot_keeps_size g _ journal j (keeps.slots j residentJ)
      obtain ⟨header, isRead, isHeader, _⟩ := read_kept g ring keeps.shaped journal j (keeps.slots j residentJ)
      have notEnd : ¬ g.offsetAt j = g.offsetAt journal.written := by
        refine g.offset_at_ne _ _ (by omega) ?_
        rw [Nat.mod_eq_of_lt (by omega), Nat.mod_eq_of_lt filling]
        omega
      rw [RingBuffer.afterFrom, if_neg notEnd, isRead] at ran
      dsimp only at ran
      by_cases hit : header.dataStart.value ≥ refTime.value
      · rw [if_pos hit] at ran
        cases ran
        exact ⟨j, header, isHeader, by omega, rfl⟩
      · have start : header.dataStart = (journal.packet j).dataStart := by rw [isHeader.fields]
        have notHere : j ≠ i := fun same => hit (by rw [start, same]; exact wanted)
        rw [if_neg hit, next_offset_at g ring keeps.shaped] at ran
        exact ih (j + 1) (by omega) ran

theorem after_finds (refTime : NsTime) (reader : RingReader) (filling : journal.written < g.count) (i : Nat)
    (below : i < journal.written) (wanted : (journal.packet i).dataStart.value ≥ refTime.value) (fuel : Nat)
    (result : UInt64 × RingReader) (ran : RingBuffer.after fuel ring reader refTime 0 = some result) :
    ∃ k, k < journal.written ∧ result.2.pktOffset = g.offsetAt k := by
  have nonempty : journal.written ≠ 0 := by omega
  have low : journal.low g = 0 := (oldest_filling g.count journal.written filling).1
  have atLatest : ¬ ring.latestOffset < 0 := by
    rw [keeps.latest, if_neg nonempty]
    exact g.offset_at_not_neg _
  have atEarliest : ring.earliestOffset = g.offsetAt 0 := by rw [keeps.earliest, if_neg nonempty, low]
  have first : ¬ g.offsetAt 0 < 0 := g.offset_at_not_neg _
  rw [RingBuffer.after, if_neg atLatest] at ran
  simp only [if_true, atEarliest, if_neg first, eob_kept g ring journal keeps nonempty] at ran
  obtain ⟨k, header, _, placed, moved⟩ :=
    after_from_finds g ring journal keeps refTime reader filling i below wanted fuel 0 (Nat.zero_le i) result ran
  exact ⟨k, placed, congrArg RingReader.pktOffset moved⟩

theorem after_from_ends (refTime : NsTime) (reader : RingReader) (fuel j : Nat) (ordered : j ≤ journal.written)
    (enough : journal.written < fuel + j) :
    ∃ result, RingBuffer.afterFrom ring refTime (g.offsetAt journal.written) reader fuel (g.offsetAt j) = some result := by
  induction fuel generalizing j with
  | zero => exact absurd enough (by omega)
  | succ fuel ih =>
      rw [RingBuffer.afterFrom]
      by_cases atEnd : g.offsetAt j = g.offsetAt journal.written
      · rw [if_pos atEnd]
        exact ⟨_, rfl⟩
      have inside : j ≠ journal.written := fun same => atEnd (congrArg g.offsetAt same)
      rw [if_neg atEnd]
      cases RingBuffer.readPacketAtOffset ring (g.offsetAt j) with
      | none => exact ⟨_, rfl⟩
      | some pkt =>
          dsimp only
          by_cases hit : pkt.dataStart.value ≥ refTime.value
          · rw [if_pos hit]
            exact ⟨_, rfl⟩
          · rw [if_neg hit, next_offset_at g ring keeps.shaped]
            exact ih (j + 1) (by omega) (by omega)

theorem after_ends (fuel : Nat) (enough : g.count < fuel) (reader : RingReader) (refTime : NsTime) :
    ∃ result, RingBuffer.after fuel ring reader refTime 0 = some result := by
  rw [RingBuffer.after]
  by_cases empty : ring.latestOffset < 0
  · rw [if_pos empty]
    exact ⟨_, rfl⟩
  have nonempty : journal.written ≠ 0 := fun none => empty (by rw [keeps.latest, if_pos none]; decide)
  have atEarliest : ring.earliestOffset = g.offsetAt (journal.low g) := by rw [keeps.earliest, if_neg nonempty]
  have first : ¬ g.offsetAt (journal.low g) < 0 := g.offset_at_not_neg _
  rw [if_neg empty]
  simp only [if_true, atEarliest, if_neg first, eob_kept g ring journal keeps nonempty]
  exact after_from_ends g ring journal keeps refTime reader fuel (journal.low g) (Nat.sub_le _ _)
    (by simp only [Journal.low, oldest]; omega)

theorem find_from_sought (pktId : UInt64) (fuel : Nat) (offset found : Int64) (time : NsTime)
    (place : ∃ j, j ≤ journal.written ∧ offset = g.offsetAt j)
    (ran : RingBuffer.findFrom ring pktId (g.offsetAt journal.written) fuel offset = some (some (found, time))) :
    ∃ i header, journal.Resident g i ∧ found = g.offsetAt i ∧ RingBuffer.readPacketAtOffset ring found = some header ∧
      HeaderOf (journal.packet i) header ∧ header.pktId = pktId ∧ header.pktTime = time := by
  induction fuel generalizing offset with
  | zero => cases ran
  | succ fuel ih =>
      rw [RingBuffer.findFrom] at ran
      by_cases atEnd : offset = g.offsetAt journal.written
      · rw [if_pos atEnd] at ran
        cases ran
      obtain ⟨i, header, resident, here, isRead, isHeader, next⟩ := kept_slot g ring journal keeps offset place atEnd
      rw [if_neg atEnd, isRead] at ran
      dsimp only at ran
      by_cases hit : header.pktId = pktId
      · rw [if_pos hit] at ran
        cases ran
        exact ⟨i, header, resident, here, isRead, isHeader, hit, rfl⟩
      rw [if_neg hit, next] at ran
      by_cases around : g.offsetAt (i + 1) = ring.earliestOffset
      · rw [if_pos around] at ran
        cases ran
      · rw [if_neg around] at ran
        exact ih _ ⟨i + 1, resident.2, rfl⟩ ran

theorem position_kept (fuel : Nat) (reader : RingReader) (pktId : UInt64) (plain : pktId ≤ Constants.ringIdMaximum)
    (result : UInt64 × RingReader) (ran : RingBuffer.position fuel ring reader pktId NsTime.unset = some result) :
    Sought g journal reader (fun header => header.pktId = pktId) result := by
  simp only [RingBuffer.position, resolve_plain ring pktId plain] at ran
  rw [if_neg (UInt64.not_lt.mpr plain), Option.bind_eq_bind, Option.bind_eq_some_iff] at ran
  obtain ⟨found, search, ran⟩ := ran
  cases found with
  | none =>
      cases ran
      exact .missing _ (Or.inl rfl)
  | some found =>
      obtain ⟨offset, time⟩ := found
      rw [RingBuffer.findOffsetForId] at search
      by_cases empty : ring.earliestOffset < 0 ∨ ring.latestOffset < 0
      · rw [if_pos empty] at search
        cases search
      have nonempty : journal.written ≠ 0 := fun none => empty (Or.inl (by rw [keeps.earliest, if_pos none]; decide))
      have atEarliest : ring.earliestOffset = g.offsetAt (journal.low g) := by rw [keeps.earliest, if_neg nonempty]
      rw [if_neg empty, eob_kept g ring journal keeps nonempty] at search
      obtain ⟨i, header, resident, isOffset, isRead, isHeader, isId, isTime⟩ :=
        find_from_sought g ring journal keeps pktId fuel _ offset time ⟨journal.low g, Nat.sub_le _ _, atEarliest⟩ search
      have anyTime : ¬ (NsTime.unset ≠ NsTime.unset ∧ NsTime.unset ≠ NsTime.error ∧ NsTime.unset ≠ time) := fun differs => differs.1 rfl
      have sameId : ¬ pktId ≠ header.pktId := fun differs => differs isId.symm
      dsimp only at ran
      rw [isRead] at ran
      dsimp only at ran
      rw [if_neg anyTime, if_neg sameId, ← isId, ← isTime, isOffset] at ran
      cases ran
      exact .found i header resident isHeader isId

theorem find_from_ends (pktId : UInt64) (fuel j : Nat) (ordered : j ≤ journal.written) (enough : journal.written < fuel + j) :
    ∃ found, RingBuffer.findFrom ring pktId (g.offsetAt journal.written) fuel (g.offsetAt j) = some found := by
  induction fuel generalizing j with
  | zero => exact absurd enough (by omega)
  | succ fuel ih =>
      rw [RingBuffer.findFrom]
      by_cases atEnd : g.offsetAt j = g.offsetAt journal.written
      · rw [if_pos atEnd]
        exact ⟨none, rfl⟩
      have inside : j ≠ journal.written := fun same => atEnd (congrArg g.offsetAt same)
      rw [if_neg atEnd]
      cases RingBuffer.readPacketAtOffset ring (g.offsetAt j) with
      | none => exact ⟨none, rfl⟩
      | some pkt =>
          dsimp only
          by_cases hit : pkt.pktId = pktId
          · rw [if_pos hit]
            exact ⟨_, rfl⟩
          rw [if_neg hit, next_offset_at g ring keeps.shaped]
          by_cases around : g.offsetAt (j + 1) = ring.earliestOffset
          · rw [if_pos around]
            exact ⟨none, rfl⟩
          · rw [if_neg around]
            exact ih (j + 1) (by omega) (by omega)

theorem find_offset_ends (fuel : Nat) (enough : g.count < fuel) (pktId : UInt64) :
    ∃ found, RingBuffer.findOffsetForId fuel ring pktId = some found := by
  rw [RingBuffer.findOffsetForId]
  by_cases empty : ring.earliestOffset < 0 ∨ ring.latestOffset < 0
  · rw [if_pos empty]
    exact ⟨none, rfl⟩
  have nonempty : journal.written ≠ 0 := fun none => empty (Or.inl (by rw [keeps.earliest, if_pos none]; decide))
  rw [if_neg empty, eob_kept g ring journal keeps nonempty, keeps.earliest, if_neg nonempty]
  exact find_from_ends g ring journal keeps pktId fuel (journal.low g) (Nat.sub_le _ _)
    (by simp only [Journal.low, oldest]; omega)

theorem position_ends (fuel : Nat) (enough : g.count < fuel) (reader : RingReader) (pktId : UInt64)
    (plain : pktId ≤ Constants.ringIdMaximum) :
    ∃ result, RingBuffer.position fuel ring reader pktId NsTime.unset = some result := by
  obtain ⟨found, search⟩ := find_offset_ends g ring journal keeps fuel enough pktId
  simp only [RingBuffer.position, resolve_plain ring pktId plain]
  rw [if_neg (UInt64.not_lt.mpr plain), search, Option.bind_eq_bind, Option.bind_some]
  cases found with
  | none => exact ⟨_, rfl⟩
  | some place =>
      obtain ⟨offset, time⟩ := place
      dsimp only
      cases RingBuffer.readPacketAtOffset ring offset with
      | none => exact ⟨_, rfl⟩
      | some pkt =>
          dsimp only
          split
          · exact ⟨_, rfl⟩
          · split
            · exact ⟨_, rfl⟩
            · exact ⟨_, rfl⟩

theorem position_finds (filling : journal.written < g.count) (i : Nat) (below : i < journal.written) (fuel : Nat)
    (enough : g.count < fuel) (reader : RingReader) (plain : (journal.packet i).pktId ≤ Constants.ringIdMaximum)
    (result : UInt64 × RingReader)
    (ran : RingBuffer.position fuel ring reader (journal.packet i).pktId NsTime.unset = some result) :
    ∃ k, k < journal.written ∧ (journal.packet k).pktId = (journal.packet i).pktId ∧ result.1 = (journal.packet i).pktId ∧
      result.2.pktOffset = g.offsetAt k := by
  have low : journal.low g = 0 := (oldest_filling g.count journal.written filling).1
  obtain ⟨k, time, searched, belowK, sameId⟩ :=
    find_offset_resident g ring journal keeps filling i ⟨by omega, below⟩ fuel (by omega)
  obtain ⟨header, isRead, isHeader, _⟩ := read_kept g ring keeps.shaped journal k (keeps.slots k ⟨by omega, belowK⟩)
  have anyTime : ¬ (NsTime.unset ≠ NsTime.unset ∧ NsTime.unset ≠ NsTime.error ∧ NsTime.unset ≠ time) := fun differs => differs.1 rfl
  have same : ¬ (journal.packet i).pktId ≠ header.pktId := fun differs => differs (sameId.symm.trans isHeader.pktId.symm)
  simp only [RingBuffer.position, resolve_plain ring _ plain] at ran
  rw [if_neg (UInt64.not_lt.mpr plain), searched, Option.bind_eq_bind, Option.bind_some] at ran
  dsimp only at ran
  rw [isRead] at ran
  dsimp only at ran
  rw [if_neg anyTime, if_neg same] at ran
  cases ran
  exact ⟨k, belowK, sameId, rfl, rfl⟩

theorem position_full (full : g.count ≤ journal.written) (fuel : Nat) (reader : RingReader) (pktId : UInt64)
    (plain : pktId ≤ Constants.ringIdMaximum) :
    RingBuffer.position (fuel + 1) ring reader pktId NsTime.unset = some (Constants.ringIdNone, reader) := by
  have positive := g.positive
  have nonempty : journal.written ≠ 0 := by omega
  have bounds : ¬ (ring.earliestOffset < 0 ∨ ring.latestOffset < 0) := by
    rw [keeps.earliest, keeps.latest, if_neg nonempty, if_neg nonempty]
    exact not_or.mpr ⟨g.offset_at_not_neg _, g.offset_at_not_neg _⟩
  have wrapped : g.offsetAt (journal.low g) = g.offsetAt journal.written :=
    g.offset_at_congr _ _ (slot_reused g.count journal.written full).symm
  have searched : RingBuffer.findOffsetForId (fuel + 1) ring pktId = some none := by
    rw [RingBuffer.findOffsetForId, if_neg bounds, eob_kept g ring journal keeps nonempty, keeps.earliest, if_neg nonempty,
      RingBuffer.findFrom, if_pos wrapped]
  simp only [RingBuffer.position, resolve_plain ring pktId plain]
  rw [if_neg (UInt64.not_lt.mpr plain), searched, Option.bind_eq_bind, Option.bind_some]

end

theorem read_next_unplaced (ring : RingParams) (fuel : Nat) (reader : RingReader) (packet : RingPacket) (data : Option (List UInt8))
    (reading : RingBuffer.Reading) (ran : RingBuffer.readNext fuel ring reader packet data = some reading)
    (unset : reading.reader.pktOffset < 0) :
    reading.reader = reader ∨
      (reader.pktId = Constants.ringIdNext ∧ reading.reader = { reader with pktId := Constants.ringIdEarliest }) := by
  cases read_next_call fuel ring reader packet data reading ran with
  | idle isPacket isData isCode filters place =>
      rcases place with same | placed | next
      · exact Or.inl same
      · exact absurd unset placed
      · exact Or.inr next
  | scans latestPTime eobOffset start scanned =>
      exact Or.inl ((read_next_from_stays _ _ _ _ _ _ _ _ _ _ scanned).resolve_right fun placed => placed unset)

end RingServer
