import RingServer.Ring.KeepFollow

set_option autoImplicit false

namespace RingServer

open Library

section

variable (g : Geometry) (ring : RingParams) (journal : Journal) (keeps : Keeps g ring journal)
  (writes : List (Request × RingPacket)) (payloads : Payloads g journal writes) (filling : journal.written < g.count)

include keeps filling

theorem filling_apart (i : Nat) (below : i < journal.written) : journal.Resident g i ∧ g.offsetAt i ≠ g.offsetAt journal.written := by
  have low : journal.low g = 0 := (oldest_filling g.count journal.written filling).1
  have resident : journal.Resident g i := ⟨by omega, below⟩
  have size := slot_keeps_size g _ journal i (keeps.slots i resident)
  refine ⟨resident, g.offset_at_ne _ _ (by omega) ?_⟩
  rw [Nat.mod_eq_of_lt (by omega), Nat.mod_eq_of_lt filling]
  omega

-- A late packet sends the loop back to the earliest one.
theorem late_pass (i : Nat) (below : i < journal.written) (late : journal.Late i) (caller : RingPacket) (data : Option (List UInt8))
    (fuel skipped : Nat) (reader : RingReader) :
    RingBuffer.readNextFrom ring (journal.packet (journal.written - 1)).pktTime (g.offsetAt journal.written) caller data (fuel + 1)
        skipped reader (g.offsetAt i) =
      if skipped + 1 ≥ 100 then some ⟨Constants.ringIdNone, reader, caller, data⟩
      else RingBuffer.readNextFrom ring (journal.packet (journal.written - 1)).pktTime (g.offsetAt journal.written) caller data fuel
        (skipped + 1) reader (g.offsetAt 0) := by
  obtain ⟨resident, apart⟩ := filling_apart g ring journal keeps filling i below
  obtain ⟨header, isRead, isHeader, _⟩ := read_kept g ring keeps.shaped journal i (keeps.slots i resident)
  have nonempty : journal.written ≠ 0 := by omega
  have low : journal.low g = 0 := (oldest_filling g.count journal.written filling).1
  have headerTime : header.pktTime = (journal.packet i).pktTime := by rw [isHeader.fields]
  have later : header.pktTime.value > (journal.packet (journal.written - 1)).pktTime.value := by
    rw [headerTime]
    exact late
  rw [RingBuffer.readNextFrom, if_neg apart, isRead]
  simp only [if_pos later, keeps.earliest, if_neg nonempty, low]

theorem late_first (positive : 0 < journal.written) (late : journal.Late 0) (caller : RingPacket) (data : Option (List UInt8))
    (fuel skipped : Nat) (reader : RingReader) (more : skipped < 100) (enough : 100 ≤ fuel + skipped) :
    RingBuffer.readNextFrom ring (journal.packet (journal.written - 1)).pktTime (g.offsetAt journal.written) caller data fuel skipped
      reader (g.offsetAt 0) = some ⟨Constants.ringIdNone, reader, caller, data⟩ := by
  induction fuel generalizing skipped with
  | zero => exact absurd enough (by omega)
  | succ fuel ih =>
      rw [late_pass g ring journal keeps filling 0 positive late]
      by_cases many : skipped + 1 ≥ 100
      · rw [if_pos many]
      · rw [if_neg many]
        exact ih (skipped + 1) (by omega) (by omega)

include payloads

theorem late_rest (late : journal.Late 0) (caller : RingPacket) (data : Option (List UInt8)) (room : RoomFor ring data)
    (fuel i : Nat) (reader : RingReader) (ordered : i ≤ journal.written) (positive : 0 < journal.written)
    (enough : journal.written + 100 < fuel + i)
    (fails : ∀ k, i ≤ k → k < journal.written → ¬ RingBuffer.passes reader (journal.storedStream k) = true) :
    ∃ reading, RingBuffer.readNextFrom ring (journal.packet (journal.written - 1)).pktTime (g.offsetAt journal.written) caller data
      fuel 0 reader (g.offsetAt i) = some reading ∧ reading.code = Constants.ringIdNone := by
  induction fuel generalizing i reader with
  | zero => exact absurd enough (by omega)
  | succ fuel ih =>
      by_cases last : i = journal.written
      · rw [RingBuffer.readNextFrom, if_pos (by rw [last])]
        exact ⟨_, rfl, rfl⟩
      have below : i < journal.written := by omega
      by_cases lateHere : journal.Late i
      · rw [late_pass g ring journal keeps filling i below lateHere, if_neg (by decide),
          late_first g ring journal keeps filling positive late caller data fuel 1 reader (by decide) (by omega)]
        exact ⟨_, rfl, rfl⟩
      · have fresh : oldest g.count (journal.written + 1) ≤ i := by
          simp only [oldest]
          omega
        obtain ⟨request, header, _, _, _, pass⟩ :=
          follow_pass g ring journal keeps writes payloads i fresh below lateHere caller data room fuel 0 reader
        rw [pass, if_neg (fails i (Nat.le_refl i) below)]
        exact ih (i + 1) (RingBuffer.moveTo reader (g.offsetAt i) header) (by omega) (by omega)
          (fun k above less => fails k (by omega) less)

theorem late_scan (start stop : Nat) (below : stop < journal.written) (late : journal.Late stop) (caller : RingPacket)
    (data : Option (List UInt8)) (room : RoomFor ring data) (fuel skipped i : Nat) (reader : RingReader) (ordered : i ≤ stop)
    (fails : ∀ k, start ≤ k → k < stop → ¬ RingBuffer.passes reader (journal.storedStream k) = true) (reading : RingBuffer.Reading)
    (ran : RingBuffer.readNextFrom ring (journal.packet (journal.written - 1)).pktTime (g.offsetAt journal.written) caller data fuel
      skipped reader (g.offsetAt i) = some reading) :
    (∃ k, k < start ∧ k < journal.written ∧ reading.code = (journal.packet k).pktId ∧ HeaderOf (journal.packet k) reading.packet) ∨
      (reading.code = Constants.ringIdNone ∧ ¬ (¬ journal.Late 0 ∧ (skipped = 0 ∨ (skipped = 1 ∧ i = 0)))) := by
  induction fuel generalizing skipped i reader with
  | zero => cases ran
  | succ fuel ih =>
      have inside : i < journal.written := by omega
      by_cases lateHere : journal.Late i
      · rw [late_pass g ring journal keeps filling i inside lateHere] at ran
        by_cases many : skipped + 1 ≥ 100
        · rw [if_pos many] at ran
          cases ran
          exact Or.inr ⟨rfl, fun few => by omega⟩
        · rw [if_neg many] at ran
          refine (ih (skipped + 1) 0 reader (Nat.zero_le _) fails ran).imp_right fun rest => ⟨rest.1, fun early => ?_⟩
          obtain ⟨first, count⟩ := early
          refine rest.2 ⟨first, Or.inr ⟨?_, rfl⟩⟩
          cases count with
          | inl zero => omega
          | inr one =>
              rw [one.2] at lateHere
              exact absurd lateHere first
      · have fresh : oldest g.count (journal.written + 1) ≤ i := by
          simp only [oldest]
          omega
        obtain ⟨request, header, _, isHeader, _, pass⟩ :=
          follow_pass g ring journal keeps writes payloads i fresh inside lateHere caller data room fuel skipped reader
        have notStop : i ≠ stop := fun same => lateHere (same ▸ late)
        rw [pass] at ran
        by_cases hit : RingBuffer.passes reader (journal.storedStream i) = true
        · rw [if_pos hit] at ran
          cases ran
          have early : i < start := by
            by_contra behind
            exact fails i (by omega) (by omega) hit
          exact Or.inl ⟨i, early, inside, rfl, isHeader⟩
        · rw [if_neg hit] at ran
          refine (ih 0 (i + 1) (RingBuffer.moveTo reader (g.offsetAt i) header) (by omega) fails ran).imp_right
            fun rest => ⟨rest.1, fun early => rest.2 ⟨early.1, Or.inl rfl⟩⟩

end

end RingServer
