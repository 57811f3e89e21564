import RingServer.Ring.KeepFollow
import RingServer.Ring.KeepSeek

set_option autoImplicit false

namespace RingServer

open Library

inductive FirstAfter (g : Geometry) (journal : Journal) (reader : RingReader) (refTime : NsTime) (j : Nat) : UInt64 × RingReader →
    Prop where
  | missing (missing : firstIn (fun i => refTime.value ≤ (journal.packet i).dataStart.value) j journal.written = none) :
      FirstAfter g journal reader refTime j (Constants.ringIdNone, reader)
  | found (i : Nat) (header : RingPacket)
      (first : firstIn (fun i => refTime.value ≤ (journal.packet i).dataStart.value) j journal.written = some i)
      (isHeader : HeaderOf (journal.packet i) header) :
      FirstAfter g journal reader refTime j (header.pktId, RingBuffer.moveTo reader (g.offsetAt i) header)

section

variable (g : Geometry) (ring : RingParams) (journal : Journal) (keeps : Keeps g ring journal)

include keeps

theorem after_from_first (refTime : NsTime) (reader : RingReader) (fuel j : Nat)
    (fresh : oldest g.count (journal.written + 1) ≤ j) (ordered : j ≤ journal.written) (enough : journal.written < fuel + j) :
    ∃ result, RingBuffer.afterFrom ring refTime (g.offsetAt journal.written) reader fuel (g.offsetAt j) = some result ∧
      FirstAfter g journal reader refTime j result := by
  induction fuel generalizing j with
  | zero => exact absurd enough (by omega)
  | succ fuel ih =>
      rw [RingBuffer.afterFrom]
      by_cases last : j = journal.written
      · rw [if_pos (congrArg g.offsetAt last)]
        exact ⟨_, rfl, .missing ((first_in_none _ _ _).mpr fun i above below => absurd above (by omega))⟩
      have resident : journal.Resident g j := ⟨by simp only [Journal.low, oldest] at fresh ⊢; omega, by omega⟩
      have size := slot_keeps_size g _ journal j (keeps.slots j resident)
      obtain ⟨header, isRead, isHeader, _⟩ := read_kept g ring keeps.shaped journal j (keeps.slots j resident)
      have notEnd : ¬ g.offsetAt j = g.offsetAt journal.written :=
        g.offset_at_ne _ _ (by omega) (slot_fresh g.count journal.written j fresh (by omega))
      have start : header.dataStart = (journal.packet j).dataStart := by rw [isHeader.fields]
      rw [if_neg notEnd, isRead]
      dsimp only
      by_cases hit : header.dataStart.value ≥ refTime.value
      · rw [if_pos hit]
        exact ⟨_, rfl, .found j header (first_in_head _ _ _ (by omega) (start ▸ hit)) isHeader⟩
      · rw [if_neg hit, next_offset_at g ring keeps.shaped]
        obtain ⟨result, ran, first⟩ := ih (j + 1) (by omega) (by omega) (by omega)
        refine ⟨result, ran, ?_⟩
        have tail := first_in_tail (fun i => refTime.value ≤ (journal.packet i).dataStart.value) j journal.written (start ▸ hit)
        cases first with
        | missing missing => exact .missing (tail.trans missing)
        | found i header first isHeader => exact .found i header (tail.trans first) isHeader

-- With a free slot After comes to the first packet that starts no earlier. In a full
-- ring the earliest packet has the offset that ends the search.
theorem after_first (fuel : Nat) (enough : g.count < fuel) (reader : RingReader) (refTime : NsTime) :
    ∃ result, RingBuffer.after fuel ring reader refTime 0 = some result ∧
      if journal.written < g.count then FirstAfter g journal reader refTime 0 result else result = (Constants.ringIdNone, reader) := by
  have positive := g.positive
  rw [RingBuffer.after]
  by_cases none : journal.written = 0
  · have empty : ring.latestOffset < 0 := by
      rw [keeps.latest, if_pos none]
      decide
    rw [if_pos empty]
    refine ⟨_, rfl, ?_⟩
    rw [if_pos (by omega)]
    exact .missing ((first_in_none _ _ _).mpr fun i _ below => absurd below (by omega))
  have notEmpty : ¬ ring.latestOffset < 0 := by
    rw [keeps.latest, if_neg none]
    exact g.offset_at_not_neg _
  have atEarliest : ring.earliestOffset = g.offsetAt (journal.low g) := by rw [keeps.earliest, if_neg none]
  have first : ¬ g.offsetAt (journal.low g) < 0 := g.offset_at_not_neg _
  rw [if_neg notEmpty]
  simp only [if_true, atEarliest, if_neg first, eob_kept g ring journal keeps none]
  by_cases filling : journal.written < g.count
  · obtain ⟨result, ran, found⟩ := after_from_first g ring journal keeps refTime reader fuel 0
      (by rw [(oldest_filling g.count journal.written filling).2]) (Nat.zero_le _) (by omega)
    refine ⟨result, ?_, ?_⟩
    · rw [show journal.low g = 0 from (oldest_filling g.count journal.written filling).1]
      exact ran
    · rw [if_pos filling]
      exact found
  · have wrapped : g.offsetAt (journal.low g) = g.offsetAt journal.written :=
      g.offset_at_congr _ _ (slot_reused g.count journal.written (by omega)).symm
    obtain ⟨rounds, rfl⟩ := Nat.exists_eq_add_of_lt enough
    refine ⟨(Constants.ringIdNone, reader), ?_, ?_⟩
    · rw [RingBuffer.afterFrom, if_pos wrapped]
    · rw [if_neg filling]

theorem after_last_lap (nonempty : journal.written ≠ 0) (fuel : Nat) (enough : g.count < fuel) (reader : RingReader) (refTime : NsTime) :
    ∃ result, RingBuffer.after fuel ring reader refTime 1 = some result ∧
      FirstAfter g journal reader refTime (journal.written - journal.written % g.count) result := by
  have lap := Nat.mod_lt journal.written g.positive
  have most := Nat.mod_le journal.written g.count
  have notEmpty : ¬ ring.latestOffset < 0 := by
    rw [keeps.latest, if_neg nonempty]
    exact g.offset_at_not_neg _
  have start : (0 : Int64) = g.offsetAt (journal.written - journal.written % g.count) := by
    have same : g.offsetAt (journal.written - journal.written % g.count) = g.offsetAt 0 := by
      apply g.offset_at_congr
      rw [Nat.sub_mod_eq_zero_of_mod_eq (Nat.mod_mod _ _).symm, Nat.zero_mod]
    rw [same, Geometry.offsetAt, Geometry.place, Nat.zero_mod, Nat.zero_mul]
    rfl
  have whence : ¬ (1 : Int) = 0 := by decide
  have notNegative : ¬ (0 : Int64) < 0 := by decide
  rw [RingBuffer.after, if_neg notEmpty]
  simp only [if_neg whence, if_neg notNegative, eob_kept g ring journal keeps nonempty]
  rw [start]
  apply after_from_first g ring journal keeps refTime reader fuel
  · simp only [oldest]
    omega
  · exact Nat.sub_le _ _
  · omega

end

end RingServer
