import RingServer.Ring.KeepFollow

set_option autoImplicit false

namespace RingServer

open Library

-- Where ReadNext may begin its walk: behind the packet of the reader, on the latest or
-- the earliest packet, and on the earliest one again where a packet is late.
inductive Starts (g : Geometry) (journal : Journal) (reader : RingReader) : Nat → Prop where
  | behind (k s : Nat) (stands : reader.pktOffset = g.offsetAt k) (next : g.offsetAt s = g.offsetAt (k + 1)) :
      Starts g journal reader s
  | latest (unset : reader.pktOffset < 0) (named : reader.pktId = Constants.ringIdLatest) :
      Starts g journal reader (journal.written - 1)
  | earliest (unset : reader.pktOffset < 0) (named : reader.pktId = Constants.ringIdEarliest) :
      Starts g journal reader (journal.low g)
  | again (j : Nat) (resident : journal.Resident g j) (late : journal.Late j) : Starts g journal reader (journal.low g)

def Journal.Upcoming (journal : Journal) (g : Geometry) (reader : RingReader) (i : Nat) : Prop :=
  ∃ s, journal.Resident g s ∧ Starts g journal reader s ∧
    firstIn (fun k => RingBuffer.passes reader (journal.storedStream k) = true) s journal.written = some i

section

variable (g : Geometry) (ring : RingParams) (journal : Journal) (keeps : Keeps g ring journal)

include keeps

theorem resident_offset (i j : Nat) (first : journal.Resident g i) (second : journal.Resident g j)
    (same : g.offsetAt i = g.offsetAt j) : i = j := by
  have size := slot_keeps_size g _ journal i (keeps.slots i first)
  refine slot_injective g.count journal.written i j first.1 first.2 second.1 second.2 ?_
  by_contra apart
  exact g.offset_at_ne i j (by omega) apart same

theorem walk_comes (packet : RingPacket) (data : Option (List UInt8)) (fuel skipped : Nat) (reader : RingReader) (offset : Int64)
    (reading : RingBuffer.Reading) (nonempty : journal.written ≠ 0) (place : ∃ j, j ≤ journal.written ∧ offset = g.offsetAt j)
    (ran : RingBuffer.readNextFrom ring (journal.packet (journal.written - 1)).pktTime (g.offsetAt journal.written) packet data
      fuel skipped reader offset = some reading) :
    reading.code = Constants.ringIdNone ∨ ∃ s i, journal.Resident g s ∧
      firstIn (fun k => RingBuffer.passes reader (journal.storedStream k) = true) s journal.written = some i ∧
      HeaderOf (journal.packet i) reading.packet ∧
      (g.offsetAt s = offset ∨ (s = journal.low g ∧ ∃ j, journal.Resident g j ∧ journal.Late j)) := by
  have positive := g.positive
  have earliest : journal.Resident g (journal.low g) := ⟨Nat.le_refl _, by simp only [Journal.low, oldest]; omega⟩
  induction fuel generalizing skipped reader offset with
  | zero => cases ran
  | succ fuel ih =>
      cases kept_turn g ring journal keeps _ packet data fuel skipped reader offset reading nonempty place ran with
      | ended atEnd isReading => exact Or.inl (by rw [isReading])
      | stopped i resident here late isReading => exact Or.inl (by rw [isReading])
      | restarted i resident here late rest =>
          refine (ih _ _ _ ⟨journal.low g, Nat.sub_le _ _, rfl⟩ rest).imp_right ?_
          rintro ⟨s, k, isResident, found, isPacket, begins⟩
          exact ⟨s, k, isResident, found, isPacket, Or.inr
            ⟨begins.elim (resident_offset g ring journal keeps s _ isResident earliest) And.left, i, resident, late⟩⟩
      | met i resident here pass header copied isHeader streamId isCopied isReading =>
          rw [isReading]
          exact Or.inr ⟨i, i, resident, first_in_head _ i journal.written resident.2 pass, isHeader, Or.inl here.symm⟩
      | skipped i resident here pass header rest =>
          by_cases last : i + 1 = journal.written
          · cases fuel with
            | zero => cases rest
            | succ fuel =>
                rw [RingBuffer.readNextFrom, last, if_pos rfl] at rest
                cases rest
                exact Or.inl rfl
          have below := resident.2
          have next : journal.Resident g (i + 1) := ⟨Nat.le_succ_of_le resident.1, by omega⟩
          refine (ih _ _ _ ⟨i + 1, by omega, rfl⟩ rest).imp_right ?_
          rintro ⟨s, k, isResident, found, isPacket, begins⟩
          cases begins with
          | inl same =>
              rw [resident_offset g ring journal keeps s (i + 1) isResident next same] at found
              exact ⟨i, k, resident, (first_in_tail _ i journal.written pass).trans found, isPacket, Or.inl here.symm⟩
          | inr again => exact ⟨s, k, isResident, found, isPacket, Or.inr again⟩

theorem read_next_comes (packet : RingPacket) (data : Option (List UInt8)) (fuel : Nat) (reader : RingReader)
    (reading : RingBuffer.Reading) (placed : Placed g journal reader)
    (ran : RingBuffer.readNext fuel ring reader packet data = some reading) :
    (reading.code = Constants.ringIdNone ∨ reading.code = Constants.ringIdError) ∨
      ∃ i, journal.Upcoming g reader i ∧ HeaderOf (journal.packet i) reading.packet := by
  by_cases nonempty : journal.written = 0
  · rw [RingBuffer.readNext, if_pos (by rw [keeps.latest, if_pos nonempty]; decide)] at ran
    cases ran
    exact Or.inl (Or.inl rfl)
  have positive := g.positive
  have latest : journal.Resident g (journal.written - 1) := ⟨by simp only [Journal.low, oldest]; omega, by omega⟩
  have earliest : journal.Resident g (journal.low g) := ⟨Nat.le_refl _, by simp only [Journal.low, oldest]; omega⟩
  have comes (j : Nat) (below : j ≤ journal.written)
      (starts : ∀ s, journal.Resident g s → g.offsetAt s = g.offsetAt j → Starts g journal reader s)
      (walked : RingBuffer.readNextFrom ring (journal.packet (journal.written - 1)).pktTime (g.offsetAt journal.written) packet data
        fuel 0 reader (g.offsetAt j) = some reading) :
      (reading.code = Constants.ringIdNone ∨ reading.code = Constants.ringIdError) ∨
        ∃ i, journal.Upcoming g reader i ∧ HeaderOf (journal.packet i) reading.packet := by
    cases walk_comes g ring journal keeps packet data fuel 0 reader _ reading nonempty ⟨j, below, rfl⟩ walked with
    | inl none => exact Or.inl (Or.inl none)
    | inr handed =>
        obtain ⟨s, i, resident, found, isPacket, begins⟩ := handed
        refine Or.inr ⟨i, ⟨s, resident, ?_, found⟩, isPacket⟩
        cases begins with
        | inl same => exact starts s resident same
        | inr again =>
            obtain ⟨isLow, j, isResident, late⟩ := again
            rw [isLow]
            exact .again j isResident late
  by_cases unset : reader.pktOffset < 0
  · by_cases isLatest : reader.pktId = Constants.ringIdLatest
    · rw [read_next_sentinel g ring journal keeps nonempty packet data fuel reader unset _ (.inl ⟨isLatest, rfl⟩)] at ran
      refine comes _ (Nat.sub_le _ _) (fun s resident same => ?_) ran
      rw [resident_offset g ring journal keeps s _ resident latest same]
      exact .latest unset isLatest
    by_cases isEarliest : reader.pktId = Constants.ringIdEarliest
    · rw [read_next_sentinel g ring journal keeps nonempty packet data fuel reader unset _ (.inr ⟨isEarliest, rfl⟩)] at ran
      refine comes _ (Nat.sub_le _ _) (fun s resident same => ?_) ran
      rw [resident_offset g ring journal keeps s _ resident earliest same]
      exact .earliest unset isEarliest
    obtain ⟨other, ran', code⟩ := read_next_unset g ring journal keeps nonempty fuel reader unset isLatest isEarliest packet data
    rw [← Option.some.inj (ran'.symm.trans ran), code]
    by_cases isNext : reader.pktId = Constants.ringIdNext
    · exact Or.inl (Or.inl (if_pos isNext))
    · exact Or.inl (Or.inr (if_neg isNext))
  · obtain ⟨k, below, isPlace⟩ := placed.resolve_left unset
    rw [read_next_standing g ring journal keeps packet data fuel reader k below isPlace] at ran
    exact comes _ below (fun s _ same => .behind k s isPlace same) ran

end

end RingServer
