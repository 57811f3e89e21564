import RingServer.Ring.KeepAfterTime
import RingServer.Ring.KeepReverse

set_option autoImplicit false

namespace RingServer

open Library

def within (limit : Option UInt64) (resident : List (Request × RingPacket)) : List (Request × RingPacket) :=
  match limit with
  | none => resident
  | some most => resident.drop (resident.length - most.toNat)

-- AfterRev reads resident packets only, from the latest one back and no more than the
-- limit, and places the reader on the first of them that qualifies.
structure RevPlaces (resident : List (Request × RingPacket)) (reader : RingReader) (refTime : NsTime) (limit : Option UInt64)
    (visited : List Int64) (result : UInt64 × RingReader) : Prop where
  backwards : visited <+: resident.reverse.map (·.2.offset)
  atMost : ∀ most, limit = some most → visited.length ≤ most.toNat
  earliest : ∀ write, (resident.drop (resident.length - visited.length)).find? (qualifies reader refTime) = some write →
    result = (write.2.pktId, RingBuffer.moveTo reader write.2.offset write.2)
  none : (resident.drop (resident.length - visited.length)).find? (qualifies reader refTime) = none →
    result = (Constants.ringIdNone, reader)
  finds : ∀ write ∈ within limit resident, qualifies reader refTime write = true → result.1 ≠ Constants.ringIdNone

def RevSearches (fuel : Nat) (ring : RingParams) (resident : List (Request × RingPacket)) (reader : RingReader) (refTime : NsTime)
    (limit : Option UInt64) : Prop :=
  ∃ visited result, RingBuffer.afterRevTrace fuel ring reader refTime (limit.getD 0) = some (visited, result) ∧
    RingBuffer.afterRev fuel ring reader refTime (limit.getD 0) = some result ∧ RevPlaces resident reader refTime limit visited result

-- The loop ends in time when the packets within the limit are all in time, or when the
-- ring is full and no larger than the limit.
def RevFits (ring : RingParams) (resident : List (Request × RingPacket)) (reader : RingReader) (refTime : NsTime) : Option UInt64 → Prop
  | none => ∀ write ∈ resident, ¬ qualifies reader refTime write = true
  | some most =>
      (most.toNat ≤ resident.length ∧ (∀ write ∈ resident.drop (resident.length - most.toNat), startsBy refTime write = true) ∧
        ∀ write, resident[resident.length - most.toNat]? = some write → wanted reader write = true) ∨
      (resident.length = ring.maxPackets.toNat ∧ ring.maxPackets.toNat ≤ most.toNat ∧
        ∀ write, resident.find? (startsBy refTime) = some write → wanted reader write = true)

theorem traced_after_rev (fuel : Nat) (ring : RingParams) (reader : RingReader) (refTime : NsTime) (pktLimit : UInt64)
    (visited : List Int64) (result : UInt64 × RingReader)
    (ran : RingBuffer.afterRevTrace fuel ring reader refTime pktLimit = some (visited, result)) :
    RingBuffer.afterRev fuel ring reader refTime pktLimit = some result := by
  rw [← RingBuffer.trace_result, ran, Option.map_some]

section

variable (g : Geometry) (ring : RingParams) (journal : Journal) (writes : List (Request × RingPacket))
  (stored : Stored g ring writes journal)

include stored

theorem rev_result_iff (reader : RingReader) (refTime : NsTime) (s : Nat) (low : journal.low g ≤ s) :
    ((∀ write, (writes.drop s).find? (qualifies reader refTime) = some write →
        revResult journal 0 reader (firstIn (journal.InTime refTime) s journal.written) =
          (write.2.pktId, RingBuffer.moveTo reader write.2.offset write.2)) ∧
      ((writes.drop s).find? (qualifies reader refTime) = none →
        revResult journal 0 reader (firstIn (journal.InTime refTime) s journal.written) = (Constants.ringIdNone, reader))) ↔
    ∀ write, (writes.drop s).find? (startsBy refTime) = some write → wanted reader write = true := by
  have written := stored.payloads.1
  have search := find_drop_first writes s (startsBy refTime) (journal.InTime refTime) (starts_iff g ring journal writes stored refTime)
  rw [written] at search
  cases found : firstIn (journal.InTime refTime) s journal.written with
  | none =>
      rw [found, Option.bind_none] at search
      have nothing : (writes.drop s).find? (qualifies reader refTime) = none := by
        rw [List.find?_eq_none] at search ⊢
        intro write member hit
        rw [qualifies, Bool.and_eq_true] at hit
        exact search write member hit.2
      rw [nothing, search]
      refine ⟨fun _ write isFirst => absurd isFirst (Option.some_ne_none write).symm, fun _ => ⟨fun write isFirst => ?_, fun _ => rfl⟩⟩
      exact absurd isFirst (Option.some_ne_none write).symm
  | some k =>
      obtain ⟨above, below, inTime, least⟩ := (first_in_some _ _ _ _).mp found
      obtain ⟨write, isWrite⟩ : ∃ write, writes[k]? = some write := ⟨_, List.getElem?_eq_getElem (by omega)⟩
      have isPacket := (write_packet g journal writes stored.payloads k write isWrite).2
      have result : revResult journal 0 reader (some k) = (write.2.pktId, RingBuffer.moveTo reader write.2.offset write.2) := by
        rw [← isPacket]
        rfl
      rw [found, Option.bind_some, isWrite] at search
      rw [result, search]
      constructor
      · rintro ⟨earliest, missing⟩ other isOther
        obtain rfl := Option.some.inj isOther
        cases hit : (writes.drop s).find? (qualifies reader refTime) with
        | none =>
            have named := write_named g ring journal writes stored write (List.mem_of_getElem? isWrite)
            exact absurd (Prod.mk.inj (missing hit)).1 named
        | some other =>
            obtain ⟨j, isOther⟩ := List.mem_iff_getElem?.mp (List.mem_of_find?_eq_some hit)
            rw [List.getElem?_drop] at isOther
            have belowJ := (write_packet g journal writes stored.payloads (s + j) other isOther).1
            have here := placed_apart g ring journal writes stored k (s + j) ⟨by omega, below⟩ ⟨by omega, belowJ⟩ write other isWrite
              isOther reader (Prod.mk.inj (earliest other hit)).2
            rw [← here, isWrite, Option.some.injEq] at isOther
            have qualified := List.find?_some hit
            rw [← isOther, qualifies, Bool.and_eq_true] at qualified
            exact qualified.1
      · intro isWanted
        have both : firstIn (fun k => RingBuffer.passes reader (journal.storedStream k) = true ∧
            refTime.value ≤ (journal.packet k).dataStart.value) s writes.length = some k := by
          rw [first_in_some, written]
          exact ⟨above, below, ⟨(wanted_iff g journal writes stored.payloads reader k write isWrite).mpr (isWanted write rfl), inTime⟩,
            fun j aboveJ less hit => least j aboveJ less hit.2⟩
        have isFirst : (writes.drop s).find? (qualifies reader refTime) = some write := by
          rw [find_drop_first writes s (qualifies reader refTime) _ (qualifies_iff g ring journal writes stored reader refTime), both,
            Option.bind_some, isWrite]
        refine ⟨fun other isOther => ?_, fun missing => absurd (missing.symm.trans isFirst) (Option.some_ne_none write).symm⟩
        rw [← Option.some.inj (isFirst.symm.trans isOther)]

theorem visited_backwards (visited : List Int64) (short : visited.length ≤ journal.written - journal.low g)
    (offsets : ∀ m, m < visited.length → visited[m]? = some (g.offsetAt (journal.written - 1 - m))) :
    visited <+: (writes.drop (journal.low g)).reverse.map (·.2.offset) := by
  have written := stored.payloads.1
  rw [List.prefix_iff_getElem?]
  intro m inside
  have isOffset := offsets m inside
  rw [List.getElem?_eq_getElem inside] at isOffset
  have isWrite := List.getElem?_eq_getElem (l := writes) (i := journal.written - 1 - m) (by omega)
  obtain ⟨below, isPacket⟩ := write_packet g journal writes stored.payloads _ _ isWrite
  have index : journal.low g + ((writes.drop (journal.low g)).length - 1 - m) = journal.written - 1 - m := by
    rw [List.length_drop]
    omega
  rw [isOffset, List.getElem?_map, List.getElem?_reverse (by rw [List.length_drop]; omega), List.getElem?_drop, index, isWrite,
    Option.map_some,
    ← isPacket, stored.offsets _ below]

theorem rev_stands (nonempty : journal.written ≠ 0) (fuel : Nat) (positive : 0 < fuel) (reader : RingReader) (refTime : NsTime) :
    RingBuffer.afterRevTrace fuel ring reader refTime 0 = some ([], Constants.ringIdNone, reader) := by
  obtain ⟨rounds, rfl⟩ : ∃ rounds, fuel = rounds + 1 := ⟨fuel - 1, by omega⟩
  have notEmpty : ¬ ring.latestOffset < 0 := by
    rw [stored.keeps.latest, if_neg nonempty]
    exact g.offset_at_not_neg _
  have stop (offset : Int64) : ¬ (offset ≥ 0 ∧ (0 : UInt64) < 0) := fun both => absurd both.2 (by decide)
  have notPositive : ¬ (0 : UInt64) > 0 := by decide
  rw [RingBuffer.afterRevTrace, if_neg notEmpty, RingBuffer.afterRevTraceFrom]
  simp only [if_pos (stop ring.latestOffset), if_neg notPositive]

theorem rev_runs (nonempty : journal.written ≠ 0) (fuel : Nat) (enough : g.count ≤ fuel) (reader : RingReader) (refTime : NsTime)
    (pktLimit : UInt64) : ∃ visited result, RingBuffer.afterRevTrace fuel ring reader refTime pktLimit = some (visited, result) ∧
      RingBuffer.afterRevTraceFrom ring refTime pktLimit fuel 0 reader (g.offsetAt (journal.written - 1)) = some (visited, result) := by
  have positive := g.positive
  have latest : ring.latestOffset = g.offsetAt (journal.written - 1) := by rw [stored.keeps.latest, if_neg nonempty]
  have notEmpty : ¬ ring.latestOffset < 0 := by
    rw [latest]
    exact g.offset_at_not_neg _
  have same : g.offsetAt (journal.written - 1 + g.count) = g.offsetAt (journal.written - 1) := by
    apply g.offset_at_congr
    rw [Nat.add_mod_right]
  obtain ⟨visited, result, ran⟩ := rev_returns g ring journal stored.keeps refTime pktLimit nonempty fuel (journal.written - 1 + g.count)
    (by omega) (by omega) 0 reader
  rw [same] at ran
  refine ⟨visited, result, ?_, ran⟩
  rw [RingBuffer.afterRevTrace, if_neg notEmpty, latest]
  exact ran

theorem in_time_iff (refTime : NsTime) (s : Nat) : (∀ write ∈ writes.drop s, startsBy refTime write = true) ↔
    ∀ k, s ≤ k → k < journal.written → journal.InTime refTime k := by
  have written := stored.payloads.1
  constructor
  · intro all k above below
    have isWrite := List.getElem?_eq_getElem (l := writes) (i := k) (by omega)
    apply (starts_iff g ring journal writes stored refTime k _ isWrite).mpr
    apply all
    rw [List.mem_iff_getElem?]
    exact ⟨k - s, by rw [List.getElem?_drop, Nat.add_sub_cancel' above, isWrite]⟩
  · intro all write member
    obtain ⟨j, isWrite⟩ := List.mem_iff_getElem?.mp member
    rw [List.getElem?_drop] at isWrite
    have below := (write_packet g journal writes stored.payloads _ write isWrite).1
    exact (starts_iff g ring journal writes stored refTime _ write isWrite).mp (all (s + j) (Nat.le_add_right s j) below)

theorem last_writes (length : Nat) (short : length ≤ journal.written - journal.low g) :
    (writes.drop (journal.low g)).drop ((writes.drop (journal.low g)).length - length) = writes.drop (journal.written - length) ∧
      (writes.drop (journal.low g))[(writes.drop (journal.low g)).length - length]? = writes[journal.written - length]? := by
  have written := stored.payloads.1
  have lowIs : journal.low g = journal.written - g.count := rfl
  have here : journal.low g + (journal.written - journal.low g - length) = journal.written - length := by omega
  rw [List.drop_drop, List.getElem?_drop, List.length_drop, written, here]
  exact ⟨rfl, rfl⟩

theorem first_in_time (refTime : NsTime) (s : Nat) (all : ∀ k, s ≤ k → k < journal.written → journal.InTime refTime k) :
    (writes.drop s).find? (startsBy refTime) = writes[s]? := by
  by_cases below : s < writes.length
  · have isWrite := List.getElem?_eq_getElem below
    have starts := (starts_iff g ring journal writes stored refTime _ _ isWrite).mp (all s (Nat.le_refl s) (by
      rw [← stored.payloads.1]
      exact below))
    rw [List.drop_eq_getElem_cons below, List.find?_cons_of_pos starts, isWrite]
  · rw [List.drop_of_length_le (by omega), List.getElem?_eq_none (by omega)]
    rfl

theorem rev_length (reader : RingReader) (refTime : NsTime) (most : UInt64) (length : Nat)
    (swept : Swept g journal refTime (journal.written - 1) most.toNat length)
    (atMost : g.count ≤ journal.written → length ≤ journal.written - 1 - journal.low g + 1)
    (fits : RevFits ring (writes.drop (journal.low g)) reader refTime (some most)) :
    length ≤ journal.written - journal.low g ∧ length ≤ most.toNat ∧
      (length = most.toNat ∨ length = journal.written - journal.low g) ∧
      ∀ write, (writes.drop (journal.written - length)).find? (startsBy refTime) = some write → wanted reader write = true := by
  have positive := g.positive
  have lowIs : journal.low g = journal.written - g.count := rfl
  have size : (writes.drop (journal.low g)).length = journal.written - journal.low g := by rw [List.length_drop, stored.payloads.1]
  rcases fits with ⟨enoughPackets, inTime, first⟩ | ⟨isFull, large, first⟩
  · have tail := last_writes g ring journal writes stored most.toNat (size ▸ enoughPackets)
    rw [tail.1, in_time_iff g ring journal writes stored] at inTime
    rw [size] at enoughPackets
    have exact : length = most.toNat := by
      cases swept with
      | reached fits all exact => exact exact
      | late k above resident below fails more => exact absurd (inTime k (by omega) (by omega)) fails
      | beyond filling more cause =>
          rcases cause with few | ⟨k, above, below, fails⟩
          · omega
          · exact absurd (inTime k (by omega) (by omega)) fails
      | lap full exact fits => omega
    refine ⟨by omega, by omega, Or.inl exact, fun write isFirst => first write ?_⟩
    rw [exact, first_in_time g ring journal writes stored refTime _ inTime] at isFirst
    rw [tail.2, isFirst]
  · rw [size, stored.maxPackets] at isFull
    rw [stored.maxPackets] at large
    have atMost' := atMost (by omega)
    have full : ¬ journal.written < g.count := by omega
    have exact : length = journal.written - journal.low g := by
      cases swept with
      | reached fits all exact => omega
      | late k above resident below fails more => omega
      | beyond filling more cause => exact absurd filling full
      | lap full exact fits => omega
    refine ⟨by omega, by omega, Or.inr exact, fun write isFirst => first write ?_⟩
    have whole : journal.written - length = journal.low g := by omega
    rw [whole] at isFirst
    exact isFirst

theorem rev_fits (reader : RingReader) (refTime : NsTime) (most : UInt64) (length : Nat)
    (swept : Swept g journal refTime (journal.written - 1) most.toNat length) (short : length ≤ journal.written - journal.low g)
    (least : length ≤ most.toNat)
    (first : ∀ write, (writes.drop (journal.written - length)).find? (startsBy refTime) = some write → wanted reader write = true) :
    RevFits ring (writes.drop (journal.low g)) reader refTime (some most) := by
  have positive := g.positive
  have lowIs : journal.low g = journal.written - g.count := rfl
  have size : (writes.drop (journal.low g)).length = journal.written - journal.low g := by rw [List.length_drop, stored.payloads.1]
  cases swept with
  | reached fits all exact =>
      have tail := last_writes g ring journal writes stored most.toNat (by omega)
      have inTime (k : Nat) (above : journal.written - most.toNat ≤ k) (below : k < journal.written) : journal.InTime refTime k :=
        all k (by omega) (by omega)
      refine Or.inl ⟨by omega, ?_, fun write isWrite => first write ?_⟩
      · rw [tail.1]
        exact (in_time_iff g ring journal writes stored refTime _).mpr inTime
      · rw [tail.2] at isWrite
        rw [exact, first_in_time g ring journal writes stored refTime _ inTime, isWrite]
  | late k above resident below fails more => omega
  | beyond filling more cause => omega
  | lap full exact fits =>
      refine Or.inr ⟨?_, ?_, fun write isFirst => first write ?_⟩
      · rw [size, stored.maxPackets]
        omega
      · rw [stored.maxPackets]
        omega
      · have whole : journal.written - length = journal.low g := by omega
        rw [whole]
        exact isFirst

theorem rev_searches_limit (nonempty : journal.written ≠ 0) (fuel : Nat) (enough : g.count ≤ fuel) (reader : RingReader)
    (refTime : NsTime) (most : UInt64) (bounded : 0 < most) :
    RevSearches fuel ring (writes.drop (journal.low g)) reader refTime (some most) ↔
      RevFits ring (writes.drop (journal.low g)) reader refTime (some most) := by
  have keeps := stored.keeps
  have positive := g.positive
  have lowIs : journal.low g = journal.written - g.count := rfl
  have size : (writes.drop (journal.low g)).length = journal.written - journal.low g := by rw [List.length_drop, stored.payloads.1]
  have residentLast : journal.Resident g (journal.written - 1) := ⟨by omega, by omega⟩
  obtain ⟨visited, result, ran, ranFrom⟩ := rev_runs g ring journal writes stored nonempty fuel enough reader refTime most
  obtain ⟨swept, atMost⟩ := rev_swept g ring journal keeps refTime most fuel (journal.written - 1) residentLast 0 bounded reader visited
    result
    ranFrom
  have zero : (0 : UInt64).toNat = 0 := rfl
  rw [zero, Nat.sub_zero] at swept
  -- What the result is once the loop has read packets only.
  have read (short : visited.length ≤ journal.written - journal.low g) :=
    rev_packets g ring journal keeps refTime most fuel (journal.written - 1) residentLast 0 bounded reader visited result ranFrom (by omega)
  have window : journal.written - 1 + 1 = journal.written := by omega
  rw [window] at read
  constructor
  · rintro ⟨visited', result', ran', _, places⟩
    obtain ⟨rfl, rfl⟩ := Prod.mk.inj (Option.some.inj (ran.symm.trans ran'))
    have short : visited.length ≤ journal.written - journal.low g := by
      have prefixed := places.backwards.length_le
      rw [List.length_map, List.length_reverse, size] at prefixed
      exact prefixed
    refine rev_fits g ring journal writes stored reader refTime most visited.length swept short (places.atMost most rfl) ?_
    refine (rev_result_iff g ring journal writes stored reader refTime (journal.written - visited.length) (by omega)).mp ?_
    rw [← (read short).2, ← (last_writes g ring journal writes stored visited.length short).1]
    exact ⟨places.earliest, places.none⟩
  · intro fits
    obtain ⟨short, less, exact, first⟩ := rev_length g ring journal writes stored reader refTime most visited.length swept atMost fits
    obtain ⟨offsets, isResult⟩ := read short
    have tail := (last_writes g ring journal writes stored visited.length short).1
    obtain ⟨earliest, missing⟩ := (rev_result_iff g ring journal writes stored reader refTime (journal.written - visited.length)
      (by omega)).mpr first
    rw [← isResult] at earliest missing
    refine ⟨visited, result, ran, traced_after_rev _ _ _ _ _ _ _ ran,
      ⟨visited_backwards g ring journal writes stored visited short offsets, ?_, ?_, ?_, ?_⟩⟩
    · intro other same
      rw [← Option.some.inj same]
      exact less
    · rw [tail]
      exact earliest
    · rw [tail]
      exact missing
    · intro write member qualified
      have inWindow : write ∈ writes.drop (journal.written - visited.length) := by
        rw [← tail]
        rcases exact with same | whole
        · rw [same]
          exact member
        · rw [whole, size, Nat.sub_self]
          exact List.mem_of_mem_drop member
      cases hit : (writes.drop (journal.written - visited.length)).find? (qualifies reader refTime) with
      | none => exact absurd qualified (List.find?_eq_none.mp hit write inWindow)
      | some found =>
          rw [earliest found hit]
          exact write_named g ring journal writes stored found (List.mem_of_mem_drop (List.mem_of_find?_eq_some hit))

theorem rev_searches_iff (nonempty : journal.written ≠ 0) (fuel : Nat) (enough : g.count ≤ fuel) (reader : RingReader)
    (refTime : NsTime) (limit : Option UInt64) :
    RevSearches fuel ring (writes.drop (journal.low g)) reader refTime limit ↔
      RevFits ring (writes.drop (journal.low g)) reader refTime limit := by
  have positive := g.positive
  have stands := rev_stands g ring journal writes stored nonempty fuel (by omega) reader refTime
  have nothing : (writes.drop (journal.low g)).drop ((writes.drop (journal.low g)).length - ([] : List Int64).length) = [] := by
    rw [List.length_nil, Nat.sub_zero, List.drop_length]
  cases limit with
  | none =>
      constructor
      · rintro ⟨visited, result, ran, _, places⟩ write member qualified
        obtain ⟨_, rfl⟩ := Prod.mk.inj (Option.some.inj (ran.symm.trans stands))
        exact places.finds write member qualified rfl
      · intro none
        refine ⟨[], _, stands, traced_after_rev _ _ _ _ _ _ _ stands,
          ⟨List.nil_prefix, fun most isMost => ?_, fun write isFirst => ?_, fun _ => rfl, fun write member hit => ?_⟩⟩
        · cases isMost
        · rw [nothing] at isFirst
          cases isFirst
        · exact absurd hit (none write member)
  | some most =>
      by_cases bounded : 0 < most
      · exact rev_searches_limit g ring journal writes stored nonempty fuel enough reader refTime most bounded
      · have isZero : most = 0 := by
          apply UInt64.toNat_inj.mp
          exact Nat.eq_zero_of_not_pos bounded
        subst isZero
        have zero : (0 : UInt64).toNat = 0 := rfl
        refine ⟨fun _ => Or.inl ⟨Nat.zero_le _, ?_, ?_⟩,
          fun _ => ⟨[], _, stands, traced_after_rev _ _ _ _ _ _ _ stands, List.nil_prefix, ?_, ?_, fun _ => rfl, ?_⟩⟩
        · rw [zero, Nat.sub_zero, List.drop_length]
          exact fun write member => absurd member List.not_mem_nil
        · rw [zero, Nat.sub_zero, List.getElem?_eq_none (Nat.le_refl _)]
          exact fun write isWrite => absurd isWrite (Option.some_ne_none write).symm
        · exact fun _ _ => Nat.zero_le _
        · intro write isFirst
          rw [nothing] at isFirst
          cases isFirst
        · intro write member
          rw [within, zero, Nat.sub_zero, List.drop_length] at member
          exact absurd member List.not_mem_nil

end

end RingServer
