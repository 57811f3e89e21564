import RingServer.Ring.KeepNext

set_option autoImplicit false

namespace RingServer

open Library

namespace RingBuffer

-- The loop of AfterRev with the offsets it reads.
def afterRevTraceFrom (ring : RingParams) (refTime : NsTime) (pktLimit : UInt64) :
    Nat → UInt64 → RingReader → Int64 → Option (List Int64 × UInt64 × RingReader)
  | 0, _, _, _ => none
  | fuel + 1, count, reader, offset =>
      let stop := (if count > 0 then reader.pktId else Constants.ringIdNone, reader)
      if ¬ (offset ≥ 0 ∧ count < pktLimit) then some ([], stop)
      else match readPacketAtOffset ring offset with
        | none => some ([offset], stop)
        | some pkt =>
            let hit : Bool := pkt.dataStart.value ≥ refTime.value
            let reader := if hit then moveTo reader offset pkt else reader
            let count := if hit then count + 1 else count
            if hit ∧ count ≥ pktLimit then some ([offset], pkt.pktId, reader)
            else
              let previous := if offset = 0 then ring.maxOffset else offset - ring.pktSize.toUInt64.toInt64
              if previous = ring.latestOffset then
                some ([offset], if count > 0 then reader.pktId else Constants.ringIdNone, reader)
              else (afterRevTraceFrom ring refTime pktLimit fuel count reader previous).map fun rest => (offset :: rest.1, rest.2)

def afterRevTrace (fuel : Nat) (ring : RingParams) (reader : RingReader) (refTime : NsTime) (pktLimit : UInt64) :
    Option (List Int64 × UInt64 × RingReader) :=
  if ring.latestOffset < 0 then some ([], Constants.ringIdNone, reader)
  else afterRevTraceFrom ring refTime pktLimit fuel 0 reader ring.latestOffset

theorem trace_from_result (ring : RingParams) (refTime : NsTime) (pktLimit : UInt64) (fuel : Nat) (count : UInt64) (reader : RingReader)
    (offset : Int64) : (afterRevTraceFrom ring refTime pktLimit fuel count reader offset).map (·.2) =
      afterRevFrom ring refTime pktLimit fuel count reader offset := by
  induction fuel generalizing count reader offset with
  | zero => rfl
  | succ fuel ih =>
      rw [afterRevTraceFrom, afterRevFrom]
      dsimp only
      by_cases stop : ¬ (offset ≥ 0 ∧ count < pktLimit)
      · rw [if_pos stop, if_pos stop]
        rfl
      rw [if_neg stop, if_neg stop]
      cases readPacketAtOffset ring offset with
      | none => rfl
      | some pkt =>
          dsimp only
          generalize decide (pkt.dataStart.value ≥ refTime.value) = hit
          generalize (if hit = true then moveTo reader offset pkt else reader) = next
          generalize (if hit = true then count + 1 else count) = count'
          by_cases enough : hit = true ∧ count' ≥ pktLimit
          · rw [if_pos enough, if_pos enough]
            rfl
          rw [if_neg enough, if_neg enough]
          generalize (if offset = 0 then ring.maxOffset else offset - ring.pktSize.toUInt64.toInt64) = previous
          by_cases around : previous = ring.latestOffset
          · rw [if_pos around, if_pos around]
            rfl
          · rw [if_neg around, if_neg around, Option.map_map]
            exact ih count' next previous

theorem trace_result (fuel : Nat) (ring : RingParams) (reader : RingReader) (refTime : NsTime) (pktLimit : UInt64) :
    (afterRevTrace fuel ring reader refTime pktLimit).map (·.2) = afterRev fuel ring reader refTime pktLimit := by
  rw [afterRevTrace, afterRev]
  by_cases empty : ring.latestOffset < 0
  · rw [if_pos empty, if_pos empty]
    rfl
  · rw [if_neg empty, if_neg empty]
    exact trace_from_result ring refTime pktLimit fuel 0 reader ring.latestOffset

end RingBuffer

def Journal.InTime (journal : Journal) (refTime : NsTime) (i : Nat) : Prop := refTime.value ≤ (journal.packet i).dataStart.value

instance (journal : Journal) (refTime : NsTime) : DecidablePred (journal.InTime refTime) := fun i =>
  inferInstanceAs (Decidable (refTime.value ≤ (journal.packet i).dataStart.value))

def Journal.onPacket (journal : Journal) (reader : RingReader) (i : Nat) : RingReader :=
  RingBuffer.moveTo reader (journal.packet i).offset (journal.packet i)

inductive Counted (journal : Journal) (refTime : NsTime) (i : Nat) (count : UInt64) (reader : RingReader) : UInt64 → RingReader → Prop where
  | hit (count' : UInt64) (inTime : journal.InTime refTime i) (more : count'.toNat = count.toNat + 1) :
      Counted journal refTime i count reader count' (journal.onPacket reader i)
  | miss (late : ¬ journal.InTime refTime i) : Counted journal refTime i count reader count reader

inductive Turned (g : Geometry) (ring : RingParams) (journal : Journal) (refTime : NsTime) (pktLimit : UInt64) (fuel i : Nat)
    (count' : UInt64) (reader' : RingReader) : List Int64 → UInt64 × RingReader → Prop where
  | reached (inTime : journal.InTime refTime i) (exact : count' = pktLimit) :
      Turned g ring journal refTime pktLimit fuel i count' reader' [g.offsetAt i] ((journal.packet i).pktId, reader')
  | around (room : count' < pktLimit) (full : g.count ≤ journal.written) (earliest : i = journal.low g) :
      Turned g ring journal refTime pktLimit fuel i count' reader' [g.offsetAt i]
        (if count' > 0 then reader'.pktId else Constants.ringIdNone, reader')
  | on (room : count' < pktLimit) (inside : ¬ (g.count ≤ journal.written ∧ i = journal.low g)) (rest : List Int64)
      (result : UInt64 × RingReader) (ran : RingBuffer.afterRevTraceFrom ring refTime pktLimit fuel count' reader'
        (g.offsetAt (i + g.count - 1)) = some (rest, result)) :
      Turned g ring journal refTime pktLimit fuel i count' reader' (g.offsetAt i :: rest) result

inductive Swept (g : Geometry) (journal : Journal) (refTime : NsTime) (i left length : Nat) : Prop where
  | reached (enough : left ≤ i - journal.low g + 1) (all : ∀ k, i < k + left → k ≤ i → journal.InTime refTime k)
      (exact : length = left) : Swept g journal refTime i left length
  | late (k : Nat) (above : i < k + left) (resident : journal.low g ≤ k) (below : k ≤ i) (fails : ¬ journal.InTime refTime k)
      (more : left < length) : Swept g journal refTime i left length
  | beyond (filling : journal.written < g.count) (more : i + 1 < length)
      (cause : i + 1 < left ∨ ∃ k, i < k + left ∧ k ≤ i ∧ ¬ journal.InTime refTime k) : Swept g journal refTime i left length
  | lap (full : g.count ≤ journal.written) (exact : length = i - journal.low g + 1) (within : length ≤ left) :
      Swept g journal refTime i left length

section

variable (g : Geometry) (ring : RingParams) (journal : Journal) (keeps : Keeps g ring journal) (refTime : NsTime) (pktLimit : UInt64)

include keeps

theorem around_iff (i : Nat) (resident : journal.Resident g i) :
    g.offsetAt (i + g.count - 1) = ring.latestOffset ↔ g.count ≤ journal.written ∧ i = journal.low g := by
  have positive := g.positive
  have below := resident.2
  have above := resident.1
  have lowIs : journal.low g = journal.written - g.count := rfl
  have size := slot_keeps_size g _ journal i (keeps.slots i resident)
  have latest : ring.latestOffset = g.offsetAt (journal.written - 1) := by rw [keeps.latest, if_neg (by omega)]
  rw [latest]
  constructor
  · intro same
    by_contra inside
    have apart : (i + g.count - 1) % g.count ≠ (journal.written - 1) % g.count := by
      intro equal
      by_cases first : i = 0
      · have reduced : (i + g.count - 1) % g.count = g.count - 1 := by
          rw [first, Nat.zero_add]
          exact Nat.mod_eq_of_lt (by omega)
        have other : (journal.written - 1) % g.count = journal.written - 1 := Nat.mod_eq_of_lt (by omega)
        omega
      · have shifted : i + g.count - 1 = i - 1 + g.count := by omega
        rw [shifted, Nat.add_mod_right] at equal
        have one := slot_injective g.count (journal.written) (i - 1) (journal.written - 1) (by simp only [oldest]; omega) (by omega)
          (by simp only [oldest]; omega) (by omega) equal
        omega
    exact g.offset_at_ne _ _ (by omega) apart same
  · rintro ⟨full, earliest⟩
    apply g.offset_at_congr
    have shifted : i + g.count - 1 = journal.written - 1 := by omega
    rw [shifted]

theorem rev_turn (fuel i : Nat) (resident : journal.Resident g i) (count : UInt64) (room : count < pktLimit) (reader : RingReader)
    (visited : List Int64) (result : UInt64 × RingReader)
    (ran : RingBuffer.afterRevTraceFrom ring refTime pktLimit (fuel + 1) count reader (g.offsetAt i) = some (visited, result)) :
    ∃ count' reader', Counted journal refTime i count reader count' reader' ∧
      Turned g ring journal refTime pktLimit fuel i count' reader' visited result := by
  have size := slot_keeps_size g _ journal i (keeps.slots i resident)
  obtain ⟨header, isRead, isHeader, _⟩ := read_kept g ring keeps.shaped journal i (keeps.slots i resident)
  have start : header.dataStart = (journal.packet i).dataStart := by rw [isHeader.fields]
  have moved : RingBuffer.moveTo reader (g.offsetAt i) header = journal.onPacket reader i := by
    rw [Journal.onPacket, keeps.offsets i resident, isHeader.fields]
    rfl
  have inside : ¬ ¬ (g.offsetAt i ≥ 0 ∧ count < pktLimit) := not_not.mpr ⟨g.offset_at_nonneg i, room⟩
  have bound : count.toNat < pktLimit.toNat := room
  have more : (count + 1).toNat = count.toNat + 1 := by
    have top := pktLimit.toNat_lt
    rw [UInt64.toNat_add]
    exact Nat.mod_eq_of_lt (by show count.toNat + 1 < _; omega)
  rw [RingBuffer.afterRevTraceFrom] at ran
  simp only [if_neg inside, isRead, prev_offset_at g ring keeps.shaped (by omega) i, moved] at ran
  have onward (count' : UInt64) (reader' : RingReader) (room' : count' < pktLimit)
      (ran : (if g.offsetAt (i + g.count - 1) = ring.latestOffset then
          some ([g.offsetAt i], if count' > 0 then reader'.pktId else Constants.ringIdNone, reader')
        else (RingBuffer.afterRevTraceFrom ring refTime pktLimit fuel count' reader' (g.offsetAt (i + g.count - 1))).map
          fun rest => (g.offsetAt i :: rest.1, rest.2)) = some (visited, result)) :
      Turned g ring journal refTime pktLimit fuel i count' reader' visited result := by
    by_cases around : g.offsetAt (i + g.count - 1) = ring.latestOffset
    · obtain ⟨full, earliest⟩ := (around_iff g ring journal keeps i resident).mp around
      rw [if_pos around, Option.some.injEq, Prod.mk.injEq] at ran
      rw [← ran.1, ← ran.2]
      exact .around room' full earliest
    · rw [if_neg around, Option.map_eq_some_iff] at ran
      obtain ⟨⟨rest, final⟩, isRest, same⟩ := ran
      obtain ⟨rfl, rfl⟩ := Prod.mk.inj same
      exact .on room' (fun lap => around ((around_iff g ring journal keeps i resident).mpr lap)) rest final isRest
  by_cases hit : journal.InTime refTime i
  · have isHit : header.dataStart.value ≥ refTime.value := start ▸ hit
    simp only [isHit, decide_true, if_true, true_and] at ran
    refine ⟨count + 1, journal.onPacket reader i, .hit _ hit more, ?_⟩
    by_cases reached : count + 1 ≥ pktLimit
    · have exact : count + 1 = pktLimit := by
        have least : pktLimit.toNat ≤ (count + 1).toNat := reached
        apply UInt64.toNat_inj.mp
        omega
      rw [if_pos reached, Option.some.injEq, Prod.mk.injEq] at ran
      rw [← ran.1, ← ran.2, isHeader.pktId]
      exact .reached hit exact
    · rw [if_neg reached] at ran
      exact onward _ _ (UInt64.not_le.mp reached) ran
  · have notHit : ¬ header.dataStart.value ≥ refTime.value := start ▸ hit
    simp only [notHit, decide_false, Bool.false_eq_true, if_false, false_and] at ran
    exact ⟨count, reader, .miss hit, onward _ _ room ran⟩

omit keeps in
theorem rev_reads (fuel j : Nat) (count : UInt64) (room : count < pktLimit) (reader : RingReader) (visited : List Int64)
    (result : UInt64 × RingReader)
    (ran : RingBuffer.afterRevTraceFrom ring refTime pktLimit fuel count reader (g.offsetAt j) = some (visited, result)) :
    0 < visited.length := by
  cases fuel with
  | zero => cases ran
  | succ fuel =>
      have inside : ¬ ¬ (g.offsetAt j ≥ 0 ∧ count < pktLimit) := not_not.mpr ⟨g.offset_at_nonneg j, room⟩
      rw [RingBuffer.afterRevTraceFrom] at ran
      simp only [if_neg inside] at ran
      cases read : RingBuffer.readPacketAtOffset ring (g.offsetAt j) with
      | none =>
          rw [read, Option.some.injEq, Prod.mk.injEq] at ran
          rw [← ran.1]
          exact Nat.one_pos
      | some pkt =>
          rw [read] at ran
          dsimp only at ran
          generalize decide (pkt.dataStart.value ≥ refTime.value) = hit at ran
          generalize (if hit = true then RingBuffer.moveTo reader (g.offsetAt j) pkt else reader) = next at ran
          generalize (if hit = true then count + 1 else count) = count' at ran
          by_cases reached : hit = true ∧ count' ≥ pktLimit
          · rw [if_pos reached, Option.some.injEq, Prod.mk.injEq] at ran
            rw [← ran.1]
            exact Nat.one_pos
          rw [if_neg reached] at ran
          generalize (if g.offsetAt j = 0 then ring.maxOffset else g.offsetAt j - ring.pktSize.toUInt64.toInt64) = previous at ran
          by_cases around : previous = ring.latestOffset
          · rw [if_pos around, Option.some.injEq, Prod.mk.injEq] at ran
            rw [← ran.1]
            exact Nat.one_pos
          · rw [if_neg around] at ran
            obtain ⟨rest, _, same⟩ := Option.map_eq_some_iff.mp ran
            rw [← (Prod.mk.inj same).1]
            exact Nat.succ_pos _

omit keeps in
theorem before_resident (i : Nat) (resident : journal.Resident g i) (later : journal.low g < i) :
    journal.Resident g (i - 1) ∧ g.offsetAt (i + g.count - 1) = g.offsetAt (i - 1) := by
  have below := resident.2
  refine ⟨⟨by omega, by omega⟩, g.offset_at_congr _ _ ?_⟩
  have shifted : i + g.count - 1 = i - 1 + g.count := by omega
  rw [shifted, Nat.add_mod_right]

theorem rev_returns (nonempty : journal.written ≠ 0) (fuel j : Nat) (above : journal.written ≤ j) (enough : j < fuel + journal.written)
    (count : UInt64) (reader : RingReader) :
    ∃ visited result, RingBuffer.afterRevTraceFrom ring refTime pktLimit fuel count reader (g.offsetAt j) = some (visited, result) := by
  have residentLast : journal.Resident g (journal.written - 1) := by
    have positive := g.positive
    exact ⟨by simp only [Journal.low, oldest]; omega, by omega⟩
  have size := slot_keeps_size g _ journal _ (keeps.slots _ residentLast)
  have latest : ring.latestOffset = g.offsetAt (journal.written - 1) := by rw [keeps.latest, if_neg nonempty]
  induction fuel generalizing j count reader with
  | zero => exact absurd enough (by omega)
  | succ fuel ih =>
      rw [RingBuffer.afterRevTraceFrom]
      dsimp only
      by_cases stop : ¬ (g.offsetAt j ≥ 0 ∧ count < pktLimit)
      · rw [if_pos stop]
        exact ⟨_, _, rfl⟩
      rw [if_neg stop]
      cases RingBuffer.readPacketAtOffset ring (g.offsetAt j) with
      | none => exact ⟨_, _, rfl⟩
      | some pkt =>
          dsimp only
          generalize decide (pkt.dataStart.value ≥ refTime.value) = hit
          generalize (if hit = true then RingBuffer.moveTo reader (g.offsetAt j) pkt else reader) = next
          generalize (if hit = true then count + 1 else count) = count'
          rw [prev_offset_at g ring keeps.shaped (by omega) j]
          by_cases reached : hit = true ∧ count' ≥ pktLimit
          · rw [if_pos reached]
            exact ⟨_, _, rfl⟩
          rw [if_neg reached]
          by_cases around : g.offsetAt (j + g.count - 1) = ring.latestOffset
          · rw [if_pos around]
            exact ⟨_, _, rfl⟩
          rw [if_neg around]
          have shifted : j + g.count - 1 = j - 1 + g.count := by omega
          have back : g.offsetAt (j + g.count - 1) = g.offsetAt (j - 1) := by
            apply g.offset_at_congr
            rw [shifted, Nat.add_mod_right]
          have notLast : j ≠ journal.written := fun last => around (back.trans (last ▸ latest.symm))
          obtain ⟨visited, result, ran⟩ := ih (j - 1) (by omega) (by omega) count' next
          rw [back, ran]
          exact ⟨_, _, rfl⟩

-- What the loop returns after it has read packets only: the first one in time of these.
def revResult (journal : Journal) (count : UInt64) (reader : RingReader) : Option Nat → UInt64 × RingReader
  | some k => ((journal.packet k).pktId, journal.onPacket reader k)
  | none => (if count > 0 then reader.pktId else Constants.ringIdNone, reader)

omit keeps in
theorem rev_result_counted (i : Nat) (count count' : UInt64) (reader reader' : RingReader)
    (counted : Counted journal refTime i count reader count' reader') (found : Option Nat) :
    revResult journal count' reader' found =
      revResult journal count reader (found.or (if journal.InTime refTime i then some i else none)) := by
  cases counted with
  | hit _ inTime more =>
      rw [if_pos inTime]
      cases found with
      | some k => rfl
      | none =>
          have positive : count' > 0 := by
            show (0 : UInt64).toNat < count'.toNat
            rw [more]
            exact Nat.succ_pos _
          show ((if count' > 0 then (journal.onPacket reader i).pktId else Constants.ringIdNone), journal.onPacket reader i) = _
          rw [if_pos positive]
          rfl
  | miss late => rw [if_neg late, Option.or_none]

theorem rev_packets (fuel i : Nat) (resident : journal.Resident g i) (count : UInt64) (room : count < pktLimit) (reader : RingReader)
    (visited : List Int64) (result : UInt64 × RingReader)
    (ran : RingBuffer.afterRevTraceFrom ring refTime pktLimit fuel count reader (g.offsetAt i) = some (visited, result))
    (short : visited.length ≤ i - journal.low g + 1) : (∀ m, m < visited.length → visited[m]? = some (g.offsetAt (i - m))) ∧
      result = revResult journal count reader (firstIn (journal.InTime refTime) (i + 1 - visited.length) (i + 1)) := by
  induction fuel generalizing i count reader visited with
  | zero => cases ran
  | succ fuel ih =>
      have above := resident.1
      have below := resident.2
      obtain ⟨count', reader', counted, turned⟩ := rev_turn g ring journal keeps refTime pktLimit fuel i resident count room reader visited
        result ran
      have alone : firstIn (journal.InTime refTime) i (i + 1) =
        (none : Option Nat).or (if journal.InTime refTime i then some i else none) := by
        have nothing : firstIn (journal.InTime refTime) i i = none := (first_in_none _ _ _).mpr fun k above less => absurd above (by omega)
        rw [first_in_extend _ i i (Nat.le_refl i), nothing]
      have single (m : Nat) (less : m < [g.offsetAt i].length) : [g.offsetAt i][m]? = some (g.offsetAt (i - m)) := by
        obtain rfl : m = 0 := by
          rw [List.length_singleton] at less
          omega
        rfl
      cases turned with
      | reached inTime exact =>
          refine ⟨single, ?_⟩
          rw [List.length_singleton, Nat.add_sub_cancel, alone, ← rev_result_counted journal refTime i count count' reader reader' counted]
          cases counted with
          | hit _ _ more =>
              have positive : count' > 0 := by
                show (0 : UInt64).toNat < count'.toNat
                rw [more]
                exact Nat.succ_pos _
              rw [revResult, if_pos positive]
              rfl
          | miss late => exact absurd inTime late
      | around room' full earliest =>
          refine ⟨single, ?_⟩
          rw [List.length_singleton, Nat.add_sub_cancel, alone, ← rev_result_counted journal refTime i count count' reader reader' counted]
          rfl
      | on room' inside rest _ ran' =>
          have some := rev_reads g ring refTime pktLimit fuel (i + g.count - 1) count' room' reader' rest result ran'
          rw [List.length_cons] at short
          have later : journal.low g < i := by omega
          obtain ⟨resident', back⟩ := before_resident g journal i resident later
          rw [back] at ran'
          obtain ⟨offsets, isResult⟩ := ih (i - 1) resident' count' room' reader' rest ran' (by omega)
          refine ⟨fun m less => ?_, ?_⟩
          · cases m with
            | zero => rfl
            | succ m =>
                rw [List.length_cons] at less
                have step : i - (m + 1) = i - 1 - m := by omega
                rw [List.getElem?_cons_succ, offsets m (by omega), step]
          · have window : i + 1 - (g.offsetAt i :: rest).length = i - 1 + 1 - rest.length := by
              rw [List.length_cons]
              omega
            have top : i - 1 + 1 = i := by omega
            rw [isResult, window, top, first_in_extend _ _ i (by omega)]
            exact rev_result_counted journal refTime i count count' reader reader' counted _

omit keeps in
theorem swept_hit (i left length : Nat) (later : journal.low g < i) (inTime : journal.InTime refTime i)
    (swept : Swept g journal refTime (i - 1) left length) : Swept g journal refTime i (left + 1) (length + 1) := by
  cases swept with
  | reached enough all exact =>
      refine .reached (by omega) (fun k above below => ?_) (by omega)
      by_cases here : k = i
      · rw [here]
        exact inTime
      · exact all k (by omega) (by omega)
  | late k above resident below fails more => exact .late k (by omega) resident (by omega) fails (by omega)
  | beyond filling more cause =>
      refine .beyond filling (by omega) ?_
      rcases cause with few | ⟨k, above, below, fails⟩
      · exact Or.inl (by omega)
      · exact Or.inr ⟨k, by omega, by omega, fails⟩
  | lap full exact within => exact .lap full (by omega) (by omega)

omit keeps in
theorem swept_miss (i left length : Nat) (later : journal.low g < i) (fails : ¬ journal.InTime refTime i) (more : 0 < left)
    (swept : Swept g journal refTime (i - 1) left length) : Swept g journal refTime i left (length + 1) := by
  cases swept with
  | reached enough all exact => exact .late i (by omega) (by omega) (Nat.le_refl i) fails (by omega)
  | late k above resident below _ beyond => exact .late i (by omega) (by omega) (Nat.le_refl i) fails (by omega)
  | beyond filling beyond cause => exact .beyond filling (by omega) (Or.inr ⟨i, by omega, Nat.le_refl i, fails⟩)
  | lap full exact within =>
      by_cases inside : length + 1 ≤ left
      · exact .lap full (by omega) inside
      · exact .late i (by omega) (by omega) (Nat.le_refl i) fails (by omega)

theorem rev_swept (fuel i : Nat) (resident : journal.Resident g i) (count : UInt64) (room : count < pktLimit) (reader : RingReader)
    (visited : List Int64) (result : UInt64 × RingReader)
    (ran : RingBuffer.afterRevTraceFrom ring refTime pktLimit fuel count reader (g.offsetAt i) = some (visited, result)) :
    Swept g journal refTime i (pktLimit.toNat - count.toNat) visited.length ∧
      (g.count ≤ journal.written → visited.length ≤ i - journal.low g + 1) := by
  induction fuel generalizing i count reader visited with
  | zero => cases ran
  | succ fuel ih =>
      have above := resident.1
      have bound : count.toNat < pktLimit.toNat := room
      obtain ⟨count', reader', counted, turned⟩ := rev_turn g ring journal keeps refTime pktLimit fuel i resident count room reader visited
        result ran
      cases turned with
      | reached inTime exact =>
          cases counted with
          | miss late => exact absurd inTime late
          | hit _ _ more =>
              rw [exact] at more
              refine ⟨.reached (by omega) (fun k aboveK below => ?_) ?_, fun _ => ?_⟩
              · obtain rfl : k = i := by omega
                exact inTime
              · rw [List.length_singleton]
                omega
              · rw [List.length_singleton]
                omega
      | around room' full earliest =>
          rw [List.length_singleton]
          exact ⟨.lap full (by omega) (by omega), fun _ => by omega⟩
      | on room' inside rest _ ran' =>
          have some := rev_reads g ring refTime pktLimit fuel (i + g.count - 1) count' room' reader' rest result ran'
          have bound' : count'.toNat < pktLimit.toNat := room'
          rw [List.length_cons]
          by_cases later : journal.low g < i
          · obtain ⟨resident', back⟩ := before_resident g journal i resident later
            rw [back] at ran'
            obtain ⟨swept, atMost⟩ := ih (i - 1) resident' count' room' reader' rest ran'
            refine ⟨?_, fun full => ?_⟩
            · cases counted with
              | hit _ inTime more =>
                  have fewer : pktLimit.toNat - count.toNat = pktLimit.toNat - count'.toNat + 1 := by omega
                  rw [fewer]
                  exact swept_hit g journal refTime i _ _ later inTime swept
              | miss late => exact swept_miss g journal refTime i _ _ later late (by omega) swept
            · have less := atMost full
              omega
          · have first : i = journal.low g := by omega
            have filling : journal.written < g.count := by
              by_contra full
              exact inside ⟨by omega, first⟩
            have low : journal.low g = 0 := (oldest_filling g.count journal.written filling).1
            refine ⟨.beyond filling (by omega) ?_, fun full => absurd filling (by omega)⟩
            cases counted with
            | hit _ inTime more => exact Or.inl (by omega)
            | miss late => exact Or.inr ⟨i, by omega, Nat.le_refl i, late⟩

end

end RingServer
