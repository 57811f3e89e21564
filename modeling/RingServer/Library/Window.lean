import Mathlib.Data.List.Basic
import Mathlib.Data.Nat.ModEq

set_option autoImplicit false

namespace RingServer.Library

-- A circular buffer of capacity slots keeps item i in slot i mod capacity; after
-- written items the resident ones are oldest .. written - 1.
def oldest (capacity written : Nat) : Nat := written - capacity

theorem oldest_filling (capacity written : Nat) (filling : written < capacity) :
    oldest capacity written = 0 ∧ oldest capacity (written + 1) = 0 := by
  simp only [oldest]
  omega

theorem oldest_full (capacity written : Nat) (full : capacity ≤ written) :
    oldest capacity (written + 1) = oldest capacity written + 1 := by
  simp only [oldest]
  omega

theorem oldest_mono (capacity written written' : Nat) (later : written ≤ written') :
    oldest capacity written ≤ oldest capacity written' := Nat.sub_le_sub_right later _

theorem slot_injective (capacity written i j : Nat) (lowI : oldest capacity written ≤ i) (highI : i < written)
    (lowJ : oldest capacity written ≤ j) (highJ : j < written) (same : i % capacity = j % capacity) : i = j := by
  simp only [oldest] at lowI lowJ
  rcases Nat.le_total i j with order | order
  · have zero := (Nat.modEq_iff_dvd' order).mp same
    obtain ⟨factor, product⟩ := zero
    rcases Nat.eq_zero_or_pos factor with none | some
    · rw [none, Nat.mul_zero] at product
      omega
    · have large : capacity ≤ capacity * factor := Nat.le_mul_of_pos_right _ some
      omega
  · have zero := (Nat.modEq_iff_dvd' order).mp same.symm
    obtain ⟨factor, product⟩ := zero
    rcases Nat.eq_zero_or_pos factor with none | some
    · rw [none, Nat.mul_zero] at product
      omega
    · have large : capacity ≤ capacity * factor := Nat.le_mul_of_pos_right _ some
      omega

theorem slot_reused (capacity written : Nat) (full : capacity ≤ written) :
    written % capacity = oldest capacity written % capacity :=
  Nat.mod_eq_sub_mod full

theorem slot_fresh (capacity written i : Nat) (low : oldest capacity (written + 1) ≤ i) (high : i < written) :
    i % capacity ≠ written % capacity := by
  intro same
  have equal := slot_injective capacity (written + 1) i written low (by omega) (by omega) (by omega) same
  omega

theorem slot_next (capacity i : Nat) (positive : 0 < capacity) :
    (i + 1) % capacity = if i % capacity + 1 < capacity then i % capacity + 1 else 0 := by
  have bound := Nat.mod_lt i positive
  rw [Nat.add_mod]
  by_cases last : i % capacity + 1 < capacity
  · rw [if_pos last]
    rcases Nat.eq_or_lt_of_le positive with one | more
    · omega
    · rw [Nat.mod_eq_of_lt more, Nat.mod_eq_of_lt last]
  · rw [if_neg last]
    have full : i % capacity + 1 = capacity := by omega
    rw [← Nat.add_mod, ← Nat.mod_add_mod, full, Nat.mod_self]

def firstIn (p : Nat → Prop) [DecidablePred p] (low high : Nat) : Option Nat :=
  (List.range' low (high - low)).find? fun i => p i

def lastIn (p : Nat → Prop) [DecidablePred p] (low : Nat) : Nat → Option Nat
  | 0 => none
  | high + 1 => if low ≤ high ∧ p high then some high else lastIn p low high

section

variable (p : Nat → Prop) [DecidablePred p] (low high : Nat)

theorem first_in_none : firstIn p low high = none ↔ ∀ i, low ≤ i → i < high → ¬ p i := by
  simp only [firstIn, List.find?_range'_eq_none]
  constructor
  · exact fun all i above below => by simpa using all i above (by omega)
  · exact fun all i above below => by simpa using all i above (by omega)

theorem first_in_some (k : Nat) : firstIn p low high = some k ↔
    low ≤ k ∧ k < high ∧ p k ∧ ∀ i, low ≤ i → i < k → ¬ p i := by
  simp only [firstIn, List.find?_range'_eq_some, decide_eq_true_eq, List.mem_range'_1, Bool.not_eq_true', decide_eq_false_iff_not]
  constructor
  · rintro ⟨holds, member, earlier⟩
    exact ⟨member.1, by omega, holds, earlier⟩
  · rintro ⟨above, below, holds, earlier⟩
    exact ⟨holds, ⟨above, by omega⟩, earlier⟩

theorem last_in_none : lastIn p low high = none ↔ ∀ i, low ≤ i → i < high → ¬ p i := by
  induction high with
  | zero => simp [lastIn]
  | succ high ih =>
      rw [lastIn]
      by_cases here : low ≤ high ∧ p high
      · rw [if_pos here]
        constructor
        · intro impossible
          simp at impossible
        · exact fun all => absurd here.2 (all high here.1 (Nat.lt_succ_self high))
      · rw [if_neg here, ih]
        constructor
        · intro all i above below
          rcases Nat.lt_succ_iff_lt_or_eq.mp below with less | rfl
          · exact all i above less
          · exact fun holds => here ⟨above, holds⟩
        · exact fun all i above below => all i above (Nat.lt_succ_of_lt below)

theorem last_in_some (k : Nat) : lastIn p low high = some k ↔
    low ≤ k ∧ k < high ∧ p k ∧ ∀ i, k < i → i < high → ¬ p i := by
  induction high with
  | zero => simp [lastIn]
  | succ high ih =>
      rw [lastIn]
      by_cases here : low ≤ high ∧ p high
      · rw [if_pos here, Option.some.injEq]
        constructor
        · rintro rfl
          exact ⟨here.1, Nat.lt_succ_self _, here.2, fun i above below => absurd above (by omega)⟩
        · rintro ⟨above, below, holds, later⟩
          by_contra differ
          exact later high (by omega) (Nat.lt_succ_self high) here.2
      · rw [if_neg here, ih]
        constructor
        · rintro ⟨above, below, holds, later⟩
          refine ⟨above, Nat.lt_succ_of_lt below, holds, fun i less high' => ?_⟩
          rcases Nat.lt_succ_iff_lt_or_eq.mp high' with earlier | rfl
          · exact later i less earlier
          · exact fun atHigh => here ⟨by omega, atHigh⟩
        · rintro ⟨above, below, holds, later⟩
          have notHigh : k ≠ high := by
            rintro rfl
            exact here ⟨above, holds⟩
          exact ⟨above, by omega, holds, fun i less high' => later i less (by omega)⟩

theorem first_in_extend (ordered : low ≤ high) :
    firstIn p low (high + 1) = (firstIn p low high).or (if p high then some high else none) := by
  cases found : firstIn p low high with
  | some k =>
      obtain ⟨above, below, holds, earlier⟩ := (first_in_some p low high k).mp found
      exact (first_in_some p low (high + 1) k).mpr ⟨above, by omega, holds, earlier⟩
  | none =>
      have none := (first_in_none p low high).mp found
      by_cases here : p high
      · rw [if_pos here, Option.none_or]
        exact (first_in_some p low (high + 1) high).mpr ⟨ordered, Nat.lt_succ_self high, here, none⟩
      · rw [if_neg here, Option.none_or]
        refine (first_in_none p low (high + 1)).mpr (fun i above below => ?_)
        rcases Nat.lt_succ_iff_lt_or_eq.mp below with less | rfl
        · exact none i above less
        · exact here

theorem first_in_head (inside : low < high) (holds : p low) : firstIn p low high = some low :=
  (first_in_some p low high low).mpr ⟨Nat.le_refl low, inside, holds, fun i above below => absurd above (by omega)⟩

theorem first_in_tail (fails : ¬ p low) : firstIn p low high = firstIn p (low + 1) high := by
  cases found : firstIn p (low + 1) high with
  | some k =>
      obtain ⟨above, below, holds, earlier⟩ := (first_in_some p (low + 1) high k).mp found
      refine (first_in_some p low high k).mpr ⟨by omega, below, holds, fun i least less => ?_⟩
      rcases Nat.eq_or_lt_of_le least with rfl | greater
      · exact fails
      · exact earlier i greater less
  | none =>
      have none := (first_in_none p (low + 1) high).mp found
      refine (first_in_none p low high).mpr (fun i least less => ?_)
      rcases Nat.eq_or_lt_of_le least with rfl | greater
      · exact fails
      · exact none i greater less

theorem last_in_drop (fails : ¬ p low) : lastIn p low high = lastIn p (low + 1) high := by
  cases found : lastIn p (low + 1) high with
  | some k =>
      obtain ⟨above, below, holds, later⟩ := (last_in_some p (low + 1) high k).mp found
      exact (last_in_some p low high k).mpr ⟨by omega, below, holds, later⟩
  | none =>
      have none := (last_in_none p (low + 1) high).mp found
      refine (last_in_none p low high).mpr (fun i least less => ?_)
      rcases Nat.eq_or_lt_of_le least with rfl | greater
      · exact fails
      · exact none i greater less

theorem first_last_in : firstIn p low high = none ↔ lastIn p low high = none := by
  rw [first_in_none, last_in_none]

theorem last_in_extend (ordered : low ≤ high) (holds : p high) : lastIn p low (high + 1) = some high := by
  rw [lastIn, if_pos ⟨ordered, holds⟩]

theorem last_in_same (fails : ¬ p high) : lastIn p low (high + 1) = lastIn p low high := by
  rw [lastIn, if_neg (fun both => fails both.2)]

theorem last_in_tail (k : Nat) (found : lastIn p low high = some k) (later : low < k) : lastIn p (low + 1) high = some k := by
  obtain ⟨above, below, holds, last⟩ := (last_in_some p low high k).mp found
  exact (last_in_some p (low + 1) high k).mpr ⟨later, below, holds, last⟩

end

theorem first_in_congr (p q : Nat → Prop) [DecidablePred p] [DecidablePred q] (low high : Nat)
    (same : ∀ i, low ≤ i → i < high → (p i ↔ q i)) : firstIn p low high = firstIn q low high := by
  cases found : firstIn q low high with
  | some k =>
      obtain ⟨above, below, holds, earlier⟩ := (first_in_some q low high k).mp found
      exact (first_in_some p low high k).mpr ⟨above, below, (same k above below).mpr holds,
        fun i least less atI => earlier i least less ((same i least (by omega)).mp atI)⟩
  | none =>
      have none := (first_in_none q low high).mp found
      exact (first_in_none p low high).mpr (fun i above below atI => none i above below ((same i above below).mp atI))

theorem last_in_congr (p q : Nat → Prop) [DecidablePred p] [DecidablePred q] (low high : Nat)
    (same : ∀ i, low ≤ i → i < high → (p i ↔ q i)) : lastIn p low high = lastIn q low high := by
  cases found : lastIn q low high with
  | some k =>
      obtain ⟨above, below, holds, later⟩ := (last_in_some q low high k).mp found
      exact (last_in_some p low high k).mpr ⟨above, below, (same k above below).mpr holds,
        fun i more less atI => later i more less ((same i (by omega) less).mp atI)⟩
  | none =>
      have none := (last_in_none q low high).mp found
      exact (last_in_none p low high).mpr (fun i above below atI => none i above below ((same i above below).mp atI))

theorem range_last (low high : Nat) (ordered : low ≤ high) :
    List.range' low (high + 1 - low) = List.range' low (high - low) ++ [high] := by
  have length : high + 1 - low = high - low + 1 := by omega
  rw [length, List.range'_concat]
  congr 2
  omega

-- The index whose slot follows that of place, among those not about to be
-- dropped and the next one to be written.
def resume (capacity written place : Nat) : Nat := written - (written - (place + 1)) % capacity

theorem resume_le (capacity written place : Nat) : resume capacity written place ≤ written := Nat.sub_le _ _

theorem resume_fresh (capacity written place : Nat) (positive : 0 < capacity) :
    oldest capacity (written + 1) ≤ resume capacity written place := by
  have less := Nat.mod_lt (written - (place + 1)) positive
  simp only [oldest, resume]
  omega

theorem resume_positive (capacity written place : Nat) (placed : place < written) : 0 < resume capacity written place := by
  have less := Nat.mod_le (written - (place + 1)) capacity
  simp only [resume]
  omega

theorem resume_slot (capacity written place : Nat) (placed : place < written) :
    resume capacity written place % capacity = (place + 1) % capacity := by
  have split := Nat.mod_add_div (written - (place + 1)) capacity
  have sum : resume capacity written place = place + 1 + capacity * ((written - (place + 1)) / capacity) := by
    simp only [resume]
    omega
  rw [sum, Nat.add_mul_mod_self_left]

theorem resume_here (capacity written place : Nat) (placed : place < written) (resident : oldest capacity written ≤ place) :
    resume capacity written place = place + 1 := by
  simp only [oldest] at resident
  simp only [resume]
  by_cases positive : 0 < capacity
  · rw [Nat.mod_eq_of_lt (by omega)]
    omega
  · omega

theorem resume_apart (capacity written place i : Nat) (positive : 0 < capacity) (placed : place < written)
    (above : resume capacity written place ≤ i) (below : i < written) : i % capacity ≠ place % capacity := by
  intro same
  have first := resume_positive capacity written place placed
  have fresh := resume_fresh capacity written place positive
  have slot := resume_slot capacity written place placed
  have before : (resume capacity written place - 1) % capacity = place % capacity := by
    have shifted : (resume capacity written place - 1 + 1) % capacity = (place + 1) % capacity := by
      rw [Nat.sub_add_cancel first, slot]
    exact Nat.ModEq.add_right_cancel' 1 shifted
  simp only [oldest] at fresh
  have equal := slot_injective capacity written i (resume capacity written place - 1) (by simp only [oldest]; omega) below
    (by simp only [oldest]; omega) (by omega) (same.trans before.symm)
  omega

def indices (p : Nat → Prop) [DecidablePred p] (low high : Nat) : List Nat :=
  (List.range' low (high - low)).filter fun i => p i

section

variable (p : Nat → Prop) [DecidablePred p] (low high : Nat)

theorem mem_indices (i : Nat) : i ∈ indices p low high ↔ low ≤ i ∧ i < high ∧ p i := by
  simp only [indices, List.mem_filter, List.mem_range'_1, decide_eq_true_eq]
  constructor
  · rintro ⟨⟨above, below⟩, holds⟩
    exact ⟨above, by omega, holds⟩
  · rintro ⟨above, below, holds⟩
    exact ⟨⟨above, by omega⟩, holds⟩

theorem indices_head : (indices p low high).head? = firstIn p low high := by
  rw [indices, List.head?_filter, firstIn]

theorem indices_last : (indices p low high).getLast? = lastIn p low high := by
  induction high with
  | zero => simp [indices, lastIn]
  | succ high ih =>
      rw [lastIn]
      by_cases ordered : low ≤ high
      · rw [indices, range_last low high ordered, List.filter_append]
        by_cases holds : p high
        · simp [ordered, holds]
        · rw [if_neg (fun both => holds both.2), ← ih, indices]
          simp [holds]
      · have none : lastIn p low high = none := (last_in_none p low high).mpr (fun i above below => absurd above (by omega))
        have empty : high + 1 - low = 0 := by omega
        rw [if_neg (fun both => ordered both.1), none, indices, empty]
        rfl

theorem indices_none (none : firstIn p low high = none) : indices p low high = [] := by
  rw [← indices_head] at none
  exact List.head?_eq_none_iff.mp none

theorem indices_cons (inside : low < high) : indices p low high =
    if p low then low :: indices p (low + 1) high else indices p (low + 1) high := by
  have length : high - low = high - (low + 1) + 1 := by omega
  rw [indices, length, List.range'_succ, List.filter_cons]
  by_cases holds : p low
  · rw [if_pos holds, if_pos (by simpa using holds), indices]
  · rw [if_neg holds, if_neg (by simpa using holds), indices]

theorem indices_first (k : Nat) (first : firstIn p low high = some k) : indices p low high = indices p k high := by
  obtain ⟨above, below, _, earlier⟩ := (first_in_some p low high k).mp first
  have split : List.range' low (high - low) = List.range' low (k - low) ++ List.range' k (high - k) := by
    have lengths : high - low = (k - low) + (high - k) := by omega
    have start : low + 1 * (k - low) = k := by omega
    rw [lengths, ← List.range'_append, start]
  have before : (List.range' low (k - low)).filter (fun i => p i) = [] := by
    refine List.filter_eq_nil_iff.mpr (fun i member => ?_)
    obtain ⟨least, less⟩ := List.mem_range'_1.mp member
    simpa using earlier i least (by omega)
  rw [indices, split, List.filter_append, before, List.nil_append, indices]

theorem indices_split (mid : Nat) (above : low ≤ mid) (below : mid ≤ high) :
    indices p low high = indices p low mid ++ indices p mid high := by
  have lengths : high - low = (mid - low) + (high - mid) := by omega
  have start : low + 1 * (mid - low) = mid := by omega
  rw [indices, lengths, ← List.range'_append, start, List.filter_append, indices, indices]

theorem indices_hit (mid k : Nat) (above : low ≤ mid) (found : firstIn p mid high = some k) :
    indices p low (k + 1) = indices p low mid ++ [k] := by
  obtain ⟨least, _, holds, earlier⟩ := (first_in_some p mid high k).mp found
  have isFirst : firstIn p mid (k + 1) = some k := (first_in_some p mid (k + 1) k).mpr ⟨least, by omega, holds, earlier⟩
  have alone : indices p (k + 1) (k + 1) = [] := by
    rw [indices, Nat.sub_self]
    rfl
  rw [indices_split p low (k + 1) mid above (by omega), indices_first p mid (k + 1) k isFirst,
    indices_cons p k (k + 1) (by omega), if_pos holds, alone]

theorem indices_skip (mid : Nat) (above : low ≤ mid) (below : mid ≤ high) (missing : firstIn p mid high = none) :
    indices p low high = indices p low mid := by
  rw [indices_split p low high mid above below, indices_none p mid high missing, List.append_nil]

theorem first_in_skip (mid : Nat) (above : low ≤ mid) (below : mid ≤ high) (missing : firstIn p low mid = none) :
    firstIn p low high = firstIn p mid high := by
  rw [← indices_head, indices_split p low high mid above below, indices_none p low mid missing, List.nil_append, indices_head]

theorem indices_congr (q : Nat → Prop) [DecidablePred q] (same : ∀ i, low ≤ i → i < high → (p i ↔ q i)) :
    indices p low high = indices q low high := by
  refine List.filter_congr (fun i member => ?_)
  obtain ⟨above, below⟩ := List.mem_range'_1.mp member
  rw [decide_eq_decide]
  exact same i above (by omega)

end

def between {α : Type} (entries : List α) (low high : Nat) : List α := (entries.take high).drop low

section

variable {α : Type} (entries : List α) (low high : Nat)

theorem mem_between (entry : α) (member : entry ∈ between entries low high) :
    ∃ i, low ≤ i ∧ i < high ∧ entries[i]? = some entry := by
  obtain ⟨i, isEntry⟩ := List.mem_iff_getElem?.mp member
  rw [between, List.getElem?_drop, List.getElem?_take] at isEntry
  by_cases inside : low + i < high
  · rw [if_pos inside] at isEntry
    exact ⟨low + i, Nat.le_add_right _ _, inside, isEntry⟩
  · rw [if_neg inside] at isEntry
    cases isEntry

theorem between_split (mid : Nat) (above : low ≤ mid) (below : mid ≤ high) (inside : mid ≤ entries.length) :
    between entries low high = between entries low mid ++ between entries mid high := by
  have whole : entries.take high = entries.take mid ++ (entries.take high).drop mid := by
    have part := (List.take_append_drop mid (entries.take high)).symm
    rwa [List.take_take, Nat.min_eq_left below] at part
  have length : low ≤ (entries.take mid).length := by
    rw [List.length_take]
    omega
  rw [between, whole, List.drop_append_of_le_length length, between, between]

theorem between_append (more : List α) (inside : high ≤ entries.length) :
    between (entries ++ more) low high = between entries low high := by
  rw [between, List.take_append_of_le_length inside, between]

theorem filter_between_none (p : α → Bool) (fails : ∀ i entry, low ≤ i → i < high → entries[i]? = some entry → p entry = false) :
    (between entries low high).filter p = [] := by
  refine List.filter_eq_nil_iff.mpr (fun entry member => ?_)
  obtain ⟨i, above, below, isEntry⟩ := mem_between entries low high entry member
  rw [fails i entry above below isEntry]
  exact Bool.false_ne_true

theorem filter_between_last (p : α → Bool) (entry : α) (isEntry : entries[high]? = some entry) (ordered : low ≤ high)
    (fails : ∀ i other, low ≤ i → i < high → entries[i]? = some other → p other = false) :
    (between entries low (high + 1)).filter p = [entry].filter p := by
  have inside := (List.getElem?_eq_some_iff.mp isEntry).1
  have last : between entries high (high + 1) = [entry] := by
    rw [between, List.take_add_one, isEntry, List.drop_append_of_le_length (by rw [List.length_take]; omega),
      List.drop_eq_nil_of_le (by rw [List.length_take]; omega)]
    rfl
  rw [between_split entries low (high + 1) high ordered (Nat.le_succ high) (by omega), List.filter_append, last,
    filter_between_none entries low high p fails, List.nil_append]

theorem find_drop_first (p : α → Bool) (q : Nat → Prop) [DecidablePred q]
    (same : ∀ i entry, entries[i]? = some entry → (q i ↔ p entry = true)) :
    (entries.drop low).find? p = (firstIn q low entries.length).bind fun k => entries[k]? := by
  have entryAt (i : Nat) (inside : i < (entries.drop low).length) : entries[low + i]? = some (entries.drop low)[i] := by
    rw [← List.getElem?_drop]
    exact List.getElem?_eq_getElem inside
  cases first : firstIn q low entries.length with
  | none =>
      rw [Option.bind_none, List.find?_eq_none]
      intro entry member
      obtain ⟨i, isEntry⟩ := List.mem_iff_getElem?.mp member
      rw [List.getElem?_drop] at isEntry
      have below := (List.getElem?_eq_some_iff.mp isEntry).1
      exact fun hit => (first_in_none q low entries.length).mp first (low + i) (Nat.le_add_right _ _) below ((same _ entry isEntry).mpr hit)
  | some k =>
      obtain ⟨above, below, holds, earlier⟩ := (first_in_some q low entries.length k).mp first
      have isEntry := List.getElem?_eq_getElem below
      rw [Option.bind_some, isEntry, List.find?_eq_some_iff_getElem]
      refine ⟨(same k _ isEntry).mp holds, k - low, by rw [List.length_drop]; omega, ?_, fun j less => ?_⟩
      · have here : low + (k - low) = k := by omega
        rw [List.getElem_drop]
        simp only [here]
      · have inside : j < (entries.drop low).length := by
          rw [List.length_drop]
          omega
        have fails := earlier (low + j) (Nat.le_add_right _ _) (by omega)
        rw [same (low + j) _ (entryAt j inside)] at fails
        simpa using fails

theorem filter_drop_none (p : α → Bool) (q : Nat → Prop) [DecidablePred q]
    (same : ∀ i entry, entries[i]? = some entry → (q i ↔ p entry = true)) (missing : firstIn q low entries.length = none) :
    (entries.drop low).filter p = [] := by
  rw [List.filter_eq_nil_iff]
  intro entry member hit
  obtain ⟨i, isEntry⟩ := List.mem_iff_getElem?.mp member
  rw [List.getElem?_drop] at isEntry
  have below := (List.getElem?_eq_some_iff.mp isEntry).1
  exact (first_in_none q low entries.length).mp missing (low + i) (Nat.le_add_right _ _) below ((same _ entry isEntry).mpr hit)

theorem filter_drop_first (p : α → Bool) (q : Nat → Prop) [DecidablePred q] (k : Nat) (entry : α)
    (same : ∀ i entry, entries[i]? = some entry → (q i ↔ p entry = true)) (first : firstIn q low entries.length = some k)
    (isEntry : entries[k]? = some entry) : (entries.drop low).filter p = entry :: (entries.drop (k + 1)).filter p := by
  obtain ⟨above, below, holds, earlier⟩ := (first_in_some q low entries.length k).mp first
  have skipped : ((entries.drop low).take (k - low)).filter p = [] := by
    rw [List.filter_eq_nil_iff]
    intro other member hit
    obtain ⟨i, isOther⟩ := List.mem_iff_getElem?.mp member
    rw [List.getElem?_take] at isOther
    split at isOther
    · rename_i less
      rw [List.getElem?_drop] at isOther
      exact earlier (low + i) (Nat.le_add_right _ _) (by omega) ((same _ other isOther).mpr hit)
    · cases isOther
  have rest : (entries.drop low).drop (k - low) = entry :: entries.drop (k + 1) := by
    rw [List.drop_drop, Nat.add_sub_cancel' above, List.drop_eq_getElem_cons below]
    rw [List.getElem?_eq_getElem below, Option.some.injEq] at isEntry
    rw [isEntry]
  rw [← List.take_append_drop (k - low) (entries.drop low), List.filter_append, skipped, rest, List.nil_append,
    List.filter_cons_of_pos ((same k entry isEntry).mp holds)]

theorem find_idx_first (p : α → Bool) (q : Nat → Prop) [DecidablePred q] (k : Nat)
    (same : ∀ i entry, entries[i]? = some entry → (q i ↔ p entry = true)) (first : firstIn q low entries.length = some k) :
    low + (entries.drop low).findIdx p = k := by
  obtain ⟨above, below, holds, earlier⟩ := (first_in_some q low entries.length k).mp first
  have entryAt (i : Nat) (inside : i < (entries.drop low).length) : entries[low + i]? = some (entries.drop low)[i] := by
    rw [← List.getElem?_drop]
    exact List.getElem?_eq_getElem inside
  have index : (entries.drop low).findIdx p = k - low := by
    refine (List.findIdx_eq (by rw [List.length_drop]; omega)).mpr ⟨?_, fun j less => ?_⟩
    · refine (same (low + (k - low)) _ (entryAt _ _)).mp ?_
      rwa [Nat.add_sub_cancel' above]
    · by_contra hit
      exact earlier (low + j) (Nat.le_add_right _ _) (by omega)
        ((same (low + j) _ (entryAt j (by rw [List.length_drop]; omega))).mpr (by simpa using hit))
  omega

theorem find_idx_none (p : α → Bool) (q : Nat → Prop) [DecidablePred q]
    (same : ∀ i entry, entries[i]? = some entry → (q i ↔ p entry = true)) (inside : low ≤ entries.length)
    (none : firstIn q low entries.length = none) : low + (entries.drop low).findIdx p = entries.length := by
  have index : (entries.drop low).findIdx p = (entries.drop low).length := by
    refine List.findIdx_eq_length.mpr (fun entry member => ?_)
    obtain ⟨i, isEntry⟩ := List.mem_iff_getElem?.mp member
    rw [List.getElem?_drop] at isEntry
    have below := (List.getElem?_eq_some_iff.mp isEntry).1
    have fails := (first_in_none q low entries.length).mp none (low + i) (Nat.le_add_right _ _) below
    rw [same (low + i) entry isEntry] at fails
    simpa using fails
  rw [index, List.length_drop]
  omega

theorem find_idx_skips (p : α → Bool) (j : Nat) (entry : α) (above : low ≤ j) (below : j < low + (entries.drop low).findIdx p)
    (isEntry : entries[j]? = some entry) : p entry = false := by
  have inside : j - low < (entries.drop low).findIdx p := by omega
  have here : (entries.drop low)[j - low]? = some entry := by
    rw [List.getElem?_drop, Nat.add_sub_cancel' above]
    exact isEntry
  obtain ⟨_, isAt⟩ := List.getElem?_eq_some_iff.mp here
  have fails := List.not_of_lt_findIdx inside
  rw [isAt] at fails
  exact fails

end

end RingServer.Library
