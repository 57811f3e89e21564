import Mathlib.Algebra.BigOperators.Group.List.Basic
import Mathlib.Algebra.GroupWithZero.Nat
import Mathlib.Tactic.Common

set_option autoImplicit false

namespace RingServer.Library

-- A stream comes in chunks, the first one at lag; how many of them start at mark or
-- behind.
def startsFrom (mark : Nat) : Nat → List Nat → Nat
  | _, [] => 0
  | lag, chunk :: rest => (if mark ≤ lag then 1 else 0) + startsFrom mark (lag + chunk) rest

-- A server that takes a chunk before each item and serves one item then. The items
-- have these lengths: behind any first ones of them start as many chunks as there are
-- items left.
def Suffices (lag : Nat) (items chunks : List Nat) : Prop :=
  ∀ k ≤ items.length, items.length ≤ k + startsFrom (items.take k).sum lag chunks

def Pending (lag : Nat) (items chunks : List Nat) : Prop :=
  ∀ k ≤ items.length, 0 < k → items.length ≤ k + startsFrom (items.take k).sum lag chunks

theorem starts_le (mark lag : Nat) (chunks : List Nat) : startsFrom mark lag chunks ≤ chunks.length := by
  induction chunks generalizing lag with
  | nil => exact Nat.le_refl 0
  | cons chunk rest ih =>
      have more := ih (lag + chunk)
      rw [startsFrom, List.length_cons]
      split <;> omega

theorem starts_all (mark lag : Nat) (chunks : List Nat) (behind : mark ≤ lag) : startsFrom mark lag chunks = chunks.length := by
  induction chunks generalizing lag with
  | nil => rfl
  | cons chunk rest ih =>
      rw [startsFrom, if_pos behind, ih (lag + chunk) (by omega), List.length_cons, Nat.add_comm]

theorem starts_before (mark lag chunk : Nat) (rest : List Nat) (before : lag < mark) :
    startsFrom mark lag (chunk :: rest) = startsFrom mark (lag + chunk) rest := by
  rw [startsFrom, if_neg (by omega), Nat.zero_add]

theorem starts_shift (shift mark lag : Nat) (chunks : List Nat) :
    startsFrom (shift + mark) (shift + lag) chunks = startsFrom mark lag chunks := by
  induction chunks generalizing lag with
  | nil => rfl
  | cons chunk rest ih =>
      have same : shift + mark ≤ shift + lag ↔ mark ≤ lag := by omega
      rw [startsFrom, startsFrom, Nat.add_assoc, ih]
      simp only [same]

section

variable (lag : Nat) (items chunks : List Nat)

theorem suffices_none : Suffices lag [] chunks := by
  intro k below
  exact Nat.zero_le _

theorem suffices_nothing : Suffices lag items [] ↔ items = [] := by
  constructor
  · intro enough
    have none := enough 0 (Nat.zero_le _)
    rw [startsFrom] at none
    exact List.length_eq_zero_iff.mp (by omega)
  · rintro rfl
    exact suffices_none lag []

theorem sum_take_positive (item : Nat) (more : List Nat) (k : Nat) (positive : 0 < k) : item ≤ ((item :: more).take k).sum := by
  obtain ⟨j, rfl⟩ : ∃ j, k = j + 1 := ⟨k - 1, by omega⟩
  rw [List.take_succ_cons, List.sum_cons]
  exact Nat.le_add_right _ _

theorem suffices_take (chunk : Nat) : Suffices lag items (chunk :: chunks) ↔ Pending (lag + chunk) items chunks := by
  constructor
  · intro enough k below positive
    by_cases behind : (items.take k).sum ≤ lag
    · have all := enough 0 (Nat.zero_le _)
      have bound := starts_le (items.take 0).sum lag (chunk :: chunks)
      rw [starts_all _ (lag + chunk) chunks (by omega)]
      rw [List.length_cons] at bound
      omega
    · have same := enough k below
      rwa [starts_before _ _ _ _ (by omega)] at same
  · intro pending k below
    cases k with
    | zero =>
        rw [List.take_zero, List.sum_nil, starts_all 0 lag _ (Nat.zero_le _), List.length_cons]
        by_cases none : items.length = 0
        · omega
        · have first := pending 1 (by omega) Nat.one_pos
          have bound := starts_le (items.take 1).sum (lag + chunk) chunks
          omega
    | succ k =>
        have more := pending (k + 1) below (Nat.succ_pos k)
        by_cases behind : (items.take (k + 1)).sum ≤ lag
        · rw [starts_all _ (lag + chunk) chunks (by omega)] at more
          rw [starts_all _ lag _ behind, List.length_cons]
          omega
        · rw [starts_before _ _ _ _ (by omega)]
          exact more

theorem pending_take (chunk : Nat) (partly : ∀ item more, items = item :: more → lag < item) :
    Pending lag items (chunk :: chunks) ↔ Pending (lag + chunk) items chunks := by
  cases items with
  | nil => exact ⟨fun _ _ _ _ => Nat.zero_le _, fun _ _ _ _ => Nat.zero_le _⟩
  | cons item more =>
      have before := partly item more rfl
      constructor
      · intro pending k below positive
        have atLeast := sum_take_positive item more k positive
        rw [← starts_before _ lag chunk chunks (by omega)]
        exact pending k below positive
      · intro pending k below positive
        have atLeast := sum_take_positive item more k positive
        rw [starts_before _ lag chunk chunks (by omega)]
        exact pending k below positive

theorem pending_sleep (partly : ∀ item more, items = item :: more → lag < item ∧ chunks ≠ []) :
    Pending lag items chunks ↔ Suffices lag items chunks := by
  constructor
  · intro pending k below
    cases k with
    | succ k => exact pending (k + 1) below (Nat.succ_pos k)
    | zero =>
        rw [List.take_zero, List.sum_nil, starts_all 0 lag _ (Nat.zero_le _), Nat.zero_add]
        cases items with
        | nil => exact Nat.zero_le _
        | cons item more =>
            obtain ⟨before, some⟩ := partly item more rfl
            obtain ⟨chunk, rest, rfl⟩ := List.exists_cons_of_ne_nil some
            have first := pending 1 (by rw [List.length_cons]; omega) Nat.one_pos
            have atLeast := sum_take_positive item more 1 Nat.one_pos
            rw [starts_before _ lag chunk rest (by omega)] at first
            have bound := starts_le ((item :: more).take 1).sum (lag + chunk) rest
            rw [show (chunk :: rest).length = rest.length + 1 from List.length_cons]
            omega
  · exact fun enough k below _ => enough k below

theorem pending_serve (item : Nat) (behind : item ≤ lag) :
    Pending lag (item :: items) chunks ↔ Suffices (lag - item) items chunks := by
  have shifted (k : Nat) : startsFrom ((item :: items).take (k + 1)).sum lag chunks =
      startsFrom (items.take k).sum (lag - item) chunks := by
    rw [List.take_succ_cons, List.sum_cons, ← starts_shift item (items.take k).sum (lag - item), Nat.add_sub_cancel' behind]
  constructor
  · intro pending k below
    have more := pending (k + 1) (by rw [List.length_cons]; omega) (Nat.succ_pos k)
    rw [shifted, List.length_cons] at more
    omega
  · intro enough k below positive
    obtain ⟨j, rfl⟩ : ∃ j, k = j + 1 := ⟨k - 1, by omega⟩
    rw [List.length_cons] at below ⊢
    have more := enough j (by omega)
    rw [shifted]
    omega

end

end RingServer.Library
