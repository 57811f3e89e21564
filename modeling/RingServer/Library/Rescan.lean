import Mathlib.Data.List.Basic

set_option autoImplicit false

namespace RingServer.Library

inductive Verdict where
  | stop
  | skip
  | again
deriving DecidableEq

inductive Ending (α : Type) where
  | item (found : α)
  | nothing
  | never

def Ending.isNever {α : Type} : Ending α → Bool
  | .never => true
  | _ => false

theorem Ending.is_never_iff {α : Type} (ended : Ending α) : ended.isNever = true ↔ ended = .never := by
  cases ended <;> simp [isNever]

section

variable {α : Type} (verdict : α → Verdict) (all : List α) (limit : Nat)

-- A scan begins again with all items, unless it has done so limit times in a row. The
-- result is the number of items looked at and the one it stopped on.
def rescan : Nat → Nat → List α → Option (Nat × Option α)
  | 0, _, _ => none
  | _ + 1, _, [] => some (0, none)
  | fuel + 1, turns, item :: rest =>
      match verdict item with
      | .stop => some (1, some item)
      | .skip => (rescan fuel 0 rest).map fun found => (found.1 + 1, found.2)
      | .again =>
          if turns + 1 ≥ limit then some (1, none)
          else (rescan fuel (turns + 1) all).map fun found => (found.1 + 1, found.2)

def unskipped (items : List α) : Option α := items.find? fun item => verdict item ≠ .skip

-- A scan of rest comes to no end when it begins again, and so does each scan of all
-- items, behind one that is skipped.
def ending (rest : List α) : Ending α :=
  match unskipped verdict rest with
  | none => .nothing
  | some item =>
      if verdict item = .stop then .item item
      else if all.head?.any fun first => verdict first = .again then .nothing
      else match unskipped verdict all with
        | none => .nothing
        | some item => if verdict item = .stop then .item item else .never

theorem unskipped_cons_skip (item : α) (rest : List α) (skip : verdict item = .skip) :
    unskipped verdict (item :: rest) = unskipped verdict rest :=
  List.find?_cons_of_neg fun unlike => (of_decide_eq_true unlike) skip

theorem unskipped_cons_kept (item : α) (rest : List α) (kept : verdict item ≠ .skip) :
    unskipped verdict (item :: rest) = some item :=
  List.find?_cons_of_pos (decide_eq_true kept)

theorem unskipped_verdict (items : List α) (item : α) (found : unskipped verdict items = some item) :
    verdict item = .stop ∨ verdict item = .again := by
  have kept : verdict item ≠ .skip := by
    rw [unskipped] at found
    simpa using List.find?_some found
  cases isVerdict : verdict item with
  | stop => exact Or.inl rfl
  | skip => exact absurd isVerdict kept
  | again => exact Or.inr rfl

theorem rescan_skip (fuel turns : Nat) (item : α) (rest : List α) (skip : verdict item = .skip) :
    rescan verdict all limit (fuel + 1) turns (item :: rest) =
      (rescan verdict all limit fuel 0 rest).map fun found => (found.1 + 1, found.2) := by
  rw [rescan]
  simp only [skip]

theorem rescan_stop (fuel turns : Nat) (item : α) (rest : List α) (stop : verdict item = .stop) :
    rescan verdict all limit (fuel + 1) turns (item :: rest) = some (1, some item) := by
  rw [rescan]
  simp only [stop]

theorem rescan_again (fuel turns : Nat) (item : α) (rest : List α) (again : verdict item = .again) :
    rescan verdict all limit (fuel + 1) turns (item :: rest) =
      if turns + 1 ≥ limit then some (1, none)
      else (rescan verdict all limit fuel (turns + 1) all).map fun found => (found.1 + 1, found.2) := by
  rw [rescan]
  simp only [again]

theorem rescan_through (fuel turns : Nat) (rest : List α) (through : unskipped verdict rest = none) (enough : rest.length < fuel) :
    rescan verdict all limit fuel turns rest = some (rest.length, none) := by
  induction rest generalizing fuel turns with
  | nil =>
      obtain ⟨fuel, rfl⟩ : ∃ k, fuel = k + 1 := ⟨fuel - 1, by omega⟩
      rfl
  | cons item rest ih =>
      rw [List.length_cons] at enough
      obtain ⟨fuel, rfl⟩ : ∃ k, fuel = k + 1 := ⟨fuel - 1, by omega⟩
      by_cases skip : verdict item = .skip
      · rw [unskipped_cons_skip verdict item rest skip] at through
        rw [rescan_skip verdict all limit fuel turns item rest skip, ih fuel 0 through (by omega)]
        rfl
      · rw [unskipped_cons_kept verdict item rest skip] at through
        cases through

theorem rescan_stops (rest : List α) (found : α) (first : unskipped verdict rest = some found) (stop : verdict found = .stop) :
    ∃ looked, looked ≤ rest.length ∧ ∀ fuel turns, looked < fuel →
      rescan verdict all limit fuel turns rest = some (looked, some found) := by
  induction rest with
  | nil => cases first
  | cons item rest ih =>
      by_cases skip : verdict item = .skip
      · rw [unskipped_cons_skip verdict item rest skip] at first
        obtain ⟨looked, few, ran⟩ := ih first
        refine ⟨looked + 1, Nat.succ_le_succ few, fun fuel turns enough => ?_⟩
        obtain ⟨fuel, rfl⟩ : ∃ k, fuel = k + 1 := ⟨fuel - 1, by omega⟩
        rw [rescan_skip verdict all limit fuel turns item rest skip, ran fuel 0 (by omega)]
        rfl
      · rw [unskipped_cons_kept verdict item rest skip] at first
        obtain rfl := Option.some.inj first
        refine ⟨1, Nat.succ_le_succ (Nat.zero_le _), fun fuel turns enough => ?_⟩
        obtain ⟨fuel, rfl⟩ : ∃ k, fuel = k + 1 := ⟨fuel - 1, by omega⟩
        exact rescan_stop verdict all limit fuel turns item rest stop

theorem rescan_returns (several : 1 < limit) (rest : List α) (found : α) (first : unskipped verdict rest = some found)
    (again : verdict found = .again) : ∃ looked, looked ≤ rest.length ∧ ∀ fuel,
      rescan verdict all limit (fuel + looked) 0 rest =
        (rescan verdict all limit fuel 1 all).map fun found => (found.1 + looked, found.2) := by
  induction rest with
  | nil => cases first
  | cons item rest ih =>
      by_cases skip : verdict item = .skip
      · rw [unskipped_cons_skip verdict item rest skip] at first
        obtain ⟨looked, few, ran⟩ := ih first
        refine ⟨looked + 1, Nat.succ_le_succ few, fun fuel => ?_⟩
        rw [← Nat.add_assoc, rescan_skip verdict all limit (fuel + looked) 0 item rest skip, ran, Option.map_map]
        rfl
      · rw [unskipped_cons_kept verdict item rest skip] at first
        obtain rfl := Option.some.inj first
        refine ⟨1, Nat.succ_le_succ (Nat.zero_le _), fun fuel => ?_⟩
        rw [rescan_again verdict all limit fuel 0 item rest again, if_neg (by omega)]

theorem rescan_gives_up (first : α) (others : List α) (starts : all = first :: others) (again : verdict first = .again)
    (fuel turns : Nat) (below : turns < limit) (enough : limit < fuel + turns + 1) :
    rescan verdict all limit fuel turns all = some (limit - turns, none) := by
  induction fuel generalizing turns with
  | zero => exact absurd enough (by omega)
  | succ fuel ih =>
      have turn := rescan_again verdict all limit fuel turns first others again
      rw [← starts] at turn
      rw [turn]
      by_cases last : turns + 1 ≥ limit
      · have one : limit - turns = 1 := by omega
        rw [if_pos last, one]
      · have count : limit - (turns + 1) + 1 = limit - turns := by omega
        rw [if_neg last, ih (turns + 1) (by omega) (by omega), Option.map_some, count]

theorem rescan_circles (several : 1 < limit) (found : α) (first : unskipped verdict all = some found) (again : verdict found = .again)
    (late : ¬ all.head?.any fun first => verdict first = .again) (fuel turns : Nat) (rest : List α) (item : α)
    (next : unskipped verdict rest = some item) (more : verdict item = .again)
    (fresh : turns = 0 ∨ ¬ rest.head?.any fun first => verdict first = .again) :
    rescan verdict all limit fuel turns rest = none := by
  induction fuel generalizing turns rest item with
  | zero => rfl
  | succ fuel ih =>
      cases rest with
      | nil => cases next
      | cons head rest =>
          by_cases skip : verdict head = .skip
          · rw [unskipped_cons_skip verdict head rest skip] at next
            rw [rescan_skip verdict all limit fuel turns head rest skip, ih 0 rest item next more (Or.inl rfl), Option.map_none]
          · rw [unskipped_cons_kept verdict head rest skip] at next
            obtain rfl := Option.some.inj next
            have zero : turns = 0 := by
              refine fresh.resolve_right fun other => other ?_
              rw [List.head?_cons, Option.any_some]
              exact decide_eq_true more
            rw [rescan_again verdict all limit fuel turns head rest more, if_neg (by omega),
              ih (turns + 1) all found first again (Or.inr late), Option.map_none]

inductive RescanEnds (rest : List α) : Ending α → Prop where
  | item (looked : Nat) (found : α) (stop : verdict found = .stop) (few : looked ≤ rest.length + all.length + limit)
      (ran : ∀ fuel, looked < fuel → rescan verdict all limit fuel 0 rest = some (looked, some found)) : RescanEnds rest (.item found)
  | nothing (looked : Nat) (few : looked ≤ rest.length + all.length + limit)
      (ran : ∀ fuel, looked < fuel → rescan verdict all limit fuel 0 rest = some (looked, none)) : RescanEnds rest .nothing
  | never (ran : ∀ fuel, rescan verdict all limit fuel 0 rest = none) : RescanEnds rest .never

theorem rescan_later (rest : List α) (looked more : Nat) (found : Option α) (returns : ∀ fuel,
      rescan verdict all limit (fuel + looked) 0 rest = (rescan verdict all limit fuel 1 all).map fun found => (found.1 + looked, found.2))
    (ends : ∀ fuel, more < fuel → rescan verdict all limit fuel 1 all = some (more, found)) (fuel : Nat) (enough : more + looked < fuel) :
    rescan verdict all limit fuel 0 rest = some (more + looked, found) := by
  have split : fuel = (fuel - looked) + looked := by omega
  rw [split, returns, ends _ (by omega)]
  rfl

theorem rescan_ends (several : 1 < limit) (rest : List α) : RescanEnds verdict all limit rest (ending verdict all rest) := by
  rw [ending]
  cases first : unskipped verdict rest with
  | none =>
      refine .nothing rest.length (by omega) fun fuel enough => ?_
      exact rescan_through verdict all limit fuel 0 rest first enough
  | some item =>
      dsimp only
      by_cases stop : verdict item = .stop
      · rw [if_pos stop]
        obtain ⟨looked, few, ran⟩ := rescan_stops verdict all limit rest item first stop
        exact .item looked item stop (by omega) fun fuel enough => ran fuel 0 enough
      have again := (unskipped_verdict verdict rest item first).resolve_left stop
      obtain ⟨looked, few, returns⟩ := rescan_returns verdict all limit several rest item first again
      rw [if_neg stop]
      by_cases late : all.head?.any fun first => verdict first = .again
      · rw [if_pos late]
        obtain ⟨head, others, rfl, isAgain⟩ : ∃ head others, all = head :: others ∧ verdict head = .again := by
          cases all with
          | nil => cases late
          | cons head others => exact ⟨head, others, rfl, of_decide_eq_true late⟩
        refine .nothing (limit - 1 + looked) (by omega) ?_
        refine rescan_later verdict _ limit rest looked (limit - 1) none returns fun fuel enough => ?_
        exact rescan_gives_up verdict _ limit head others rfl isAgain fuel 1 several (by omega)
      rw [if_neg late]
      cases second : unskipped verdict all with
      | none =>
          refine .nothing (all.length + looked) (by omega) ?_
          refine rescan_later verdict all limit rest looked all.length none returns fun fuel enough => ?_
          exact rescan_through verdict all limit fuel 1 all second enough
      | some other =>
          dsimp only
          by_cases stops : verdict other = .stop
          · rw [if_pos stops]
            obtain ⟨more, fewer, ran⟩ := rescan_stops verdict all limit all other second stops
            refine .item (more + looked) other stops (by omega) ?_
            exact rescan_later verdict all limit rest looked more (some other) returns fun fuel enough => ran fuel 1 enough
          · have repeats := (unskipped_verdict verdict all other second).resolve_left stops
            rw [if_neg stops]
            refine .never fun fuel => ?_
            exact rescan_circles verdict all limit several other second repeats late fuel 0 rest item first again (Or.inl rfl)

end

end RingServer.Library
