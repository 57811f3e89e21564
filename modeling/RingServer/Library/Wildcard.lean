import Mathlib.Data.List.Basic

set_option autoImplicit false

namespace RingServer.Library

inductive Wild (α : Type) where
  | literal (a : α)
  | one
  | many
deriving DecidableEq

section

variable {α : Type} [DecidableEq α]

def wildMatches (free : α → Bool) : List (Wild α) → List α → Bool
  | [], text => text.isEmpty
  | .literal _ :: _, [] => false
  | .literal a :: rest, c :: text => c = a && wildMatches free rest text
  | .one :: _, [] => false
  | .one :: rest, c :: text => free c && wildMatches free rest text
  | .many :: rest, text =>
      (List.range (text.length + 1)).any fun k => (text.take k).all free && wildMatches free rest (text.drop k)

variable (free : α → Bool)

theorem matches_nil (text : List α) : wildMatches free [] text = true ↔ text = [] := List.isEmpty_iff

theorem matches_literal (a : α) (rest : List (Wild α)) (text : List α) :
    wildMatches free (.literal a :: rest) text = true ↔ ∃ behind, text = a :: behind ∧ wildMatches free rest behind = true := by
  cases text with
  | nil => simp [wildMatches]
  | cons c text =>
      rw [wildMatches, Bool.and_eq_true, decide_eq_true_iff]
      constructor
      · rintro ⟨rfl, found⟩
        exact ⟨text, rfl, found⟩
      · rintro ⟨behind, same, found⟩
        cases same
        exact ⟨rfl, found⟩

theorem matches_one (rest : List (Wild α)) (text : List α) : wildMatches free (.one :: rest) text = true ↔
    ∃ c behind, text = c :: behind ∧ free c = true ∧ wildMatches free rest behind = true := by
  cases text with
  | nil => simp [wildMatches]
  | cons c text =>
      rw [wildMatches, Bool.and_eq_true]
      constructor
      · intro found
        exact ⟨c, text, rfl, found⟩
      · rintro ⟨d, behind, same, found⟩
        cases same
        exact found

theorem matches_many (rest : List (Wild α)) (text : List α) : wildMatches free (.many :: rest) text = true ↔
    ∃ front behind, text = front ++ behind ∧ (∀ c ∈ front, free c = true) ∧ wildMatches free rest behind = true := by
  rw [wildMatches, List.any_eq_true]
  constructor
  · rintro ⟨k, below, found⟩
    rw [Bool.and_eq_true, List.all_eq_true] at found
    exact ⟨text.take k, text.drop k, (List.take_append_drop k text).symm, found⟩
  · rintro ⟨front, behind, rfl, allFree, found⟩
    refine ⟨front.length, List.mem_range.mpr ?_, ?_⟩
    · rw [List.length_append]
      omega
    · rw [List.take_left, List.drop_left, Bool.and_eq_true, List.all_eq_true]
      exact ⟨allFree, found⟩

theorem matches_append (front behind : List (Wild α)) (text : List α) : wildMatches free (front ++ behind) text = true ↔
    ∃ a b, text = a ++ b ∧ wildMatches free front a = true ∧ wildMatches free behind b = true := by
  induction front generalizing text with
  | nil =>
      rw [List.nil_append]
      constructor
      · intro found
        exact ⟨[], text, rfl, rfl, found⟩
      · rintro ⟨a, b, rfl, none, found⟩
        rw [(matches_nil free a).mp none]
        exact found
  | cons item front ih =>
      rw [List.cons_append]
      cases item with
      | literal c =>
          simp only [matches_literal, ih]
          constructor
          · rintro ⟨_, rfl, a, b, rfl, found⟩
            exact ⟨c :: a, b, rfl, ⟨a, rfl, found.1⟩, found.2⟩
          · rintro ⟨_, b, rfl, ⟨a, rfl, first⟩, second⟩
            exact ⟨a ++ b, rfl, a, b, rfl, first, second⟩
      | one =>
          simp only [matches_one, ih]
          constructor
          · rintro ⟨c, _, rfl, isFree, a, b, rfl, found⟩
            exact ⟨c :: a, b, rfl, ⟨c, a, rfl, isFree, found.1⟩, found.2⟩
          · rintro ⟨_, b, rfl, ⟨c, a, rfl, isFree, first⟩, second⟩
            exact ⟨c, a ++ b, rfl, isFree, a, b, rfl, first, second⟩
      | many =>
          simp only [matches_many, ih]
          constructor
          · rintro ⟨taken, _, rfl, allFree, a, b, rfl, found⟩
            exact ⟨taken ++ a, b, (List.append_assoc _ _ _).symm, ⟨taken, a, rfl, allFree, found.1⟩, found.2⟩
          · rintro ⟨_, b, rfl, ⟨taken, a, rfl, allFree, first⟩, second⟩
            exact ⟨taken, a ++ b, List.append_assoc _ _ _, allFree, a, b, rfl, first, second⟩

theorem matches_literals (word : List α) (text : List α) : wildMatches free (word.map .literal) text = true ↔ text = word := by
  induction word generalizing text with
  | nil => exact matches_nil free text
  | cons a word ih =>
      rw [List.map_cons, matches_literal]
      constructor
      · rintro ⟨behind, rfl, found⟩
        rw [(ih behind).mp found]
      · intro same
        exact ⟨word, same, (ih word).mpr rfl⟩

theorem matches_member (pattern : List (Wild α)) (text : List α) (a : α) (isLiteral : .literal a ∈ pattern)
    (found : wildMatches free pattern text = true) : a ∈ text := by
  induction pattern generalizing text with
  | nil => exact nomatch isLiteral
  | cons item pattern ih =>
      obtain ⟨front, behind, rfl, first, rest⟩ := (matches_append free [item] pattern text).mp found
      rw [List.mem_append]
      cases List.mem_cons.mp isLiteral with
      | inl here =>
          rw [← here, matches_literal] at first
          obtain ⟨_, rfl, _⟩ := first
          exact .inl List.mem_cons_self
      | inr later => exact .inr (ih behind later rest)

theorem matches_each {β : Type} (item : β → Wild α) (value : β → α) (source : List β)
    (each : ∀ c ∈ source, wildMatches free [item c] [value c] = true) :
    wildMatches free (source.map item) (source.map value) = true := by
  induction source with
  | nil => rfl
  | cons c source ih =>
      refine (matches_append free [item c] (source.map item) _).mpr
        ⟨[value c], source.map value, rfl, each c List.mem_cons_self, ih fun d isMember => each d (List.mem_cons_of_mem c isMember)⟩

end

end RingServer.Library
