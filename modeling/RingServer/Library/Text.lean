import Mathlib.Data.List.DropRight

set_option autoImplicit false

namespace RingServer.Library

variable {α : Type}

-- The pieces of a text between separators, without the empty ones.
def pieces (sep : α → Bool) (text : List α) : List (List α) :=
  (text.splitOnP sep).filter fun piece => !piece.isEmpty

def trimBoth (blank : α → Bool) (text : List α) : List α :=
  (text.dropWhile blank).rdropWhile blank

theorem pieces_sep (sep : α → Bool) (before after : List α) (c : α) (isSep : sep c = true) :
    pieces sep (before ++ c :: after) = pieces sep before ++ pieces sep after := by
  rw [pieces, List.splitOnP_append_cons before after isSep, List.filter_append]
  rfl

theorem pieces_plain (sep : α → Bool) (text : List α) (plain : ∀ c ∈ text, sep c = false) (some : text ≠ []) :
    pieces sep text = [text] := by
  rw [pieces, List.splitOnP_eq_singleton plain]
  cases text with
  | nil => exact absurd rfl some
  | cons c tail => rfl

theorem pieces_flatten (sep : α → Bool) (text : List α) : (pieces sep text).flatten = text.filter fun c => !sep c := by
  have drop : ∀ words : List (List α), (words.filter fun word => !word.isEmpty).flatten = words.flatten := by
    intro words
    induction words with
    | nil => rfl
    | cons word tail ih =>
        cases word with
        | nil => exact ih
        | cons c rest => exact congrArg (c :: rest ++ ·) ih
  rw [pieces, drop]
  induction text with
  | nil => rfl
  | cons c tail ih =>
      rw [List.splitOnP_cons_eq_if_modifyHead]
      cases isSep : sep c with
      | true => simpa [isSep] using ih
      | false =>
          cases parts : tail.splitOnP sep with
          | nil => exact absurd parts (List.splitOnP_ne_nil sep tail)
          | cons word rest =>
              rw [parts] at ih
              simpa [isSep] using ih

theorem trim_both_filter (blank keep : α → Bool) (apart : ∀ c, blank c = true → keep c = false) (text : List α) :
    (trimBoth blank text).filter keep = text.filter keep := by
  have front : ∀ list : List α, (list.dropWhile blank).filter keep = list.filter keep := by
    intro list
    induction list with
    | nil => rfl
    | cons c tail ih =>
        cases isBlank : blank c with
        | true => rw [List.dropWhile_cons_of_pos isBlank, ih, List.filter_cons_of_neg (by simp [apart c isBlank])]
        | false => rw [List.dropWhile_cons_of_neg (by simp [isBlank])]
  rw [trimBoth, List.rdropWhile, List.filter_reverse, front, ← List.filter_reverse, List.reverse_reverse, front]

end RingServer.Library
