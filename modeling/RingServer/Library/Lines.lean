import Mathlib.Data.List.TakeWhile
import RingServer.Library.Bytes

set_option autoImplicit false

namespace RingServer.Library

-- Lines as a sender writes them, with an ending and a mark behind each, and as a reader
-- takes them: up to the mark, with the ending stripped.
structure LineFormat (α : Type) where
  isMark : α → Bool
  strip : List α → List α
  ending : List α
  mark : α
  marks : isMark mark = true

namespace LineFormat

variable {α : Type} (format : LineFormat α)

def frame (line : List α) : List α := line ++ (format.ending ++ [format.mark])

structure Fits (line : List α) : Prop where
  unbroken : ∀ c ∈ line ++ format.ending, format.isMark c = false
  stripped : format.strip (line ++ format.ending) = line

def readLine (text : List α) : Option (List α × List α) :=
  match text.dropWhile fun c => !format.isMark c with
  | [] => none
  | _ :: rest => some (format.strip (text.takeWhile fun c => !format.isMark c), rest)

def readBlock : Nat → List α → Option (List (List α) × List α)
  | 0, _ => none
  | fuel + 1, text =>
      match format.readLine text with
      | none => none
      | some (line, rest) => if line.isEmpty then some ([], rest) else (readBlock fuel rest).map fun block => (line :: block.1, block.2)

theorem read_line_frame (line rest : List α) (fits : format.Fits line) : format.readLine (format.frame line ++ rest) = some (line, rest) := by
  have text : format.frame line ++ rest = (line ++ format.ending) ++ format.mark :: rest := by
    rw [frame, List.append_assoc, List.append_assoc, List.append_assoc]
    rfl
  have inside : ∀ c ∈ line ++ format.ending, (!format.isMark c) = true := fun c member => by rw [fits.unbroken c member]; rfl
  have outside : ¬ (!format.isMark format.mark) = true := by rw [format.marks]; exact Bool.false_ne_true
  rw [readLine, text, List.dropWhile_append_of_pos inside, List.takeWhile_append_of_pos inside, List.dropWhile_cons, List.takeWhile_cons,
    if_neg outside, if_neg outside, List.append_nil]
  dsimp only
  rw [fits.stripped]

theorem frames_long (lines : List (List α)) : lines.length ≤ (lines.flatMap format.frame).length := by
  induction lines with
  | nil => exact Nat.zero_le _
  | cons line lines ih =>
      rw [List.flatMap_cons, List.length_append, List.length_cons, frame, List.length_append, List.length_append, List.length_singleton]
      omega

theorem read_block_frames (lines : List (List α)) (fits : ∀ line ∈ lines, format.Fits line) (empty : format.Fits []) (rest : List α)
    (fuel : Nat) (enough : lines.length < fuel) :
    ∃ behind, format.readBlock fuel (lines.flatMap format.frame ++ (format.frame [] ++ rest)) =
        some (lines.takeWhile fun line => !line.isEmpty, behind) ∧ ((∀ line ∈ lines, line ≠ []) → behind = rest) := by
  induction lines generalizing fuel with
  | nil =>
      obtain ⟨less, rfl⟩ : ∃ less, fuel = less + 1 := ⟨fuel - 1, by simp only [List.length_nil] at enough; omega⟩
      refine ⟨rest, ?_, fun _ => rfl⟩
      rw [List.flatMap_nil, List.nil_append, readBlock, format.read_line_frame [] rest empty]
      rfl
  | cons line lines ih =>
      obtain ⟨less, rfl⟩ : ∃ less, fuel = less + 1 := ⟨fuel - 1, by simp only [List.length_cons] at enough; omega⟩
      obtain ⟨behind, read, whole⟩ := ih (fun other member => fits other (List.mem_cons_of_mem line member)) less
        (by simp only [List.length_cons] at enough; omega)
      rw [List.flatMap_cons, List.append_assoc, readBlock, format.read_line_frame line _ (fits line List.mem_cons_self)]
      dsimp only
      by_cases none : line.isEmpty = true
      · have stops : ¬ (!line.isEmpty) = true := by rw [none]; exact Bool.false_ne_true
        rw [if_pos none, List.takeWhile_cons, if_neg stops]
        exact ⟨_, rfl, fun all => absurd (List.isEmpty_iff.mp none) (all line List.mem_cons_self)⟩
      · have goes : (!line.isEmpty) = true := by rw [eq_false_of_ne_true none]; rfl
        rw [if_neg none, List.takeWhile_cons, if_pos goes, read]
        exact ⟨behind, rfl, fun all => whole fun other member => all other (List.mem_cons_of_mem line member)⟩

theorem take_while_all (lines : List (List α)) :
    lines.takeWhile (fun line => !line.isEmpty) = lines ↔ ∀ line ∈ lines, line ≠ [] := by
  rw [List.takeWhile_eq_self_iff]
  constructor
  · intro all line member none
    have goes := all line member
    rw [none] at goes
    cases goes
  · intro all line member
    cases line with
    | nil => exact absurd rfl (all [] member)
    | cons c tail => rfl

theorem read_all_member {β : Type} (read : List α → Option (β × List α)) (fuel : Nat) (text : List α) (items : List β)
    (isAll : readAll read fuel text = some items) : ∀ item ∈ items, ∃ part rest, read part = some (item, rest) := by
  induction fuel generalizing text items with
  | zero =>
      cases text with
      | nil =>
          cases isAll
          exact fun _ member => absurd member List.not_mem_nil
      | cons c text => cases isAll
  | succ fuel ih =>
      cases text with
      | nil =>
          cases isAll
          exact fun _ member => absurd member List.not_mem_nil
      | cons c text =>
          rw [readAll] at isAll
          cases isRead : read (c :: text) with
          | none =>
              rw [isRead] at isAll
              cases isAll
          | some result =>
              obtain ⟨first, rest⟩ := result
              rw [isRead] at isAll
              obtain ⟨others, isOthers, rfl⟩ := Option.map_eq_some_iff.mp isAll
              exact List.forall_mem_cons.mpr ⟨⟨c :: text, rest, isRead⟩, ih rest others isOthers⟩

theorem read_line_unbroken (inside : ∀ line, format.strip line ⊆ line) (text line rest : List α)
    (isLine : format.readLine text = some (line, rest)) : ∀ c ∈ line, format.isMark c = false := by
  rw [readLine] at isLine
  split at isLine
  · cases isLine
  · next behind =>
    obtain ⟨rfl, rfl⟩ := Prod.mk.inj (Option.some.inj isLine)
    intro c member
    have unmarked := List.mem_takeWhile_imp (inside _ member)
    cases isMark : format.isMark c with
    | false => rfl
    | true =>
        rw [isMark] at unmarked
        cases unmarked

theorem read_lines_iff (plain : ∀ c ∈ format.ending, format.isMark c = false) (strips : ∀ line, format.strip (line ++ format.ending) = line)
    (inside : ∀ line, format.strip line ⊆ line) (lines : List (List α)) (fuel : Nat)
    (enough : (lines.flatMap format.frame).length ≤ fuel) :
    readAll format.readLine fuel (lines.flatMap format.frame) = some lines ↔ ∀ line ∈ lines, ∀ c ∈ line, format.isMark c = false := by
  constructor
  · intro isAll line member
    obtain ⟨part, rest, isLine⟩ := read_all_member format.readLine fuel _ lines isAll line member
    exact format.read_line_unbroken inside part line rest isLine
  · intro unbroken
    have fits : ∀ line ∈ lines, format.Fits line := fun line member =>
      ⟨List.forall_mem_append.mpr ⟨unbroken line member, plain⟩, strips line⟩
    have nonempty : ∀ line ∈ lines, format.frame line ≠ [] := by
      intro line _ none
      have length := congrArg List.length none
      rw [frame, List.length_append, List.length_append] at length
      exact absurd length (by simp)
    have all := read_all_items format.readLine format.frame id lines nonempty
      (fun line member rest => format.read_line_frame line rest (fits line member)) fuel enough
    rwa [List.map_id] at all

end LineFormat

end RingServer.Library
