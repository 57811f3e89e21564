import Mathlib.Algebra.Group.Nat.Defs
import RingServer.Library.Text

set_option autoImplicit false

namespace RingServer.Library

-- The last digits of a number, as many as the width.
def digits : Nat → Nat → List Char
  | 0, _ => []
  | width + 1, n => Nat.digitChar (n / 10 ^ width % 10) :: digits width n

def stamp : List (Nat × Char) → List Nat → List Char
  | (width, sep) :: layout, value :: values => digits width value ++ sep :: stamp layout values
  | _, _ => []

inductive FitsLayout : List (Nat × Char) → List Nat → Prop
  | nil : FitsLayout [] []
  | cons (width value : Nat) (sep : Char) (layout : List (Nat × Char)) (values : List Nat) (some : width ≠ 0) (room : value < 10 ^ width)
      (apart : sep.isDigit = false) (rest : FitsLayout layout values) : FitsLayout ((width, sep) :: layout) (value :: values)

def numerals (text : List Char) : List (List Char) := pieces (fun c => !c.isDigit) text

def numeral (text : List Char) : Nat := Nat.ofDigitChars 10 text 0

example : stamp [(4, '-'), (2, ':')] [31, 7] = "0031-07:".toList ∧ (numerals "0031-07:".toList).map numeral = [31, 7] := by
  decide +kernel

theorem digit_char_digit (d : Nat) (below : d < 10) : (Nat.digitChar d).isDigit = true := by
  rw [Nat.isDigit_digitChar, decide_eq_true below]

theorem digit_char_code (d : Nat) (below : d < 10) : (Nat.digitChar d).toNat = d + 48 := by
  rw [Nat.toNat_digitChar_of_lt_ten below, Nat.add_comm]

theorem digit_char_lt (d e : Nat) (below : d < 10) (below' : e < 10) : Nat.digitChar d < Nat.digitChar e ↔ d < e := by
  have codes : Nat.digitChar d < Nat.digitChar e ↔ (Nat.digitChar d).toNat < (Nat.digitChar e).toNat := Iff.rfl
  rw [codes, digit_char_code d below, digit_char_code e below']
  omega

theorem digit_char_inj (d e : Nat) (below : d < 10) (below' : e < 10) : Nat.digitChar d = Nat.digitChar e ↔ d = e := by
  rw [← Char.toNat_inj, digit_char_code d below, digit_char_code e below']
  omega

theorem digits_length (width n : Nat) : (digits width n).length = width := by
  induction width with
  | zero => rfl
  | succ width ih => rw [digits, List.length_cons, ih]

theorem digits_digits (width n : Nat) : ∀ c ∈ digits width n, c.isDigit = true := by
  induction width with
  | zero => exact fun c member => absurd member List.not_mem_nil
  | succ width ih =>
      intro c member
      rcases List.mem_cons.mp member with rfl | later
      · exact digit_char_digit _ (Nat.mod_lt _ (by decide))
      · exact ih c later

theorem mod_succ (width n : Nat) : n % 10 ^ (width + 1) = 10 ^ width * (n / 10 ^ width % 10) + n % 10 ^ width := by
  rw [Nat.pow_succ, Nat.mod_mul, Nat.add_comm]

theorem numeral_digits (width n : Nat) : numeral (digits width n) = n % 10 ^ width := by
  induction width with
  | zero => exact (Nat.mod_one n).symm
  | succ width ih =>
      rw [numeral] at ih
      rw [numeral, digits, Nat.ofDigitChars_cons_digitChar_of_lt_ten (Nat.mod_lt _ (by decide)), Nat.ofDigitChars_eq_ofDigitChars_zero,
        digits_length, ih, mod_succ, Nat.mul_zero, Nat.zero_add]

theorem digits_lt (width a b : Nat) : digits width a < digits width b ↔ a % 10 ^ width < b % 10 ^ width := by
  induction width with
  | zero =>
      rw [digits, digits, Nat.pow_zero, Nat.mod_one, Nat.mod_one]
      exact iff_of_false (List.not_lt_nil []) (Nat.lt_irrefl 0)
  | succ width ih =>
      have digit : a / 10 ^ width % 10 < 10 := Nat.mod_lt _ (by decide)
      have digit' : b / 10 ^ width % 10 < 10 := Nat.mod_lt _ (by decide)
      have rest : a % 10 ^ width < 10 ^ width := Nat.mod_lt _ (Nat.pow_pos (by decide))
      have rest' : b % 10 ^ width < 10 ^ width := Nat.mod_lt _ (Nat.pow_pos (by decide))
      rw [digits, digits, List.cons_lt_cons_iff, digit_char_lt _ _ digit digit', digit_char_inj _ _ digit digit', ih, mod_succ, mod_succ]
      generalize a / 10 ^ width % 10 = d at *
      generalize b / 10 ^ width % 10 = e at *
      generalize a % 10 ^ width = r at *
      generalize b % 10 ^ width = r' at *
      generalize 10 ^ width = unit at *
      rcases Nat.lt_trichotomy d e with less | rfl | more
      · have units : unit * (d + 1) ≤ unit * e := Nat.mul_le_mul_left unit less
        rw [Nat.mul_add, Nat.mul_one] at units
        exact iff_of_true (Or.inl less) (by omega)
      · omega
      · have units : unit * (e + 1) ≤ unit * d := Nat.mul_le_mul_left unit more
        rw [Nat.mul_add, Nat.mul_one] at units
        exact iff_of_false (by omega) (by omega)

theorem digits_inj (width a b : Nat) (room : a < 10 ^ width) (room' : b < 10 ^ width) : digits width a = digits width b ↔ a = b := by
  constructor
  · intro same
    have values := congrArg numeral same
    rwa [numeral_digits, numeral_digits, Nat.mod_eq_of_lt room, Nat.mod_eq_of_lt room'] at values
  · rintro rfl
    rfl

theorem append_lt_append_iff {α : Type} [LT α] (xs ys us vs : List α) (same : xs.length = ys.length) :
    xs ++ us < ys ++ vs ↔ xs < ys ∨ xs = ys ∧ us < vs := by
  induction xs generalizing ys with
  | nil =>
      obtain rfl := List.length_eq_zero_iff.mp same.symm
      simp only [List.nil_append, List.not_lt_nil, true_and, false_or]
  | cons x xs ih =>
      cases ys with
      | nil => cases same
      | cons y ys =>
          rw [List.cons_append, List.cons_append, List.cons_lt_cons_iff, List.cons_lt_cons_iff, ih ys (Nat.succ.inj same), List.cons.injEq]
          tauto

theorem stamp_lt (layout : List (Nat × Char)) (as bs : List Nat) (fits : FitsLayout layout as) (fits' : FitsLayout layout bs)
    (u v : List Char) :
    stamp layout as ++ u < stamp layout bs ++ v ↔ as < bs ∨ as = bs ∧ u < v := by
  induction fits generalizing bs with
  | nil =>
      cases fits'
      simp only [stamp, List.nil_append, List.not_lt_nil, true_and, false_or]
  | cons width a sep layout as some room apart rest ih =>
      cases fits' with
      | cons _ b _ _ bs _ room' _ rest' =>
          have lengths : (digits width a).length = (digits width b).length := by rw [digits_length, digits_length]
          rw [stamp, stamp, List.append_assoc, List.append_assoc, append_lt_append_iff _ _ _ _ lengths, digits_lt,
            digits_inj width a b room room', Nat.mod_eq_of_lt room, Nat.mod_eq_of_lt room', List.cons_append, List.cons_append,
            List.cons_lt_cons_iff, ih bs rest', List.cons_lt_cons_iff, List.cons.injEq]
          have irrefl : ¬ sep < sep := Char.lt_irrefl sep
          tauto

theorem stamp_inj (layout : List (Nat × Char)) (as bs : List Nat) (fits : FitsLayout layout as) (fits' : FitsLayout layout bs)
    (u v : List Char) :
    stamp layout as ++ u = stamp layout bs ++ v ↔ as = bs ∧ u = v := by
  induction fits generalizing bs with
  | nil =>
      cases fits'
      simp only [stamp, List.nil_append, true_and]
  | cons width a sep layout as some room apart rest ih =>
      cases fits' with
      | cons _ b _ _ bs _ room' _ rest' =>
          have lengths : (digits width a).length = (digits width b).length := by rw [digits_length, digits_length]
          rw [stamp, stamp, List.append_assoc, List.append_assoc, List.append_eq_append_iff_of_size_eq_left lengths,
            digits_inj width a b room room', List.cons_append, List.cons_append, List.cons.injEq, ih bs rest', List.cons.injEq]
          tauto

theorem numerals_digits (width n : Nat) (some : width ≠ 0) : numerals (digits width n) = [digits width n] := by
  refine pieces_plain _ _ (fun c member => ?_) fun none => some ?_
  · rw [digits_digits width n c member]
    rfl
  · rw [← digits_length width n, none]
    rfl

theorem numerals_stamp (layout : List (Nat × Char)) (values : List Nat) (fits : FitsLayout layout values) (behind : List Char) :
    numerals (stamp layout values ++ behind) = layout.zipWith (fun field value => digits field.1 value) values ++ numerals behind := by
  induction fits with
  | nil => rfl
  | cons width value sep layout values some room apart rest ih =>
      have isSep : (!sep.isDigit) = true := by
        rw [apart]
        rfl
      have first := numerals_digits width value some
      rw [numerals] at first ih ⊢
      rw [stamp, List.append_assoc, List.cons_append, pieces_sep (fun c => !c.isDigit) _ _ sep isSep, first, ih]
      rfl

theorem stamp_values (layout : List (Nat × Char)) (values : List Nat) (fits : FitsLayout layout values) :
    (layout.zipWith (fun field value => digits field.1 value) values).map numeral = values := by
  induction fits with
  | nil => rfl
  | cons width value sep layout values some room apart rest ih =>
      rw [List.zipWith_cons_cons, List.map_cons, ih, numeral_digits, Nat.mod_eq_of_lt room]

theorem stamp_members (layout : List (Nat × Char)) (values : List Nat) :
    ∀ c ∈ stamp layout values, c.isDigit = true ∨ c ∈ layout.map Prod.snd := by
  induction layout generalizing values with
  | nil => exact fun c member => absurd member List.not_mem_nil
  | cons field layout ih =>
      cases values with
      | nil => exact fun c member => absurd member List.not_mem_nil
      | cons value values =>
          intro c member
          rcases List.mem_append.mp member with inDigits | behind
          · exact Or.inl (digits_digits field.1 value c inDigits)
          · rcases List.mem_cons.mp behind with rfl | later
            · exact Or.inr List.mem_cons_self
            · exact (ih values c later).imp_right (List.mem_cons_of_mem field.2)

end RingServer.Library
