import RingServer.Library.Text
import RingServer.Ring.RingTypes

set_option autoImplicit false

namespace RingServer

open Library

def nul : Char := Char.ofNat 0

-- char.IsWhiteSpace, on the characters that an ASCII decoder gives.
def isWhiteSpace (c : Char) : Bool := c = ' ' || (9 ≤ c.toNat && c.toNat ≤ 13)

def trim (text : Text) : Text := trimBoth isWhiteSpace text

-- Split(' ', StringSplitOptions.RemoveEmptyEntries)
def splitWords (text : Text) : List Text := pieces (fun c => c = ' ') text

def toUpperInvariant (text : Text) : Text := text.map Char.toUpper

theorem upper_plain (c d : Char) (plain : d.toNat < 65 ∨ 90 < d.toNat) (upper : c.toUpper = d) : c = d := by
  delta Char.toUpper at upper
  split at upper
  · next low =>
    have nat := congrArg (fun upper : Char => upper.val.toNat) upper
    have less : (97 : UInt32).toNat ≤ c.val.toNat := low.1
    have more : c.val.toNat ≤ (122 : UInt32).toNat := low.2
    have code : d.toNat = d.val.toNat := rfl
    simp only [UInt32.toNat_add] at nat
    simp at nat less more
    omega
  · exact upper

-- TryParse with NumberStyles.Integer: white space, a sign, digits, white space and
-- NULs; low and high are the ends of the type.
def tryParseInteger (low high : Int) (text : Text) : Option Int :=
  let body := text.dropWhile isWhiteSpace
  let signed := body.head? = some '-' ∨ body.head? = some '+'
  let digits := if signed then body.tail else body
  let number := digits.takeWhile Char.isDigit
  let behind := (digits.dropWhile Char.isDigit).dropWhile isWhiteSpace
  let magnitude : Int := (Nat.ofDigitChars 10 number 0 : Nat)
  let value := if body.head? = some '-' then -magnitude else magnitude
  if number.isEmpty ∨ behind.any (· ≠ nul) then none
  else if low ≤ value ∧ value ≤ high then some value
  else none

def tryParseInt (text : Text) : Option Int := tryParseInteger (-2 ^ 31) (2 ^ 31 - 1) text

def tryParseLong (text : Text) : Option Int64 := (tryParseInteger (-2 ^ 63) (2 ^ 63 - 1) text).map Int64.ofInt

def tryParseUInt (text : Text) : Option UInt32 := (tryParseInteger 0 (2 ^ 32 - 1) text).map fun value => UInt32.ofNat value.toNat

def tryParseULong (text : Text) : Option UInt64 := (tryParseInteger 0 (2 ^ 64 - 1) text).map fun value => UInt64.ofNat value.toNat

-- How an interpolated string shows an integer.
def decimal (n : Nat) : Text := Nat.toDigits 10 n

def decimalInt (z : Int) : Text := if z < 0 then '-' :: decimal z.natAbs else decimal z.natAbs

example : tryParseULong " +0042\t".toList = some 42 ∧ tryParseULong "18446744073709551616".toList = none := by decide

theorem decimal_digits (n : Nat) : ∀ c ∈ decimal n, c.isDigit = true := fun _ member =>
  Nat.isDigit_of_mem_toDigits (by decide) (by decide) member

theorem decimal_ne_nil (n : Nat) : decimal n ≠ [] := Nat.toDigits_ne_nil

theorem decimal_value (n : Nat) : Nat.ofDigitChars 10 (decimal n) 0 = n :=
  Nat.ofDigitChars_toDigits (by decide) (by decide)

theorem digit_not_white (c : Char) (digit : c.isDigit = true) : isWhiteSpace c = false ∧ c ≠ '-' ∧ c ≠ '+' ∧ c ≠ nul := by
  rw [Char.isDigit, Bool.and_eq_true, decide_eq_true_iff, decide_eq_true_iff] at digit
  have lower : 48 ≤ c.toNat := digit.1
  have upper : c.toNat ≤ 57 := digit.2
  have apart : ∀ d : Char, (d.toNat < 48 ∨ 57 < d.toNat) → c ≠ d := by
    intro d outside same
    rw [← same] at outside
    omega
  refine ⟨?_, apart _ (by decide), apart _ (by decide), apart _ (by decide)⟩
  rw [isWhiteSpace, decide_eq_false (apart ' ' (by decide)), Bool.false_or, Bool.and_eq_false_iff]
  exact Or.inr (decide_eq_false (by omega))

theorem parse_digits (low high : Int) (text : Text) (some : text ≠ []) (allDigits : ∀ c ∈ text, c.isDigit = true)
    (above : low ≤ Nat.ofDigitChars 10 text 0) (below : (Nat.ofDigitChars 10 text 0 : Int) ≤ high) :
    tryParseInteger low high text = Option.some (Nat.ofDigitChars 10 text 0 : Int) := by
  cases text with
  | nil => exact absurd rfl some
  | cons c tail =>
      obtain ⟨notWhite, notMinus, notPlus, _⟩ := digit_not_white c (allDigits c List.mem_cons_self)
      have body : (c :: tail).dropWhile isWhiteSpace = c :: tail := List.dropWhile_cons_of_neg (by simp [notWhite])
      have minus : ¬ (c :: tail).head? = Option.some '-' := fun same => notMinus (Option.some.inj same)
      have plus : ¬ (c :: tail).head? = Option.some '+' := fun same => notPlus (Option.some.inj same)
      have number : (c :: tail).takeWhile Char.isDigit = c :: tail := List.takeWhile_eq_self_iff.mpr allDigits
      have behind : (c :: tail).dropWhile Char.isDigit = [] := List.dropWhile_eq_nil_iff.mpr allDigits
      simp only [tryParseInteger, body, minus, plus, or_self, if_false, number, behind, List.dropWhile_nil, List.any_nil,
        List.isEmpty_cons, Bool.false_eq_true, above, below, and_self, if_true]

end RingServer
