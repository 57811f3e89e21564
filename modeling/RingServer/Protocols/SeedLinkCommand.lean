import RingServer.Protocols.Text

set_option autoImplicit false

namespace RingServer.SeedLink

open Library

def hexDigit (c : Char) : Option Nat :=
  if c.isDigit then some (c.toNat - 48)
  else if 'A' ≤ c ∧ c ≤ 'F' then some (c.toNat - 55)
  else if 'a' ≤ c ∧ c ≤ 'f' then some (c.toNat - 87)
  else none

def hexValue (digits : Text) : Nat := digits.foldl (fun value c => 16 * value + (hexDigit c).getD 0) 0

-- uint.TryParse with NumberStyles.HexNumber: white space, digits, white space and NULs.
def tryParseHex (text : Text) : Option UInt32 :=
  let body := text.dropWhile isWhiteSpace
  let number := body.takeWhile fun c => (hexDigit c).isSome
  let behind := (body.dropWhile fun c => (hexDigit c).isSome).dropWhile isWhiteSpace
  if number.isEmpty ∨ behind.any (· ≠ nul) ∨ 2 ^ 32 ≤ hexValue number then none
  else some (UInt32.ofNat (hexValue number))

-- ulong.TryParse with NumberStyles.None: digits and NULs.
def tryParseDigits (text : Text) : Option UInt64 :=
  let number := text.takeWhile Char.isDigit
  let value := Nat.ofDigitChars 10 number 0
  if number.isEmpty ∨ (text.dropWhile Char.isDigit).any (· ≠ nul) ∨ 2 ^ 64 ≤ value then none
  else some (UInt64.ofNat value)

-- The format X6 of a number below 2^24.
def hex6 (n : Nat) : Text :=
  [n / 1048576, n / 65536, n / 4096, n / 256, n / 16, n].map fun d => "0123456789ABCDEF".toList.getD (d % 16) '0'

def isLeapYear (year : Int) : Bool := year % 4 = 0 && (year % 100 ≠ 0 || year % 400 = 0)

def daysToMonth (year : Int) : List Int :=
  if isLeapYear year then [0, 31, 60, 91, 121, 152, 182, 213, 244, 274, 305, 335, 366]
  else [0, 31, 59, 90, 120, 151, 181, 212, 243, 273, 304, 334, 365]

-- The ticks of new DateTime; none is an argument out of its range.
def dateTimeTicks (year month day hour minute second : Int) : Option Int :=
  let before := (daysToMonth year).getD (month.toNat - 1) 0
  let behind := (daysToMonth year).getD month.toNat 0
  let y := year - 1
  if 1 ≤ year ∧ year ≤ 9999 ∧ 1 ≤ month ∧ month ≤ 12 ∧ 1 ≤ day ∧ day ≤ behind - before ∧
      0 ≤ hour ∧ hour < 24 ∧ 0 ≤ minute ∧ minute < 60 ∧ 0 ≤ second ∧ second < 60 then
    some ((y * 365 + y / 4 - y / 100 + y / 400 + before + (day - 1)) * 864000000000 +
      (hour * 3600 + minute * 60 + second) * 10000000)
  else none

-- NsTime.FromDateTime; the product is one of 64 bits.
def fromDateTime (ticks : Int) : NsTime := ⟨Int64.ofInt ((ticks - 621355968000000000) * 100)⟩

def parseSeedLinkTime (s : Text) : NsTime :=
  match s.splitOnP fun c => c = ',' with
  | yearStr :: monthStr :: dayStr :: time =>
      let field (i : Nat) : Option Int := time[i]?.elim (some 0) tryParseInt
      let ticks := do
        let year ← tryParseInt yearStr
        let month ← tryParseInt monthStr
        let day ← tryParseInt dayStr
        let hour ← field 0
        let minute ← field 1
        let second ← field 2
        dateTimeTicks year month day hour minute second
      ticks.elim NsTime.error fromDateTime
  | _ => NsTime.error

example : (parseSeedLinkTime "1970,01,02,00,00,01".toList).value = 86401000000000 ∧
    parseSeedLinkTime "2026,02,29".toList = NsTime.error := by
  decide +kernel

-- LLCCC becomes LL_C_C_C and CCC becomes ??_C_C_C.
def convertV3Selector (sel : Text) : Option Text :=
  let negate := sel.head? = some '!'
  let sign : Text := if negate then ['!'] else []
  let s := (if negate then sel.tail else sel).takeWhile (· ≠ '.')
  match s with
  | [l, m, c, d, e] => some (sign ++ [l, m, '_', c, '_', d, '_', e])
  | [c, d, e] => some (sign ++ ['?', '?', '_', c, '_', d, '_', e])
  | _ => if '*' ∈ s ∨ '?' ∈ s then some (sign ++ s) else none

def translated (text : Text) : Text :=
  text.flatMap fun c => if c = '?' then ['.'] else if c = '*' then ['.', '*'] else [c]

def buildStreamRegex (staid selector : Option Text) : Text :=
  let station := staid.elim ".*".toList translated
  let channel := selector.elim ".*".toList fun selector =>
    translated (if selector.head? = some '!' then selector.tail else selector)
  "^(?:FDSN:)?".toList ++ (station ++ '_' :: (channel ++ "(?:/MSEED)?[23]?$".toList))

def buildMultiStationRegex (stations : List Text) : Text :=
  ['|'].intercalate (stations.map fun staid => buildStreamRegex (some staid) none)

theorem hex_digit_letter (d : Nat) (small : d < 16) : hexDigit ("0123456789ABCDEF".toList.getD d '0') = some d := by
  have all : (List.range 16).all (fun d => hexDigit ("0123456789ABCDEF".toList.getD d '0') = some d) = true := by decide
  exact of_decide_eq_true (List.all_eq_true.mp all d (List.mem_range.mpr small))

theorem hex_value_hex6 (n : Nat) : hexValue (hex6 n) = n % 2 ^ 24 := by
  have digit (m : Nat) := hex_digit_letter (m % 16) (Nat.mod_lt m (by decide))
  simp only [hexValue, hex6, List.map_cons, List.map_nil, List.foldl_cons, List.foldl_nil, digit, Option.getD_some]
  omega

end RingServer.SeedLink
