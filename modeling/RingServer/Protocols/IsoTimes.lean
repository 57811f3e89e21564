import RingServer.Library.Stamp
import RingServer.Protocols.InfoFaithful
import RingServer.Protocols.SeedLinkTimeOrder

set_option autoImplicit false

namespace RingServer

open Library SeedLink

-- UnixEpoch.AddTicks, which stays inside the years of DateTime; the division of the source
-- drops the rest towards zero.
def NsTime.toDateTime (t : NsTime) : Int := 621355968000000000 + t.value.toInt.tdiv 100

-- The year of a day from the first of January of the year 1 on, and the day in that year from
-- 0 on. The last day of 400 years and the last one of 4 years end the year before them.
def yearAndDay (days : Int) : Int × Int :=
  let y100 := min (days % 146097 / 36524) 3
  let rest := days % 146097 - y100 * 36524
  let y1 := min (rest % 1461 / 365) 3
  (days / 146097 * 400 + y100 * 100 + rest / 1461 * 4 + y1 + 1, rest % 1461 - y1 * 365)

def monthOfDay (year day : Int) : Nat := (daysToMonth year).tail.findIdx fun behind => day < behind

-- Year, Month, Day, Hour, Minute and Second of a DateTime.
def calendarTime (ticks : Int) : CalendarTime :=
  let (year, day) := yearAndDay (ticks / 864000000000)
  let month := monthOfDay year day
  ⟨year, month + 1, day - (daysToMonth year).getD month 0 + 1, ticks / 36000000000 % 24, ticks / 600000000 % 60, ticks / 10000000 % 60⟩

-- The format yyyy-MM-ddTHH:mm:ss.ffffff, as the invariant culture writes it.
def isoLayout : List (Nat × Char) := [(4, '-'), (2, '-'), (2, 'T'), (2, ':'), (2, ':'), (2, '.')]

def isoFields (ticks : Int) : List Nat := (calendarTime ticks).fields.map Int.toNat

def isoFraction (ticks : Int) : Nat := (ticks % 10000000 / 10).toNat

def dateTimeText (value : Int64) : Text :=
  let ticks := NsTime.toDateTime ⟨value⟩
  stamp isoLayout (isoFields ticks) ++ digits 6 (isoFraction ticks)

def NsTime.IsTime (t : NsTime) : Prop := t ≠ NsTime.unset ∧ t ≠ NsTime.error

instance (t : NsTime) : Decidable t.IsTime := inferInstanceAs (Decidable (_ ∧ _))

def NsTime.microsecond (t : NsTime) : Int := t.toDateTime / 10 - 62135596800000000

def NsTime.second (t : NsTime) : Int := t.toDateTime / 10000000 - 62135596800

def NsTime.isoText (t : NsTime) : Text := stamp isoLayout (isoFields t.toDateTime) ++ (digits 6 (isoFraction t.toDateTime) ++ ['Z'])

def readIso (text : Text) : Option Int :=
  match (numerals text).map numeral with
  | [year, month, day, hour, minute, second, micro] =>
      (dateTimeTicks year month day hour minute second).map fun ticks => (ticks - 621355968000000000) / 10 + micro
  | _ => none

def timeArgument (text : Text) : Text := [','].intercalate ((numerals text).take 6)

example : dateTimeText 1709210096789012345 = "2024-02-29T12:34:56.789012".toList := by decide +kernel

theorem year_start_of (y400 y100 y4 y1 : Int) (inCentury : 0 ≤ y100 ∧ y100 ≤ 3) (inFour : 0 ≤ y4 ∧ y4 ≤ 24) (inYear : 0 ≤ y1 ∧ y1 ≤ 3) :
    yearStart (y400 * 400 + y100 * 100 + y4 * 4 + y1 + 1) = y400 * 146097 + y100 * 36524 + y4 * 1461 + y1 * 365 := by
  have fours : (y400 * 400 + y100 * 100 + y4 * 4 + y1 + 1 - 1) / 4 = y400 * 100 + y100 * 25 + y4 := by omega
  have hundreds : (y400 * 400 + y100 * 100 + y4 * 4 + y1 + 1 - 1) / 100 = y400 * 4 + y100 := by omega
  have fourHundreds : (y400 * 400 + y100 * 100 + y4 * 4 + y1 + 1 - 1) / 400 = y400 := by omega
  rw [yearStart, fours, hundreds, fourHundreds]
  omega

theorem year_length_of (y400 y100 y4 y1 : Int) (inCentury : 0 ≤ y100 ∧ y100 ≤ 3) (inFour : 0 ≤ y4 ∧ y4 ≤ 24) (inYear : 0 ≤ y1 ∧ y1 ≤ 3) :
    (daysToMonth (y400 * 400 + y100 * 100 + y4 * 4 + y1 + 1)).getD 12 0 = if y1 = 3 ∧ (y4 ≠ 24 ∨ y100 = 3) then 366 else 365 := by
  have leap : isLeapYear (y400 * 400 + y100 * 100 + y4 * 4 + y1 + 1) = true ↔ y1 = 3 ∧ (y4 ≠ 24 ∨ y100 = 3) := by
    rw [isLeapYear]
    simp only [Bool.and_eq_true, Bool.or_eq_true, decide_eq_true_eq]
    omega
  rw [daysToMonth]
  by_cases last : y1 = 3 ∧ (y4 ≠ 24 ∨ y100 = 3)
  · rw [if_pos (leap.mpr last), if_pos last]
    rfl
  · rw [if_neg (mt leap.mp last), if_neg last]
    rfl

theorem year_and_day (days : Int) :
    yearStart (yearAndDay days).1 + (yearAndDay days).2 = days ∧ 0 ≤ (yearAndDay days).2 ∧
      (yearAndDay days).2 < (daysToMonth (yearAndDay days).1).getD 12 0 := by
  rw [yearAndDay]
  dsimp only
  have inCentury : 0 ≤ min (days % 146097 / 36524) 3 ∧ min (days % 146097 / 36524) 3 ≤ 3 := by omega
  have left : 0 ≤ days % 146097 - min (days % 146097 / 36524) 3 * 36524 ∧
      (days % 146097 - min (days % 146097 / 36524) 3 * 36524 < 36524 ∨ min (days % 146097 / 36524) 3 = 3 ∧
        days % 146097 - min (days % 146097 / 36524) 3 * 36524 = 36524) := by omega
  generalize restIs : days % 146097 - min (days % 146097 / 36524) 3 * 36524 = rest at *
  generalize min (days % 146097 / 36524) 3 = y100 at *
  have inFour : 0 ≤ rest / 1461 ∧ rest / 1461 ≤ 24 := by omega
  have inYear : 0 ≤ min (rest % 1461 / 365) 3 ∧ min (rest % 1461 / 365) 3 ≤ 3 := by omega
  rw [year_start_of _ _ _ _ inCentury inFour inYear, year_length_of _ _ _ _ inCentury inFour inYear]
  refine ⟨by omega, by omega, ?_⟩
  split
  · omega
  · omega

theorem month_of_day (year day : Int) (low : 0 ≤ day) (high : day < (daysToMonth year).getD 12 0) :
    monthOfDay year day < 12 ∧ (daysToMonth year).getD (monthOfDay year day) 0 ≤ day ∧
      day < (daysToMonth year).getD (monthOfDay year day + 1) 0 := by
  have length : (daysToMonth year).tail.length = 12 := by rw [List.length_tail, months_length]
  have at_ (k : Nat) (inside : k < (daysToMonth year).tail.length) : (daysToMonth year).tail[k] = (daysToMonth year).getD (k + 1) 0 := by
    rw [List.getElem_tail, List.getElem_eq_getD 0]
  have exists_ : ∃ behind ∈ (daysToMonth year).tail, decide (day < behind) = true := by
    refine ⟨(daysToMonth year).tail[11], List.getElem_mem _, decide_eq_true ?_⟩
    rw [at_ 11 (by omega)]
    exact high
  have inside := List.findIdx_lt_length_of_exists exists_
  have found := of_decide_eq_true (List.findIdx_getElem (w := inside))
  rw [at_ _ inside] at found
  refine ⟨by rw [monthOfDay]; omega, ?_, found⟩
  cases isMonth : monthOfDay year day with
  | zero =>
      have first : (daysToMonth year).getD 0 0 = 0 := by
        rw [daysToMonth]
        split <;> rfl
      rw [first]
      exact low
  | succ month =>
      have before : month < (daysToMonth year).tail.findIdx fun behind => day < behind := by
        rw [monthOfDay] at isMonth
        omega
      have notYet := of_decide_eq_false (List.not_of_lt_findIdx before)
      rw [at_ _ (by omega)] at notYet
      omega

theorem calendar_time_ticks (ticks : Int) (low : 0 ≤ ticks) (high : ticks < 3155378976000000000) :
    (calendarTime ticks).ticks = some (ticks / 10000000 * 10000000) := by
  obtain ⟨days, isLow, isHigh⟩ := year_and_day (ticks / 864000000000)
  obtain ⟨month, from_, until_⟩ := month_of_day _ _ isLow isHigh
  have year : 1 ≤ (yearAndDay (ticks / 864000000000)).1 ∧ (yearAndDay (ticks / 864000000000)).1 ≤ 9999 := by
    have next := year_end (yearAndDay (ticks / 864000000000)).1
    rw [yearStart] at days
    rw [yearStart, yearStart] at next
    omega
  rw [ticks_some, calendarTime]
  dsimp only
  generalize yearAndDay (ticks / 864000000000) = date at *
  obtain ⟨year_, day⟩ := date
  dsimp only at *
  generalize monthOfDay year_ day = m at *
  have index : ((m : Int) + 1).toNat - 1 = m ∧ ((m : Int) + 1).toNat = m + 1 := by omega
  have inYear : 1 ≤ (m : Int) + 1 ∧ (m : Int) + 1 ≤ 12 := by omega
  have hour : 0 ≤ ticks / 36000000000 % 24 ∧ ticks / 36000000000 % 24 < 24 := by omega
  have minute : 0 ≤ ticks / 600000000 % 60 ∧ ticks / 600000000 % 60 < 60 := by omega
  have second : 0 ≤ ticks / 10000000 % 60 ∧ ticks / 10000000 % 60 < 60 := by omega
  refine ⟨⟨year, inYear, ?_, hour, minute, second⟩, ?_⟩
  · rw [monthEnd, monthStart, index.1, index.2]
    dsimp only
    omega
  · rw [CalendarTime.dayNumber, CalendarTime.secondOfDay]
    dsimp only
    rw [monthStart, index.1]
    omega

theorem month_length (year month : Int) (first : 1 ≤ month) (last : month ≤ 12) :
    monthEnd year month - monthStart year month ≤ 31 := by
  have all : ∀ i < 12, (daysToMonth year).getD (i + 1) 0 - (daysToMonth year).getD i 0 ≤ 31 := by
    rw [daysToMonth]
    split <;> decide
  have bound := all (month.toNat - 1) (by omega)
  rwa [show month.toNat - 1 + 1 = month.toNat by omega] at bound

theorem fields_fit (time : CalendarTime) (valid : time.Valid) : FitsLayout isoLayout (time.fields.map Int.toNat) := by
  have day := valid.day
  have length := month_length time.year time.month valid.month.1 valid.month.2
  refine .cons 4 _ '-' _ _ (by decide) ?_ rfl ?_
  · have year := valid.year
    omega
  refine .cons 2 _ '-' _ _ (by decide) ?_ rfl ?_
  · have month := valid.month
    omega
  refine .cons 2 _ 'T' _ _ (by decide) (by omega) rfl ?_
  refine .cons 2 _ ':' _ _ (by decide) ?_ rfl ?_
  · have hour := valid.hour
    omega
  refine .cons 2 _ ':' _ _ (by decide) ?_ rfl ?_
  · have minute := valid.minute
    omega
  refine .cons 2 _ '.' _ _ (by decide) ?_ rfl .nil
  have second := valid.second
  omega

theorem fields_before (a b : CalendarTime) (valid : a.Valid) (valid' : b.Valid) :
    (a.fields.map Int.toNat < b.fields.map Int.toNat ↔ a.Before b) ∧ (a.fields.map Int.toNat = b.fields.map Int.toNat ↔ a = b) := by
  obtain ⟨year, month, day, hour, minute, second⟩ := valid
  obtain ⟨year', month', day', hour', minute', second'⟩ := valid'
  rw [before_lex]
  rcases a with ⟨y, mo, d, h, mi, s⟩
  rcases b with ⟨y', mo', d', h', mi', s'⟩
  dsimp only at *
  simp only [CalendarTime.fields, List.map_cons, List.map_nil, List.cons_lt_cons_iff, List.not_lt_nil, and_false, or_false,
    List.cons.injEq, and_true, CalendarTime.mk.injEq]
  constructor
  · omega
  · omega

theorem to_date_time_range (t : NsTime) : 0 ≤ t.toDateTime ∧ t.toDateTime < 3155378976000000000 := by
  have low := t.value.le_toInt
  have high := t.value.toInt_lt
  rw [NsTime.toDateTime, tdiv_split]
  omega

theorem calendar_valid (t : NsTime) : (calendarTime t.toDateTime).Valid :=
  ((ticks_some _ _).mp (calendar_time_ticks t.toDateTime (to_date_time_range t).1 (to_date_time_range t).2)).1

theorem iso_text (formats : Formats) (invariant : formats.dateTime = dateTimeText) (t : NsTime) (isTime : t.IsTime) :
    DataLink.iso formats t = t.isoText := by
  rw [DataLink.iso, if_neg isTime.1, NsTime.toIsoString, if_neg isTime.1, if_neg isTime.2, invariant, dateTimeText, NsTime.isoText,
    List.append_assoc]

theorem iso_numerals (t : NsTime) :
    numerals t.isoText =
      isoLayout.zipWith (fun field value => digits field.1 value) (isoFields t.toDateTime) ++ [digits 6 (isoFraction t.toDateTime)] := by
  have last := numerals_digits 6 (isoFraction t.toDateTime) (by decide)
  rw [NsTime.isoText, isoFields, numerals_stamp _ _ (fields_fit _ (calendar_valid t))]
  rw [numerals] at last ⊢
  rw [pieces_sep (fun c => !c.isDigit) _ [] 'Z' rfl, last]
  rfl

theorem valid_naturals (time : CalendarTime) (valid : time.Valid) :
    ∃ year month day hour minute second : Nat, time = ⟨year, month, day, hour, minute, second⟩ := by
  obtain ⟨year, month, day, hour, minute, second⟩ := valid
  rcases time with ⟨y, mo, d, h, mi, s⟩
  dsimp only at *
  obtain ⟨y, rfl⟩ := Int.eq_ofNat_of_zero_le (show 0 ≤ y by omega)
  obtain ⟨mo, rfl⟩ := Int.eq_ofNat_of_zero_le (show 0 ≤ mo by omega)
  obtain ⟨d, rfl⟩ := Int.eq_ofNat_of_zero_le (show 0 ≤ d by omega)
  obtain ⟨h, rfl⟩ := Int.eq_ofNat_of_zero_le hour.1
  obtain ⟨mi, rfl⟩ := Int.eq_ofNat_of_zero_le minute.1
  obtain ⟨s, rfl⟩ := Int.eq_ofNat_of_zero_le second.1
  exact ⟨y, mo, d, h, mi, s, rfl⟩

theorem iso_reads (t : NsTime) : readIso t.isoText = some t.microsecond := by
  have valid := calendar_valid t
  have values := stamp_values isoLayout _ (fields_fit _ valid)
  have ticks := calendar_time_ticks t.toDateTime (to_date_time_range t).1 (to_date_time_range t).2
  have fraction : numeral (digits 6 (isoFraction t.toDateTime)) = isoFraction t.toDateTime := by
    rw [numeral_digits, Nat.mod_eq_of_lt]
    rw [isoFraction]
    omega
  rw [readIso, iso_numerals, List.map_append, isoFields, values, List.map_singleton, fraction]
  obtain ⟨year, month, day, hour, minute, second, isTime⟩ := valid_naturals _ valid
  rw [isTime] at ticks ⊢
  rw [CalendarTime.ticks] at ticks
  show (dateTimeTicks year month day hour minute second).map _ = _
  rw [ticks, Option.map_some, NsTime.microsecond, isoFraction]
  congr 1
  omega

theorem parse_field (width value : Nat) (some : width ≠ 0) (room : value < 10 ^ width) (int : value < 2 ^ 31) :
    tryParseInt (digits width value) = Option.some (value : Int) := by
  have text : digits width value ≠ [] := by
    intro none
    exact some ((digits_length width value).symm.trans (congrArg List.length none))
  have number : Nat.ofDigitChars 10 (digits width value) 0 = value := (numeral_digits width value).trans (Nat.mod_eq_of_lt room)
  have parsed := parse_digits (-2 ^ 31) (2 ^ 31 - 1) _ text (digits_digits width value)
  rw [number] at parsed
  exact parsed (by omega) (by omega)

theorem parse_fields (layout : List (Nat × Char)) (values : List Nat) (fits : FitsLayout layout values)
    (narrow : ∀ field ∈ layout, field.1 ≤ 9) :
    (layout.zipWith (fun field value => digits field.1 value) values).map tryParseInt =
      values.map fun value : Nat => some (value : Int) := by
  induction fits with
  | nil => rfl
  | cons width value sep layout values some room apart rest ih =>
      have unit : 10 ^ width ≤ 10 ^ 9 := Nat.pow_le_pow_right (by decide) (narrow _ List.mem_cons_self)
      have others := ih fun field member => narrow field (List.mem_cons_of_mem _ member)
      rw [List.zipWith_cons_cons, List.map_cons, List.map_cons, others, parse_field width value some room (by omega)]

theorem written_fields (yearStr monthStr dayStr hourStr minuteStr secondStr : Text) (time : CalendarTime)
    (plain : ∀ field ∈ [yearStr, monthStr, dayStr, hourStr, minuteStr, secondStr], ',' ∉ field)
    (parsed : [yearStr, monthStr, dayStr, hourStr, minuteStr, secondStr].map tryParseInt = time.fields.map some) :
    written ([','].intercalate [yearStr, monthStr, dayStr, hourStr, minuteStr, secondStr]) = some time := by
  have split : ([','].intercalate [yearStr, monthStr, dayStr, hourStr, minuteStr, secondStr]).splitOnP (fun c => c = ',') =
      [yearStr, monthStr, dayStr, hourStr, minuteStr, secondStr] := List.splitOn_intercalate ',' plain (List.cons_ne_nil _ _)
  simp only [CalendarTime.fields, List.map_cons, List.map_nil, List.cons.injEq, and_true] at parsed
  obtain ⟨isYear, isMonth, isDay, isHour, isMinute, isSecond⟩ := parsed
  rw [written.eq_def, split]
  show ((tryParseInt yearStr).bind fun year => (tryParseInt monthStr).bind fun month => (tryParseInt dayStr).bind fun day =>
    (tryParseInt hourStr).bind fun hour => (tryParseInt minuteStr).bind fun minute => (tryParseInt secondStr).bind fun second =>
      some (⟨year, month, day, hour, minute, second⟩ : CalendarTime)) = _
  rw [isYear, isMonth, isDay, isHour, isMinute, isSecond]
  rfl

theorem iso_written (t : NsTime) : written (timeArgument t.isoText) = some (calendarTime t.toDateTime) := by
  have valid := calendar_valid t
  have parsed := parse_fields isoLayout _ (fields_fit _ valid) (by decide)
  rw [timeArgument, iso_numerals, isoFields]
  obtain ⟨year, month, day, hour, minute, second, isTime⟩ := valid_naturals _ valid
  rw [isTime] at parsed ⊢
  have digit (width value : Nat) : ',' ∉ digits width value := fun member => absurd (digits_digits width value ',' member) (by decide)
  refine written_fields (digits 4 year) (digits 2 month) (digits 2 day) (digits 2 hour) (digits 2 minute) (digits 2 second) _ ?_ parsed
  simp only [List.mem_cons, List.not_mem_nil, or_false, forall_eq_or_imp, forall_eq]
  exact ⟨digit _ _, digit _ _, digit _ _, digit _ _, digit _ _, digit _ _⟩

theorem second_le (t : NsTime) : t.second ≤ 9223372036 := by
  have high := t.value.toInt_lt
  rw [NsTime.second, NsTime.toDateTime, tdiv_split]
  omega

theorem iso_asks (t : NsTime) :
    (parseSeedLinkTime (timeArgument t.isoText)).value.toInt = t.second * 1000000000 ↔ -9223372036 ≤ t.second := by
  have ticks := calendar_time_ticks t.toDateTime (to_date_time_range t).1 (to_date_time_range t).2
  have high := second_le t
  have nanoseconds : (t.toDateTime / 10000000 * 10000000 - 621355968000000000) * 100 = t.second * 1000000000 := by
    rw [NsTime.second]
    omega
  rw [parse_written, iso_written, Option.bind_some, ticks, Option.elim_some]
  constructor
  · intro same
    have low := (fromDateTime (t.toDateTime / 10000000 * 10000000)).value.le_toInt
    omega
  · intro low
    rw [from_date_time_exact _ (by omega) (by omega), nanoseconds]

theorem fraction_room (t : NsTime) : isoFraction t.toDateTime < 10 ^ 6 := by
  rw [isoFraction]
  omega

theorem iso_sorts (s t : NsTime) :
    (s.isoText < t.isoText ↔ s.microsecond < t.microsecond) ∧ (s.isoText = t.isoText ↔ s.microsecond = t.microsecond) := by
  have fits := fields_fit _ (calendar_valid s)
  have fits' := fields_fit _ (calendar_valid t)
  obtain ⟨fieldsLess, fieldsSame⟩ := fields_before _ _ (calendar_valid s) (calendar_valid t)
  obtain ⟨less, same⟩ := ticks_order _ _ _ _ (calendar_time_ticks s.toDateTime (to_date_time_range s).1 (to_date_time_range s).2)
    (calendar_time_ticks t.toDateTime (to_date_time_range t).1 (to_date_time_range t).2)
  have lengths : (digits 6 (isoFraction s.toDateTime)).length = (digits 6 (isoFraction t.toDateTime)).length := by
    rw [digits_length, digits_length]
  have irrefl : ¬ ['Z'] < ['Z'] := List.lt_irrefl _
  rw [NsTime.isoText, NsTime.isoText, isoFields, isoFields, stamp_lt _ _ _ fits fits', stamp_inj _ _ _ fits fits', fieldsLess,
    fieldsSame, ← less, ← same, append_lt_append_iff _ _ _ _ lengths, List.append_left_inj, digits_lt,
    digits_inj 6 _ _ (fraction_room s) (fraction_room t), Nat.mod_eq_of_lt (fraction_room s), Nat.mod_eq_of_lt (fraction_room t),
    isoFraction, isoFraction, NsTime.microsecond, NsTime.microsecond]
  simp only [irrefl, and_false, or_false]
  constructor
  · omega
  · omega

-- What a client reads is the time, cut to a microsecond; and the server reads its own time
-- back from TIME, cut to a second, where that second is in 64 bits.
structure ReadsBack (text : Text) (t : NsTime) : Prop where
  reads : readIso text = if t.IsTime then some t.microsecond else none
  near : -100 < t.value.toInt - t.microsecond * 1000 ∧ t.value.toInt - t.microsecond * 1000 < 1000
  asks : t.IsTime → ((parseSeedLinkTime (timeArgument text)).value.toInt = t.second * 1000000000 ↔ -9223372036 ≤ t.second)

structure SortsAs (text text' : Text) (s t : NsTime) : Prop where
  before : text < text' ↔ s.microsecond < t.microsecond
  same : text = text' ↔ s.microsecond = t.microsecond
  ascends : s.value ≤ t.value → s.microsecond ≤ t.microsecond

theorem microsecond_near (t : NsTime) :
    -100 < t.value.toInt - t.microsecond * 1000 ∧ t.value.toInt - t.microsecond * 1000 < 1000 := by
  rw [NsTime.microsecond, NsTime.toDateTime, tdiv_split]
  omega

theorem microsecond_ascends (s t : NsTime) (notAfter : s.value ≤ t.value) : s.microsecond ≤ t.microsecond := by
  have ticks := Int.tdiv_le_tdiv (c := 100) (by decide) (Int64.le_iff_toInt_le.mp notAfter)
  rw [NsTime.microsecond, NsTime.microsecond, NsTime.toDateTime, NsTime.toDateTime]
  omega

theorem date_time_verbatim (value : Int64) : Xml.Verbatim (dateTimeText value) := by
  rw [dateTimeText]
  refine Xml.verbatim_append _ _ ?_ (verbatim_digits _ (digits_digits _ _))
  have separators : (isoLayout.map Prod.snd).all (fun c => Xml.isPrintable c && !Xml.isMarkup c) = true := by decide +kernel
  rw [Xml.Verbatim, List.all_eq_true]
  intro c member
  rcases stamp_members _ _ c member with digit | sep
  · have alone := verbatim_digits [c] fun d inside => List.mem_singleton.mp inside ▸ digit
    exact List.all_eq_true.mp alone c (List.mem_singleton.mpr rfl)
  · exact List.all_eq_true.mp separators c sep

def invariantFormats : Formats := { Listing.zeroFormats with dateTime := dateTimeText, dateTimeVerbatim := date_time_verbatim }

end RingServer
