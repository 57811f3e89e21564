import RingServer.Protocols.SeedLinkTimes

set_option autoImplicit false

namespace RingServer.SeedLink

open Library

structure CalendarTime where
  year : Int
  month : Int
  day : Int
  hour : Int
  minute : Int
  second : Int
deriving DecidableEq

def CalendarTime.fields (time : CalendarTime) : List Int :=
  [time.year, time.month, time.day, time.hour, time.minute, time.second]

def CalendarTime.Before (a b : CalendarTime) : Prop := a.fields < b.fields

instance (a b : CalendarTime) : Decidable (a.Before b) := inferInstanceAs (Decidable (a.fields < b.fields))

def CalendarTime.ticks (time : CalendarTime) : Option Int :=
  dateTimeTicks time.year time.month time.day time.hour time.minute time.second

def CalendarTime.nanoseconds (time : CalendarTime) : Option Int := time.ticks.map fun ticks => (ticks - 621355968000000000) * 100

-- The time that a string names; what stands behind the seconds is not read.
def written (s : Text) : Option CalendarTime :=
  match s.splitOnP fun c => c = ',' with
  | yearStr :: monthStr :: dayStr :: time =>
      let field (i : Nat) : Option Int := time[i]?.elim (some 0) tryParseInt
      do
        let year ← tryParseInt yearStr
        let month ← tryParseInt monthStr
        let day ← tryParseInt dayStr
        let hour ← field 0
        let minute ← field 1
        let second ← field 2
        some ⟨year, month, day, hour, minute, second⟩
  | _ => none

structure Accepted (s : Text) (time : CalendarTime) : Prop where
  names : written s = some time
  accepts : parseSeedLinkTime s ≠ NsTime.error

structure Shows (result : NsTime) (time : CalendarTime) : Prop where
  exact : time.nanoseconds = some result.value.toInt
  set : result ≠ NsTime.unset
  valid : result ≠ NsTime.error

-- window is for a TIME command from s to t: an end that is Unset is an open one.
structure InOrder (s t : Text) (a b : CalendarTime) : Prop where
  earlier : (parseSeedLinkTime s).value < (parseSeedLinkTime t).value ↔ a.Before b
  same : parseSeedLinkTime s = parseSeedLinkTime t ↔ a = b
  first : Shows (parseSeedLinkTime s) a
  second : Shows (parseSeedLinkTime t) b
  window : a.Before b → (parseSeedLinkTime s).value < (parseSeedLinkTime t).value ∧ parseSeedLinkTime t ≠ NsTime.unset

-- The whole seconds that 64 bits of nanoseconds have room for.
def earliestTime : CalendarTime := ⟨1677, 9, 21, 0, 12, 44⟩

def latestTime : CalendarTime := ⟨2262, 4, 11, 23, 47, 16⟩

def InRange (time : CalendarTime) : Prop := ¬ time.Before earliestTime ∧ ¬ latestTime.Before time

theorem parse_written (s : Text) :
    parseSeedLinkTime s = ((written s).bind CalendarTime.ticks).elim NsTime.error fromDateTime := by
  rw [parseSeedLinkTime.eq_def, written.eq_def]
  generalize s.splitOnP (fun c => c = ',') = parts
  rcases parts with _ | ⟨yearStr, _ | ⟨monthStr, _ | ⟨dayStr, time⟩⟩⟩
  · rfl
  · rfl
  · rfl
  · simp only [Option.bind_eq_bind, Option.bind_assoc]
    rfl

theorem before_lex (a b : CalendarTime) : a.Before b ↔ a.year < b.year ∨ a.year = b.year ∧ (a.month < b.month ∨ a.month = b.month ∧
    (a.day < b.day ∨ a.day = b.day ∧ (a.hour < b.hour ∨ a.hour = b.hour ∧ (a.minute < b.minute ∨ a.minute = b.minute ∧
      a.second < b.second)))) := by
  simp only [CalendarTime.Before, CalendarTime.fields, List.cons_lt_cons_iff, List.not_lt_nil, and_false, or_false]

theorem before_or (a b : CalendarTime) : a.Before b ∨ a = b ∨ b.Before a := by
  rw [before_lex, before_lex]
  rcases a with ⟨year, month, day, hour, minute, second⟩
  rcases b with ⟨year', month', day', hour', minute', second'⟩
  simp only [CalendarTime.mk.injEq]
  omega

def yearStart (year : Int) : Int := (year - 1) * 365 + (year - 1) / 4 - (year - 1) / 100 + (year - 1) / 400

def monthStart (year month : Int) : Int := (daysToMonth year).getD (month.toNat - 1) 0

def monthEnd (year month : Int) : Int := (daysToMonth year).getD month.toNat 0

def CalendarTime.dayNumber (time : CalendarTime) : Int := yearStart time.year + monthStart time.year time.month + (time.day - 1)

def CalendarTime.secondOfDay (time : CalendarTime) : Int := time.hour * 3600 + time.minute * 60 + time.second

structure CalendarTime.Valid (time : CalendarTime) : Prop where
  year : 1 ≤ time.year ∧ time.year ≤ 9999
  month : 1 ≤ time.month ∧ time.month ≤ 12
  day : 1 ≤ time.day ∧ time.day ≤ monthEnd time.year time.month - monthStart time.year time.month
  hour : 0 ≤ time.hour ∧ time.hour < 24
  minute : 0 ≤ time.minute ∧ time.minute < 60
  second : 0 ≤ time.second ∧ time.second < 60

theorem ticks_some (time : CalendarTime) (ticks : Int) :
    time.ticks = some ticks ↔ time.Valid ∧ ticks = time.dayNumber * 864000000000 + time.secondOfDay * 10000000 := by
  rw [CalendarTime.ticks, dateTimeTicks]
  constructor
  · intro given
    split at given
    · next valid =>
      obtain ⟨year, year', month, month', day, day', hour, hour', minute, minute', second, second'⟩ := valid
      exact ⟨⟨⟨year, year'⟩, ⟨month, month'⟩, ⟨day, day'⟩, ⟨hour, hour'⟩, ⟨minute, minute'⟩, ⟨second, second'⟩⟩,
        (Option.some.inj given).symm⟩
    · cases given
  · rintro ⟨valid, rfl⟩
    exact if_pos ⟨valid.year.1, valid.year.2, valid.month.1, valid.month.2, valid.day.1, valid.day.2, valid.hour.1, valid.hour.2,
      valid.minute.1, valid.minute.2, valid.second.1, valid.second.2⟩

theorem months_ascend (year : Int) : (daysToMonth year).Pairwise (· ≤ ·) := by
  rw [daysToMonth]
  split <;> decide

theorem months_length (year : Int) : (daysToMonth year).length = 13 := by
  rw [daysToMonth]
  split <;> rfl

theorem months_le (year : Int) (i j : Nat) (less : i ≤ j) (last : j ≤ 12) :
    (daysToMonth year).getD i 0 ≤ (daysToMonth year).getD j 0 := by
  have length := months_length year
  have at_ (k : Nat) (inside : k < (daysToMonth year).length) : (daysToMonth year).getD k 0 = (daysToMonth year)[k] :=
    (List.getElem_eq_getD 0).symm
  rw [at_ i (by omega), at_ j (by omega)]
  rcases Nat.eq_or_lt_of_le less with rfl | below
  · exact Int.le_refl _
  · exact List.pairwise_iff_getElem.mp (months_ascend year) i j (by omega) (by omega) below

theorem month_end_le_start (year month month' : Int) (first : 1 ≤ month) (less : month < month') (last : month' ≤ 12) :
    monthEnd year month ≤ monthStart year month' :=
  months_le year _ _ (by omega) (by omega)

theorem year_end (year : Int) : yearStart year + (daysToMonth year).getD 12 0 = yearStart (year + 1) := by
  rw [daysToMonth, yearStart, yearStart]
  by_cases leap : isLeapYear year = true
  · rw [if_pos leap]
    rw [isLeapYear] at leap
    simp only [Bool.and_eq_true, Bool.or_eq_true, decide_eq_true_eq] at leap
    show _ + (366 : Int) = _
    omega
  · rw [if_neg leap]
    rw [isLeapYear] at leap
    simp only [Bool.and_eq_true, Bool.or_eq_true, decide_eq_true_eq] at leap
    show _ + (365 : Int) = _
    omega

theorem month_bounds (year month : Int) (first : 1 ≤ month) (last : month ≤ 12) :
    0 ≤ monthStart year month ∧ yearStart year + monthEnd year month ≤ yearStart (year + 1) := by
  have start : (0 : Int) ≤ monthStart year month := (days_to_month_range year (month.toNat - 1)).1
  have behind : monthEnd year month ≤ (daysToMonth year).getD 12 0 := months_le year _ 12 (by omega) (by omega)
  have whole := year_end year
  omega

theorem year_starts (year year' : Int) (less : year < year') : yearStart (year + 1) ≤ yearStart year' := by
  rcases (show year' = year + 1 ∨ year + 2 ≤ year' by omega) with rfl | later
  · exact Int.le_refl _
  · rw [yearStart, yearStart]
    omega

theorem day_number_lt (a b : CalendarTime) (valid : a.Valid) (valid' : b.Valid)
    (less : a.year < b.year ∨ a.year = b.year ∧ (a.month < b.month ∨ a.month = b.month ∧ a.day < b.day)) :
    a.dayNumber < b.dayNumber := by
  have bounds := month_bounds a.year a.month valid.month.1 valid.month.2
  have bounds' := month_bounds b.year b.month valid'.month.1 valid'.month.2
  have day := valid.day.2
  have day' := valid'.day.1
  rw [CalendarTime.dayNumber, CalendarTime.dayNumber]
  rcases less with year | ⟨year, month | ⟨month, days⟩⟩
  · have years := year_starts a.year b.year year
    omega
  · have months := month_end_le_start a.year a.month b.month valid.month.1 month valid'.month.2
    rw [← year]
    omega
  · rw [year, month]
    omega

theorem ticks_lt (a b : CalendarTime) (ticks ticks' : Int) (given : a.ticks = some ticks) (given' : b.ticks = some ticks')
    (less : a.Before b) : ticks < ticks' := by
  obtain ⟨valid, rfl⟩ := (ticks_some a ticks).mp given
  obtain ⟨valid', rfl⟩ := (ticks_some b ticks').mp given'
  have hour := valid.hour
  have minute := valid.minute
  have second := valid.second
  have hour' := valid'.hour
  have minute' := valid'.minute
  have second' := valid'.second
  have days := day_number_lt a b valid valid'
  rw [before_lex] at less
  rw [CalendarTime.secondOfDay, CalendarTime.secondOfDay]
  by_cases day : a.year < b.year ∨ a.year = b.year ∧ (a.month < b.month ∨ a.month = b.month ∧ a.day < b.day)
  · have apart := days day
    omega
  · obtain ⟨year, month, sameDay, clock⟩ : a.year = b.year ∧ a.month = b.month ∧ a.day = b.day ∧ (a.hour < b.hour ∨
        a.hour = b.hour ∧ (a.minute < b.minute ∨ a.minute = b.minute ∧ a.second < b.second)) := by omega
    have same : a.dayNumber = b.dayNumber := by
      rw [CalendarTime.dayNumber, CalendarTime.dayNumber, year, month, sameDay]
    rw [same]
    omega

theorem ticks_order (a b : CalendarTime) (ticks ticks' : Int) (given : a.ticks = some ticks) (given' : b.ticks = some ticks') :
    (ticks < ticks' ↔ a.Before b) ∧ (ticks = ticks' ↔ a = b) := by
  rcases before_or a b with before | rfl | after
  · have less := ticks_lt a b ticks ticks' given given' before
    refine ⟨iff_of_true less before, iff_of_false (by omega) ?_⟩
    rintro rfl
    rw [given] at given'
    exact absurd (Option.some.inj given') (by omega)
  · rw [given] at given'
    obtain rfl := Option.some.inj given'
    exact ⟨iff_of_false (Int.lt_irrefl _) (fun self => List.lt_irrefl _ self), iff_of_true rfl rfl⟩
  · have more := ticks_lt b a ticks' ticks given' given after
    refine ⟨iff_of_false (by omega) fun before => ?_, iff_of_false (by omega) ?_⟩
    · exact absurd (ticks_lt a b ticks ticks' given given' before) (by omega)
    · rintro rfl
      rw [given] at given'
      exact absurd (Option.some.inj given') (by omega)

theorem accepted_ticks (s : Text) (time : CalendarTime) (accepted : Accepted s time) :
    ∃ ticks, time.ticks = some ticks ∧ parseSeedLinkTime s = fromDateTime ticks := by
  have accepts := accepted.accepts
  rw [parse_written, accepted.names, Option.bind_some] at accepts ⊢
  cases given : time.ticks with
  | none =>
      rw [given] at accepts
      exact absurd rfl accepts
  | some ticks => exact ⟨ticks, rfl, rfl⟩

theorem from_date_time_valid (ticks : Int) : fromDateTime ticks ≠ NsTime.error := by
  intro same
  have value := congrArg Int64.toInt (congrArg NsTime.value same)
  have error : (Int64.minValue + 1).toInt = -9223372036854775807 := by decide
  have size : (Int64.size : Int) = 18446744073709551616 := rfl
  rw [fromDateTime, NsTime.error, Int64.toInt_ofInt, error, Int.bmod_def, size] at value
  have even : (ticks - 621355968000000000) * 100 % 18446744073709551616 % 2 = 0 := by
    rw [Int.emod_emod_of_dvd _ (by decide)]
    omega
  split at value
  · omega
  · omega

theorem from_date_time_exact (ticks : Int) (low : -2 ^ 63 ≤ (ticks - 621355968000000000) * 100)
    (high : (ticks - 621355968000000000) * 100 < 2 ^ 63) :
    (fromDateTime ticks).value.toInt = (ticks - 621355968000000000) * 100 := by
  rw [fromDateTime, Int64.toInt_ofInt]
  generalize (ticks - 621355968000000000) * 100 = n at *
  exact Int.bmod_eq_of_le (by rw [Int64.size]; omega) (by rw [Int64.size]; omega)

theorem in_range_iff (time : CalendarTime) (ticks : Int) (given : time.ticks = some ticks) :
    InRange time ↔ -2 ^ 63 ≤ (ticks - 621355968000000000) * 100 ∧ (ticks - 621355968000000000) * 100 < 2 ^ 63 := by
  have earliest : earliestTime.ticks = some 529122247640000000 := by decide
  have latest : latestTime.ticks = some 713589688360000000 := by decide
  obtain ⟨-, -, seconds⟩ := date_time_range _ _ _ _ _ _ ticks given
  obtain ⟨n, rfl⟩ := Int.dvd_of_emod_eq_zero seconds
  rw [InRange, ← (ticks_order time earliestTime _ _ given earliest).1, ← (ticks_order latestTime time _ _ latest given).1]
  constructor
  · rintro ⟨low, high⟩
    constructor <;> linarith
  · rintro ⟨low, high⟩
    constructor <;> omega

theorem shows_iff (time : CalendarTime) (ticks : Int) (given : time.ticks = some ticks) :
    Shows (fromDateTime ticks) time ↔ InRange time := by
  rw [in_range_iff time ticks given]
  constructor
  · intro shows
    have exact' := shows.exact
    rw [CalendarTime.nanoseconds, given] at exact'
    have value := Option.some.inj exact'
    have low := (fromDateTime ticks).value.le_toInt
    have high := (fromDateTime ticks).value.toInt_lt
    rw [← value] at low high
    exact ⟨low, high⟩
  · rintro ⟨low, high⟩
    obtain ⟨nonneg, below, seconds⟩ := date_time_range _ _ _ _ _ _ ticks given
    refine ⟨?_, from_date_time_set ticks nonneg below seconds, from_date_time_valid ticks⟩
    rw [CalendarTime.nanoseconds, given, from_date_time_exact ticks low high]
    rfl

-- Two times are stored in their order, and as themselves, exactly where both of them are in
-- the years that nanoseconds of 64 bits cover.
theorem time_order_iff (s t : Text) (a b : CalendarTime) (accepted : Accepted s a) (accepted' : Accepted t b) :
    InOrder s t a b ↔ InRange a ∧ InRange b := by
  obtain ⟨ticks, given, parsed⟩ := accepted_ticks s a accepted
  obtain ⟨ticks', given', parsed'⟩ := accepted_ticks t b accepted'
  have shows := shows_iff a ticks given
  have shows' := shows_iff b ticks' given'
  rw [← parsed] at shows
  rw [← parsed'] at shows'
  constructor
  · intro inOrder
    exact ⟨shows.mp inOrder.first, shows'.mp inOrder.second⟩
  · rintro ⟨inRange, inRange'⟩
    obtain ⟨low, high⟩ := (in_range_iff a ticks given).mp inRange
    obtain ⟨low', high'⟩ := (in_range_iff b ticks' given').mp inRange'
    obtain ⟨less, same⟩ := ticks_order a b ticks ticks' given given'
    have value := from_date_time_exact ticks low high
    have value' := from_date_time_exact ticks' low' high'
    have earlier : (parseSeedLinkTime s).value < (parseSeedLinkTime t).value ↔ a.Before b := by
      rw [← less, Int64.lt_iff_toInt_lt, parsed, parsed', value, value']
      omega
    have second := shows'.mpr inRange'
    refine ⟨earlier, ?_, shows.mpr inRange, second, fun before => ⟨earlier.mpr before, second.set⟩⟩
    · rw [← same, parsed, parsed']
      constructor
      · intro equal
        have values := congrArg (fun time => time.value.toInt) equal
        rw [value, value'] at values
        omega
      · rintro rfl
        rfl

def newYear (year : Int) : CalendarTime := ⟨year, 1, 1, 0, 0, 0⟩

theorem time_order_of_two_years :
    Accepted "2025,1,1".toList (newYear 2025) ∧ Accepted "2026,01,01,00,00,00".toList (newYear 2026) ∧
      (InOrder "2025,1,1".toList "2026,01,01,00,00,00".toList (newYear 2025) (newYear 2026) ↔
        InRange (newYear 2025) ∧ InRange (newYear 2026)) :=
  ⟨⟨by decide +kernel, by decide +kernel⟩, ⟨by decide +kernel, by decide +kernel⟩,
    time_order_iff _ _ _ _ ⟨by decide +kernel, by decide +kernel⟩ ⟨by decide +kernel, by decide +kernel⟩⟩

-- From 2000 to 2300 becomes a window that ends before it starts.
theorem window_turned_round : Accepted "2000,1,1".toList (newYear 2000) ∧ Accepted "2300,1,1".toList (newYear 2300) ∧
    ¬ InOrder "2000,1,1".toList "2300,1,1".toList (newYear 2000) (newYear 2300) := by
  refine ⟨⟨by decide +kernel, by decide +kernel⟩, ⟨by decide +kernel, by decide +kernel⟩, fun inOrder => ?_⟩
  have later : ¬ (parseSeedLinkTime "2000,1,1".toList).value < (parseSeedLinkTime "2300,1,1".toList).value := by decide +kernel
  exact later (inOrder.earlier.mpr (by decide +kernel))

end RingServer.SeedLink
