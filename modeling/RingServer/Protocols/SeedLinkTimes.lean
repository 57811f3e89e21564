import RingServer.Protocols.SeedLinkResume
import Mathlib.Tactic.Linarith

set_option autoImplicit false

namespace RingServer.SeedLink

open Library

structure TimeRequest where
  startTime : NsTime
  endTime : Option NsTime
deriving DecidableEq

structure TimeRequest.WellFormed (request : TimeRequest) : Prop where
  start : request.startTime ≠ NsTime.unset
  finish : request.endTime ≠ some NsTime.unset

structure Asks (session : Session) (line : List UInt8) (request : TimeRequest) : Prop where
  station : session.ext.inStationMode = true
  words : ∃ word startStr behind, splitWords (commandText line) = word :: startStr :: behind ∧ toUpperInvariant word = "TIME".toList ∧
    parseSeedLinkTime startStr = request.startTime ∧ behind.head?.map parseSeedLinkTime = request.endTime
  start : request.startTime ≠ NsTime.error
  finish : request.endTime ≠ some NsTime.error

def IsTime (line : List UInt8) : Prop := ∃ word behind, splitWords (commandText line) = word :: behind ∧
    toUpperInvariant word = "TIME".toList

inductive Setup : Session → List TimeRequest → Prop
  | opened (client : ClientInfo) : Setup ⟨client, newExtInfo⟩ []
  | asked (session : Session) (requests : List TimeRequest) (before : Setup session requests) (around : Surroundings) (fuel : Nat)
      (ring : RingParams) (line : List UInt8) (request : TimeRequest) (asks : Asks session line request) (outcome : Outcome)
      (ran : handleCommand around fuel ring session line = some outcome) : Setup outcome.session (requests ++ [request])
  | answered (session : Session) (requests : List TimeRequest) (before : Setup session requests) (around : Surroundings) (fuel : Nat)
      (ring : RingParams) (line : List UInt8) (other : ∀ request, ¬ Asks session line request) (goesOn : ¬ EndsStations line)
      (stations : IsTime line → session.ext.inStationMode = true) (outcome : Outcome)
      (ran : handleCommand around fuel ring session line = some outcome) : Setup outcome.session requests

structure EarliestStart (requests : List TimeRequest) (startTime : NsTime) : Prop where
  asked : ∃ request ∈ requests, request.startTime = startTime
  least : ∀ request ∈ requests, startTime.value ≤ request.startTime.value

-- The end of the last request that names one, unless a request behind it starts later.
inductive KeptEnd (requests : List TimeRequest) : NsTime → Prop
  | unnamed (open_ : ∀ request ∈ requests, request.endTime = none) : KeptEnd requests NsTime.unset
  | kept (before : List TimeRequest) (last : TimeRequest) (after : List TimeRequest) (endTime : NsTime)
      (order : requests = before ++ last :: after) (named : last.endTime = some endTime) (open_ : ∀ request ∈ after, request.endTime = none)
      (inside : ∀ request ∈ after, request.startTime.value ≤ endTime.value) : KeptEnd requests endTime
  | dropped (before : List TimeRequest) (last : TimeRequest) (after : List TimeRequest) (endTime : NsTime)
      (order : requests = before ++ last :: after) (named : last.endTime = some endTime) (open_ : ∀ request ∈ after, request.endTime = none)
      (late : ∃ request ∈ after, endTime.value < request.startTime.value) : KeptEnd requests NsTime.unset

structure LatestEnd (requests : List TimeRequest) (endTime : NsTime) : Prop where
  asked : ∃ request ∈ requests, request.endTime = some endTime
  greatest : ∀ request ∈ requests, ∀ other, request.endTime = some other → other.value ≤ endTime.value

def TimeRequest.Within (request : TimeRequest) (startTime endTime : NsTime) : Prop :=
  startTime.value ≤ request.startTime.value ∧
    ∀ other, request.endTime = some other → endTime = NsTime.unset ∨ other.value ≤ endTime.value

structure Widened (requests : List TimeRequest) (ext : SLExtInfo) : Prop where
  wellFormed : ∀ request ∈ requests, request.WellFormed
  start : if requests = [] then ext.startTime = NsTime.unset else EarliestStart requests ext.startTime
  finish : KeptEnd requests ext.endTime

theorem days_to_month_range (year : Int) (i : Nat) : 0 ≤ (daysToMonth year).getD i 0 ∧ (daysToMonth year).getD i 0 ≤ 366 := by
  have all : ∀ days ∈ daysToMonth year, 0 ≤ days ∧ days ≤ 366 := by
    rw [daysToMonth]
    split <;> decide
  rw [List.getD_eq_getElem?_getD]
  cases found : (daysToMonth year)[i]? with
  | none => decide
  | some days => exact all days (List.mem_of_getElem? found)

theorem date_time_range (year month day hour minute second ticks : Int)
    (given : dateTimeTicks year month day hour minute second = some ticks) : 0 ≤ ticks ∧ ticks < 2 ^ 62 ∧ ticks % 10000000 = 0 := by
  have before := days_to_month_range year (month.toNat - 1)
  have behind := days_to_month_range year month.toNat
  rw [dateTimeTicks] at given
  split at given
  · rw [← Option.some.inj given]
    omega
  · cases given

theorem seconds_not_half (n : Int) (low : -1000000000000 ≤ n) (high : n ≤ 1000000000000) :
    n * 1000000000 % 18446744073709551616 ≠ 9223372036854775808 := by
  have odd (q : Int) : 2 * q + 1 ≠ 0 := by omega
  intro half
  have parts := Int.mul_ediv_add_emod (n * 1000000000) 18446744073709551616
  rw [half] at parts
  generalize n * 1000000000 / 18446744073709551616 = q at parts
  have divides : (1953125 : Int) ∣ 9223372036854775808 * (2 * q + 1) := Dvd.intro (n * 512) (by linarith)
  obtain ⟨m, multiple⟩ := Int.dvd_of_dvd_mul_right_of_gcd_one divides (by decide +kernel)
  rcases lt_trichotomy m 0 with below | zero | above
  · linarith
  · rw [zero, Int.mul_zero] at multiple
    exact odd q multiple
  · linarith

theorem from_date_time_set (ticks : Int) (low : 0 ≤ ticks) (high : ticks < 2 ^ 62) (seconds : ticks % 10000000 = 0) :
    fromDateTime ticks ≠ NsTime.unset := by
  intro same
  obtain ⟨n, rfl⟩ := Int.dvd_of_emod_eq_zero seconds
  have nanoseconds : (10000000 * n - 621355968000000000) * 100 = (n - 62135596800) * 1000000000 := by linarith
  have value := congrArg Int64.toInt (congrArg NsTime.value same)
  have apart := seconds_not_half (n - 62135596800) (by linarith) (by linarith)
  have positive := Int.emod_nonneg ((n - 62135596800) * 1000000000) (b := 18446744073709551616) (by decide)
  have size : (Int64.size : Int) = 18446744073709551616 := rfl
  have least : Int64.minValue.toInt = -9223372036854775808 := rfl
  rw [fromDateTime, NsTime.unset, nanoseconds, Int64.toInt_ofInt, least, Int.bmod_def, size] at value
  generalize (n - 62135596800) * 1000000000 % 18446744073709551616 = rest at *
  split at value
  · linarith
  · exact apart (by linarith)

theorem parse_time_set (s : Text) : parseSeedLinkTime s ≠ NsTime.unset := by
  have error : NsTime.error ≠ NsTime.unset := by decide
  rw [parseSeedLinkTime.eq_def]
  split
  · dsimp only
    generalize isTicks : (do
      let year ← tryParseInt _
      let month ← tryParseInt _
      let day ← tryParseInt _
      let hour ← _
      let minute ← _
      let second ← _
      dateTimeTicks year month day hour minute second : Option Int) = ticks
    cases ticks with
    | none => exact error
    | some ticks =>
        simp only [Option.bind_eq_bind, Option.bind_eq_some_iff] at isTicks
        obtain ⟨year, -, month, -, day, -, hour, -, minute, -, second, -, given⟩ := isTicks
        obtain ⟨low, high, seconds⟩ := date_time_range year month day hour minute second ticks given
        exact from_date_time_set ticks low high seconds
  · exact error

theorem asked_well_formed (session : Session) (line : List UInt8) (request : TimeRequest) (asks : Asks session line request) :
    request.WellFormed := by
  obtain ⟨word, startStr, behind, -, -, start, finish⟩ := asks.words
  refine ⟨start ▸ parse_time_set startStr, ?_⟩
  rw [← finish]
  cases behind with
  | nil =>
      intro same
      cases same
  | cons endStr rest => exact fun same => parse_time_set endStr (Option.some.inj same)

theorem asked_stores (around : Surroundings) (fuel : Nat) (ring : RingParams) (session : Session) (line : List UInt8)
    (request : TimeRequest) (asks : Asks session line request) (outcome : Outcome)
    (ran : handleCommand around fuel ring session line = some outcome) :
    outcome.session.ext = storeTimes request.startTime (request.endTime.getD NsTime.unset) session.ext := by
  obtain ⟨word, startStr, behind, words, time, start, finish⟩ := asks.words
  have named : behind.head?.elim NsTime.unset parseSeedLinkTime = request.endTime.getD NsTime.unset := by
    rw [← finish]
    cases behind with
    | nil => rfl
    | cons endStr rest => rfl
  have read : request.endTime.getD NsTime.unset ≠ NsTime.error := by
    have finishes := asks.finish
    cases isEnd : request.endTime with
    | none => exact fun same => absurd same (by decide)
    | some endTime =>
        rintro rfl
        exact finishes isEnd
  have other : ¬ (toUpperInvariant word = "DATA".toList ∨ toUpperInvariant word = "FETCH".toList) := by
    rw [time]
    decide
  rw [handleCommand.eq_def, words] at ran
  dsimp only at ran
  rw [if_neg other, if_pos time, handleTime.eq_def] at ran
  dsimp only at ran
  rw [start, named, if_neg (not_or.mpr ⟨asks.start, read⟩), if_pos asks.station] at ran
  rw [← Option.some.inj ran]
  rfl

theorem refused_unchanged (around : Surroundings) (fuel : Nat) (ring : RingParams) (session : Session) (word : Text) (arguments : List Text)
    (refused : ∀ startStr behind, arguments = startStr :: behind →
      parseSeedLinkTime startStr = NsTime.error ∨ behind.head?.map parseSeedLinkTime = some NsTime.error)
    (outcome : Outcome) (ran : handleTime around fuel ring session (word :: arguments) = some outcome) :
    outcome.session = session := by
  cases arguments with
  | nil =>
      rw [← Option.some.inj ran]
      rfl
  | cons startStr behind =>
      have error : parseSeedLinkTime startStr = NsTime.error ∨ behind.head?.elim NsTime.unset parseSeedLinkTime = NsTime.error := by
        refine (refused startStr behind rfl).imp_right fun named => ?_
        cases behind with
        | nil => cases named
        | cons endStr rest => exact Option.some.inj named
      rw [handleTime.eq_def] at ran
      dsimp only at ran
      rw [if_pos error] at ran
      rw [← Option.some.inj ran]
      rfl

theorem streaming_ext (session : Session) (reader : RingReader) (response : Text) :
    (sendResponse (session.withReader reader).streaming response).session.ext = session.ext := rfl

theorem answered_times (around : Surroundings) (fuel : Nat) (ring : RingParams) (session : Session) (line : List UInt8)
    (other : ∀ request, ¬ Asks session line request) (goesOn : ¬ EndsStations line)
    (stations : IsTime line → session.ext.inStationMode = true)
    (outcome : Outcome) (ran : handleCommand around fuel ring session line = some outcome) :
    outcome.session.ext.startTime = session.ext.startTime ∧ outcome.session.ext.endTime = session.ext.endTime := by
  rw [handleCommand.eq_def] at ran
  cases words : splitWords (commandText line) with
  | nil =>
      rw [words] at ran
      rw [← Option.some.inj ran]
      exact ⟨rfl, rfl⟩
  | cons word arguments =>
      rw [words] at ran
      dsimp only at ran
      by_cases data : toUpperInvariant word = "DATA".toList ∨ toUpperInvariant word = "FETCH".toList
      · rw [if_pos data] at ran
        rw [← Option.some.inj ran, handleData]
        dsimp only
        split <;> exact ⟨rfl, rfl⟩
      rw [if_neg data] at ran
      by_cases time : toUpperInvariant word = "TIME".toList
      · rw [if_pos time] at ran
        have station := stations ⟨word, arguments, words, time⟩
        have same := refused_unchanged around fuel ring session word arguments (fun startStr behind isArguments => ?_) outcome ran
        · rw [same]
          exact ⟨rfl, rfl⟩
        · by_contra accepted
          rw [not_or] at accepted
          refine other ⟨parseSeedLinkTime startStr, behind.head?.map parseSeedLinkTime⟩ ⟨station, ?_, accepted.1, accepted.2⟩
          exact ⟨word, startStr, behind, isArguments ▸ words, time, rfl, rfl⟩
      rw [if_neg time] at ran
      by_cases stream : toUpperInvariant word = "STREAM".toList
      · rw [if_pos stream] at ran
        rw [← Option.some.inj ran, streaming_ext]
        exact ⟨rfl, rfl⟩
      rw [if_neg stream, if_neg (fun done => goesOn ⟨word, arguments, words, done⟩)] at ran
      obtain ⟨-, currentStation, inStationMode, selectedStations, protoMajor, protoMinor, isExt⟩ :=
        handle_request_touched around ring session _ _ _ outcome ran
      rw [isExt]
      exact ⟨rfl, rfl⟩

theorem earliest_start_step (requests : List TimeRequest) (request : TimeRequest)
    (known : ∀ other ∈ requests, other.startTime ≠ NsTime.unset) (ext : SLExtInfo)
    (start : if requests = [] then ext.startTime = NsTime.unset else EarliestStart requests ext.startTime) :
    EarliestStart (requests ++ [request]) (earlierStart request.startTime ext) := by
  have last : request ∈ requests ++ [request] := List.mem_append_right requests (List.mem_singleton.mpr rfl)
  rw [earlierStart]
  by_cases first : requests = []
  · rw [if_pos first] at start
    rw [if_pos (Or.inl start), first]
    exact ⟨⟨request, List.mem_singleton.mpr rfl, rfl⟩, fun other member => by
      rw [List.mem_singleton.mp member]
      exact Int64.le_refl _⟩
  rw [if_neg first] at start
  obtain ⟨early, isEarly, same⟩ := start.asked
  have set : ext.startTime ≠ NsTime.unset := same ▸ known early isEarly
  by_cases earlier : request.startTime.value < ext.startTime.value
  · rw [if_pos (Or.inr earlier)]
    refine ⟨⟨request, last, rfl⟩, fun other member => ?_⟩
    rcases List.mem_append.mp member with before | isLast
    · exact Int64.le_trans (Int64.le_of_lt earlier) (start.least other before)
    · rw [List.mem_singleton.mp isLast]
      exact Int64.le_refl _
  · rw [if_neg (not_or.mpr ⟨set, earlier⟩)]
    refine ⟨⟨early, List.mem_append_left _ isEarly, same⟩, fun other member => ?_⟩
    rcases List.mem_append.mp member with before | isLast
    · exact start.least other before
    · rw [List.mem_singleton.mp isLast]
      exact Int64.not_lt.mp earlier

theorem kept_end_step (requests : List TimeRequest) (request : TimeRequest) (wellFormed : request.WellFormed)
    (known : ∀ other ∈ requests, other.WellFormed) (ext : SLExtInfo) (kept : KeptEnd requests ext.endTime) :
    KeptEnd (requests ++ [request]) (storeTimes request.startTime (request.endTime.getD NsTime.unset) ext).endTime := by
  rw [storeTimes]
  dsimp only
  cases named : request.endTime with
  | some endTime =>
      have set : endTime ≠ NsTime.unset := by
        rintro rfl
        exact wellFormed.finish named
      rw [Option.getD_some, if_pos set]
      exact .kept requests request [] endTime rfl named (fun _ none => absurd none List.not_mem_nil)
        (fun _ none => absurd none List.not_mem_nil)
  | none =>
      have behind (after : List TimeRequest) (open_ : ∀ other ∈ after, other.endTime = none) :
          ∀ other ∈ after ++ [request], other.endTime = none := by
        intro other member
        rcases List.mem_append.mp member with before | last
        · exact open_ other before
        · rw [List.mem_singleton.mp last, named]
      rw [Option.getD_none, if_neg (not_not_intro rfl)]
      generalize isEnd : ext.endTime = endTime at kept
      cases kept with
      | unnamed open_ =>
          rw [if_neg (fun both => both.1 rfl)]
          exact .unnamed (behind requests open_)
      | kept before last after _ order ends open_ inside =>
          have set : endTime ≠ NsTime.unset := by
            rintro rfl
            exact (known last (order ▸ List.mem_append_right before List.mem_cons_self)).finish ends
          have grown : requests ++ [request] = before ++ last :: (after ++ [request]) := by
            rw [order, List.append_assoc, List.cons_append]
          by_cases late : request.startTime.value > endTime.value
          · rw [if_pos ⟨set, late⟩]
            exact .dropped before last _ endTime grown ends (behind after open_)
              ⟨request, List.mem_append_right after (List.mem_singleton.mpr rfl), late⟩
          · rw [if_neg (fun both => late both.2)]
            refine .kept before last _ endTime grown ends (behind after open_) fun other member => ?_
            rcases List.mem_append.mp member with earlier | isRequest
            · exact inside other earlier
            · rw [List.mem_singleton.mp isRequest]
              exact Int64.not_lt.mp late
      | dropped before last after dropped order ends open_ late =>
          obtain ⟨other, member, after_⟩ := late
          have grown : requests ++ [request] = before ++ last :: (after ++ [request]) := by
            rw [order, List.append_assoc, List.cons_append]
          rw [if_neg (fun both => both.1 rfl)]
          exact .dropped before last _ dropped grown ends (behind after open_) ⟨other, List.mem_append_left _ member, after_⟩

theorem widened_step (requests : List TimeRequest) (request : TimeRequest) (wellFormed : request.WellFormed) (ext : SLExtInfo)
    (widened : Widened requests ext) :
    Widened (requests ++ [request]) (storeTimes request.startTime (request.endTime.getD NsTime.unset) ext) := by
  refine ⟨fun other member => ?_, ?_, kept_end_step requests request wellFormed widened.wellFormed ext widened.finish⟩
  · rcases List.mem_append.mp member with before | last
    · exact widened.wellFormed other before
    · rw [List.mem_singleton.mp last]
      exact wellFormed
  · rw [if_neg (List.append_ne_nil_of_right_ne_nil requests (List.cons_ne_nil request []))]
    exact earliest_start_step requests request (fun other member => (widened.wellFormed other member).start) ext widened.start

theorem setup_widened (session : Session) (requests : List TimeRequest) (setup : Setup session requests) :
    Widened requests session.ext := by
  induction setup with
  | opened client =>
      refine ⟨fun _ none => absurd none List.not_mem_nil, ?_, .unnamed fun _ none => absurd none List.not_mem_nil⟩
      rw [if_pos rfl]
      rfl
  | asked session requests before around fuel ring line request asks outcome ran ih =>
      rw [asked_stores around fuel ring session line request asks outcome ran]
      exact widened_step requests request (asked_well_formed session line request asks) session.ext ih
  | answered session requests before around fuel ring line other goesOn stations outcome ran ih =>
      obtain ⟨start, finish⟩ := answered_times around fuel ring session line other goesOn stations outcome ran
      refine ⟨ih.wellFormed, ?_, ?_⟩
      · rw [start]
        exact ih.start
      · rw [finish]
        exact ih.finish

theorem last_named_once (before after before' after' : List TimeRequest) (last last' : TimeRequest)
    (same : before ++ last :: after = before' ++ last' :: after') (named : last.endTime ≠ none) (named' : last'.endTime ≠ none)
    (open_ : ∀ request ∈ after, request.endTime = none) (open_' : ∀ request ∈ after', request.endTime = none) :
    last = last' ∧ after = after' := by
  rcases List.append_eq_append_iff.mp same with ⟨between, -, rest⟩ | ⟨between, -, rest⟩
  · cases between with
    | nil => exact List.cons.inj rest
    | cons first between =>
        have member : last' ∈ after := by
          rw [(List.cons.inj rest).2]
          exact List.mem_append_right between List.mem_cons_self
        exact absurd (open_ last' member) named'
  · cases between with
    | nil =>
        have both := List.cons.inj rest
        exact ⟨both.1.symm, both.2.symm⟩
    | cons first between =>
        have member : last ∈ after' := by
          rw [(List.cons.inj rest).2]
          exact List.mem_append_right between List.mem_cons_self
        exact absurd (open_' last member) named

theorem kept_end_named (before after : List TimeRequest) (last : TimeRequest) (endTime kept : NsTime)
    (ends : KeptEnd (before ++ last :: after) kept) (named : last.endTime = some endTime)
    (open_ : ∀ request ∈ after, request.endTime = none) :
    ((∃ request ∈ after, endTime.value < request.startTime.value) → kept = NsTime.unset) ∧
      ((∀ request ∈ after, request.startTime.value ≤ endTime.value) → kept = endTime) := by
  have isNamed : last.endTime ≠ none := by
    rw [named]
    exact Option.some_ne_none endTime
  cases ends with
  | unnamed none => exact absurd (none last (List.mem_append_right before List.mem_cons_self)) isNamed
  | kept before' last' after' _ order named' open_' inside =>
      obtain ⟨rfl, rfl⟩ := last_named_once before after before' after' last last' order isNamed (by simp [named']) open_ open_'
      have same := Option.some.inj (named.symm.trans named')
      refine ⟨fun late => ?_, fun _ => same.symm⟩
      obtain ⟨request, member, later⟩ := late
      exact absurd (same ▸ later) (Int64.not_lt.mpr (inside request member))
  | dropped before' last' after' dropped order named' open_' late =>
      obtain ⟨rfl, rfl⟩ := last_named_once before after before' after' last last' order isNamed (by simp [named']) open_ open_'
      have same := Option.some.inj (named.symm.trans named')
      refine ⟨fun _ => rfl, fun inside => ?_⟩
      obtain ⟨request, member, later⟩ := late
      exact absurd (same ▸ later) (Int64.not_lt.mpr (inside request member))

-- The window starts with the earliest start, in every order. It is open when no request
-- names an end; else, when the last end that is named is the latest, it stops there,
-- unless a request behind it starts later, and then it is open.
theorem widest_window (session : Session) (requests : List TimeRequest) (setup : Setup session requests) (asked : requests ≠ []) :
    EarliestStart requests session.ext.startTime ∧
      ((∀ request ∈ requests, request.endTime = none) → session.ext.endTime = NsTime.unset) ∧
      ∀ before last after endTime, requests = before ++ last :: after → last.endTime = some endTime →
        (∀ request ∈ after, request.endTime = none) → LatestEnd requests endTime →
          ((∃ request ∈ after, endTime.value < request.startTime.value) → session.ext.endTime = NsTime.unset) ∧
          ((∀ request ∈ after, request.startTime.value ≤ endTime.value) → session.ext.endTime = endTime) ∧
          ∀ request ∈ requests, request.Within session.ext.startTime session.ext.endTime := by
  have widened := setup_widened session requests setup
  have start := widened.start
  rw [if_neg asked] at start
  refine ⟨start, fun none => ?_, fun before last after endTime order named open_ latest => ?_⟩
  · have ends := widened.finish
    generalize session.ext.endTime = kept at ends
    cases ends with
    | unnamed _ => rfl
    | kept before last after endTime order named _ _ =>
        rw [none last (order ▸ List.mem_append_right before List.mem_cons_self)] at named
        cases named
    | dropped _ _ _ _ _ _ _ _ => rfl
  · obtain ⟨late, inside⟩ := kept_end_named before after last endTime session.ext.endTime (order ▸ widened.finish) named open_
    refine ⟨late, inside, fun request member => ⟨start.least request member, fun other isEnd => ?_⟩⟩
    by_cases later : ∃ request ∈ after, endTime.value < request.startTime.value
    · exact Or.inl (late later)
    · refine Or.inr ?_
      rw [inside fun request member => Int64.not_lt.mp fun after => later ⟨request, member, after⟩]
      exact latest.greatest request member other isEnd

def stationMode : Session := (handleStation quiet fresh ["STATION".toList, "A".toList, "XX".toList]).session

def stationLine : List UInt8 := encodeASCII "STATION A XX".toList

theorem station_mode_setup : Setup stationMode [] := by
  have station : splitWords (commandText stationLine) = ["STATION".toList, "A".toList, "XX".toList] := by decide +kernel
  have upper : toUpperInvariant "STATION".toList = "STATION".toList := by decide +kernel
  have moded : handleCommand quiet 1 twoSlotRing fresh stationLine =
    some (handleStation quiet fresh ["STATION".toList, "A".toList, "XX".toList]) := by
    rw [handleCommand.eq_def, station]
    dsimp only
    rw [upper]
    rfl
  have notTime : ∀ word behind, splitWords (commandText stationLine) = word :: behind → toUpperInvariant word = "STATION".toList := by
    intro word behind same
    rw [station] at same
    rw [← (List.cons.inj same).1, upper]
  have other : ∀ request, ¬ Asks fresh stationLine request := fun request asks => Bool.noConfusion asks.station
  refine .answered fresh [] (.opened DataLink.newClient) quiet 1 twoSlotRing stationLine other ?_ ?_ _ moded
  · rintro ⟨word, behind, same, done⟩
    rw [notTime word behind same] at done
    revert done
    decide
  · rintro ⟨word, behind, same, isTime⟩
    rw [notTime word behind same] at isTime
    revert isTime
    decide

def afterTime (session : Session) (arguments : List Text) : Session :=
  ((handleTime quiet 1 twoSlotRing session ("TIME".toList :: arguments)).map Outcome.session).getD session

theorem after_time_setup (session : Session) (requests : List TimeRequest) (before : Setup session requests) (line : List UInt8)
    (startStr : Text) (behind : List Text) (words : splitWords (commandText line) = "TIME".toList :: startStr :: behind)
    (mode : session.ext.inStationMode = true)
    (answers : (handleTime quiet 1 twoSlotRing session ("TIME".toList :: startStr :: behind)).isSome = true)
    (start : parseSeedLinkTime startStr ≠ NsTime.error) (finish : behind.head?.map parseSeedLinkTime ≠ some NsTime.error) :
    Setup (afterTime session (startStr :: behind)) (requests ++ [⟨parseSeedLinkTime startStr, behind.head?.map parseSeedLinkTime⟩]) := by
  have upper : toUpperInvariant "TIME".toList = "TIME".toList := by decide +kernel
  have timed : handleCommand quiet 1 twoSlotRing session line =
      handleTime quiet 1 twoSlotRing session ("TIME".toList :: startStr :: behind) := by
    rw [handleCommand.eq_def, words]
    dsimp only
    rw [upper]
    rfl
  obtain ⟨outcome, ran⟩ := Option.isSome_iff_exists.mp answers
  rw [afterTime, ran]
  exact .asked session requests before quiet 1 twoSlotRing line ⟨parseSeedLinkTime startStr, behind.head?.map parseSeedLinkTime⟩
    ⟨mode, ⟨_, _, _, words, upper, rfl, rfl⟩, start, finish⟩ outcome (timed.trans ran)

-- Three requests: 2 to 3 January, 1 to 5 January, and from 4 January on.
def dayStart (day : Text) : NsTime := parseSeedLinkTime ("1970,1,".toList ++ day)

def threeDays : List TimeRequest :=
  [⟨dayStart ['2'], some (dayStart ['3'])⟩, ⟨dayStart ['1'], some (dayStart ['5'])⟩, ⟨dayStart ['4'], none⟩]

def afterFirst : Session := afterTime stationMode ["1970,1,2".toList, "1970,1,3".toList]

def afterSecond : Session := afterTime afterFirst ["1970,1,1".toList, "1970,1,5".toList]

def afterThird : Session := afterTime afterSecond ["1970,1,4".toList]

theorem three_days_setup : Setup afterThird threeDays := by
  have first := after_time_setup stationMode [] station_mode_setup (encodeASCII "TIME 1970,1,2 1970,1,3".toList) "1970,1,2".toList
    ["1970,1,3".toList] (by decide +kernel) rfl (by decide +kernel) (by decide +kernel) (by decide +kernel)
  have second := after_time_setup afterFirst _ first (encodeASCII "TIME 1970,1,1 1970,1,5".toList) "1970,1,1".toList
    ["1970,1,5".toList] (by decide +kernel) (by decide +kernel) (by decide +kernel) (by decide +kernel) (by decide +kernel)
  exact after_time_setup afterSecond _ second (encodeASCII "TIME 1970,1,4".toList) "1970,1,4".toList [] (by decide +kernel)
    (by decide +kernel) (by decide +kernel) (by decide +kernel) (by decide +kernel)

theorem widest_window_three_days : Setup afterThird threeDays ∧ EarliestStart threeDays afterThird.ext.startTime ∧
    afterThird.ext.endTime = dayStart ['5'] ∧
    ∀ request ∈ threeDays, request.Within afterThird.ext.startTime afterThird.ext.endTime := by
  obtain ⟨start, -, named⟩ := widest_window afterThird threeDays three_days_setup (List.cons_ne_nil _ _)
  have latest : LatestEnd threeDays (dayStart ['5']) := by
    refine ⟨⟨_, List.mem_cons_of_mem _ List.mem_cons_self, rfl⟩, ?_⟩
    decide +kernel
  have behind : ∀ request ∈ [(⟨dayStart ['4'], none⟩ : TimeRequest)], request.endTime = none := fun request member => by
    rw [List.mem_singleton.mp member]
  obtain ⟨_, kept, within⟩ := named [⟨dayStart ['2'], some (dayStart ['3'])⟩] ⟨dayStart ['1'], some (dayStart ['5'])⟩
    [⟨dayStart ['4'], none⟩] (dayStart ['5']) rfl rfl behind latest
  exact ⟨three_days_setup, start, kept (by decide +kernel), within⟩

def timesAfter (commands : List Text) : Option (NsTime × NsTime) :=
  (answerAll quiet 1 twoSlotRing fresh (commands.map encodeASCII)).map fun session => (session.ext.startTime, session.ext.endTime)

-- A request without an end leaves the end of the first one; a later start drops it, but
-- only in one order.
theorem open_request_cut_off :
    timesAfter ["STATION A XX".toList, "TIME 1970,1,1 1970,1,3".toList, "TIME 1970,1,2".toList] = some (⟨0⟩, ⟨172800000000000⟩) ∧
      timesAfter ["STATION A XX".toList, "TIME 1970,1,1 1970,1,3".toList, "TIME 1970,1,4".toList] = some (⟨0⟩, NsTime.unset) ∧
      timesAfter ["STATION A XX".toList, "TIME 1970,1,4".toList, "TIME 1970,1,1 1970,1,3".toList] = some (⟨0⟩, ⟨172800000000000⟩) := by
  decide +kernel

end RingServer.SeedLink
