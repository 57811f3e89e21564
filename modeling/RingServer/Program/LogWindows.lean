import Mathlib.Data.List.Chain
import RingServer.Config.Reload

set_option autoImplicit false

namespace RingServer.Program

open Config Library

structure Logged where
  startint : Int
  endint : Int
  time : Int
  rolled : Bool

-- The logs as the watchdog loop keeps them, at the begin of a pass; times are in seconds.
structure LogClock where
  config : ServerConfig
  curtime : Int
  tLogStartInt : Int
  tLogEndInt : Int
  logged : List Logged

-- What a pass finds: whether a shutdown has been asked for when the window is checked and
-- when it is reset, the lines of a configuration file that has changed, and the clock.
structure LogPass where
  running : Bool
  stillRunning : Bool
  binds : Nat → AddressFamily → Bool
  changed : Option (List Text)
  now : Int
  next : Int

def calcIntWin (curtime interval : Int) : Int × Int × Int :=
  if interval ≤ 0 then (-1, 0, 0)
  else
    let startint := curtime.tdiv interval * interval
    (0, startint, startint + interval)

def hasLogDir (config : ServerConfig) : Bool :=
  let tLogBaseDir : Option Text := config.values .tLogBaseDir
  tLogBaseDir.isSome

def tLogInterval (config : ServerConfig) : Int :=
  let interval : Int32 := config.values .tLogInterval
  interval.toInt

def startLogs (config : ServerConfig) (curtime : Int) : LogClock :=
  let window := if hasLogDir config then (calcIntWin curtime (tLogInterval config)).2 else (0, 0)
  ⟨config, curtime, window.1, window.2, []⟩

section

variable (platform : Platform)

def tlogwrite (clock : LogClock) (pass : LogPass) : Bool :=
  hasLogDir clock.config && pass.running && decide (clock.tLogEndInt ≤ clock.curtime)

def reread (clock : LogClock) (pass : LogPass) : ServerConfig :=
  pass.changed.elim clock.config (reload platform pass.binds clock.config)

-- The clients write their logs before the configuration is read again.
def logPass (clock : LogClock) (pass : LogPass) : LogClock :=
  let config := reread platform clock pass
  let resets := hasLogDir config && pass.stillRunning && tlogwrite clock pass
  let window := if resets then (calcIntWin pass.now (tLogInterval config)).2 else (clock.tLogStartInt, clock.tLogEndInt)
  let rolled := resets && decide (0 < tLogInterval config)
  { config := config
    curtime := pass.next
    tLogStartInt := window.1
    tLogEndInt := window.2
    logged := if tlogwrite clock pass then
        clock.logged ++ [⟨clock.tLogStartInt, clock.tLogEndInt, clock.curtime, rolled⟩]
      else clock.logged }

def Forward : Int → List LogPass → Prop
  | _, [] => True
  | time, pass :: rest => time ≤ pass.now ∧ pass.now ≤ pass.next ∧ Forward pass.next rest

def Steady (interval : Int) : LogClock → List LogPass → Prop
  | _, [] => True
  | clock, pass :: rest => tLogInterval (logPass platform clock pass).config = interval ∧ Steady interval (logPass platform clock pass) rest

end

def Follows (endInt : Int) (log : Logged) : Prop := log.endint < endInt ↔ log.rolled = true

structure Windowed (clock : LogClock) : Prop where
  time : 0 ≤ clock.curtime
  endInt : 0 ≤ clock.tLogEndInt
  past : ∀ log ∈ clock.logged, log.endint ≤ log.time
  chain : clock.logged.IsChain fun a b => Follows b.endint a
  last : ∀ log ∈ clock.logged.getLast?, Follows clock.tLogEndInt log

structure Tiled (interval : Int) (clock : LogClock) : Prop where
  whole : interval ∣ clock.tLogEndInt
  begins : clock.tLogStartInt ≤ clock.tLogEndInt
  behind : ∀ log ∈ clock.logged, log.rolled = true → log.endint ≤ clock.tLogStartInt
  apart : clock.logged.Pairwise fun a b => a.rolled = true → a.endint ≤ b.startint

theorem int_win_around (curtime interval : Int) (time : 0 ≤ curtime) (positive : 0 < interval) :
    ∃ startint, calcIntWin curtime interval = (0, startint, startint + interval) ∧ interval ∣ startint ∧
      startint ≤ curtime ∧ curtime < startint + interval := by
  have floor : curtime.tdiv interval = curtime / interval := Int.tdiv_eq_ediv_of_nonneg time
  have below := Int.ediv_mul_le curtime (ne_of_gt positive)
  have above := Int.lt_ediv_add_one_mul_self curtime positive
  rw [Int.add_mul, Int.one_mul] at above
  exact ⟨curtime / interval * interval, by rw [calcIntWin, if_neg (not_le.mpr positive), floor], Int.dvd_mul_left _ _, below, above⟩

theorem int_win_none (curtime interval : Int) (none : ¬ 0 < interval) : (calcIntWin curtime interval).2 = (0, 0) := by
  rw [calcIntWin, if_pos (not_lt.mp none)]

section

variable (platform : Platform) (clock : LogClock) (pass : LogPass)

theorem quiet_pass (quiet : tlogwrite clock pass = false) :
    logPass platform clock pass =
      ⟨reread platform clock pass, pass.next, clock.tLogStartInt, clock.tLogEndInt, clock.logged⟩ := by
  simp only [logPass, quiet, Bool.and_false, Bool.false_eq_true, if_false]

theorem writing_pass (writes : tlogwrite clock pass = true) (time : 0 ≤ pass.now) :
    ∃ startint endint rolled,
      logPass platform clock pass = ⟨reread platform clock pass, pass.next, startint, endint,
        clock.logged ++ [⟨clock.tLogStartInt, clock.tLogEndInt, clock.curtime, rolled⟩]⟩ ∧
      (rolled = true → tLogInterval (reread platform clock pass) ∣ startint ∧ endint = startint + tLogInterval (reread platform clock pass) ∧
        startint ≤ pass.now ∧ pass.now < endint) ∧
      (rolled = false → (startint = clock.tLogStartInt ∧ endint = clock.tLogEndInt) ∨
        startint = 0 ∧ endint = 0 ∧ ¬ 0 < tLogInterval (reread platform clock pass)) := by
  cases resets : hasLogDir (reread platform clock pass) && pass.stillRunning with
  | false =>
      refine ⟨clock.tLogStartInt, clock.tLogEndInt, false, ?_, fun rolled => absurd rolled Bool.false_ne_true, fun _ => .inl ⟨rfl, rfl⟩⟩
      simp only [logPass, writes, resets, Bool.false_and, Bool.false_eq_true, if_false, if_true]
  | true =>
      by_cases positive : 0 < tLogInterval (reread platform clock pass)
      · obtain ⟨startint, window, multiple, below, above⟩ := int_win_around pass.now _ time positive
        refine ⟨startint, startint + tLogInterval (reread platform clock pass), true, ?_, fun _ => ⟨multiple, rfl, below, above⟩,
          fun quiet => absurd quiet.symm Bool.false_ne_true⟩
        simp only [logPass, writes, resets, window, positive, Bool.and_true, decide_true, if_true]
      · refine ⟨0, 0, false, ?_, fun rolled => absurd rolled Bool.false_ne_true, fun _ => .inr ⟨rfl, rfl, positive⟩⟩
        simp only [logPass, writes, resets, int_win_none pass.now _ positive, positive, Bool.and_true, Bool.and_false, decide_false,
          if_true]

theorem writes_past (writes : tlogwrite clock pass = true) : clock.tLogEndInt ≤ clock.curtime := by
  rw [tlogwrite, Bool.and_eq_true] at writes
  exact of_decide_eq_true writes.2

theorem windowed_pass (windowed : Windowed clock) (now : clock.curtime ≤ pass.now) (next : pass.now ≤ pass.next) :
    Windowed (logPass platform clock pass) := by
  have time := windowed.time
  cases writes : tlogwrite clock pass with
  | false =>
      rw [quiet_pass platform clock pass writes]
      exact ⟨time.trans (now.trans next), windowed.endInt, windowed.past, windowed.chain, windowed.last⟩
  | true =>
      have past := writes_past clock pass writes
      obtain ⟨startint, endint, rolled, isPass, rolls, stays⟩ := writing_pass platform clock pass writes (time.trans now)
      have follows : Follows endint ⟨clock.tLogStartInt, clock.tLogEndInt, clock.curtime, rolled⟩ := by
        show clock.tLogEndInt < endint ↔ rolled = true
        cases rolled with
        | true =>
            obtain ⟨_, _, _, above⟩ := rolls rfl
            exact iff_of_true (by omega) rfl
        | false =>
            have old := windowed.endInt
            rcases stays rfl with ⟨_, same⟩ | ⟨_, none, _⟩
            · exact iff_of_false (by omega) Bool.false_ne_true
            · exact iff_of_false (by omega) Bool.false_ne_true
      have positive : 0 ≤ endint := by
        cases rolled with
        | true =>
            obtain ⟨_, _, _, above⟩ := rolls rfl
            omega
        | false =>
            have old := windowed.endInt
            rcases stays rfl with ⟨_, same⟩ | ⟨_, none, _⟩
            · omega
            · omega
      rw [isPass]
      refine ⟨time.trans (now.trans next), positive, List.forall_mem_append.mpr ⟨windowed.past, List.forall_mem_singleton.mpr past⟩,
        List.IsChain.append windowed.chain (.singleton _) ?_, ?_⟩
      · intro log isLast other isHead
        cases isHead
        exact windowed.last log isLast
      · intro log isLast
        rw [List.getLast?_concat] at isLast
        cases isLast
        exact follows

theorem tiled_pass (interval : Int) (positive : 0 < interval) (windowed : Windowed clock) (tiled : Tiled interval clock)
    (steady : tLogInterval (logPass platform clock pass).config = interval) (now : clock.curtime ≤ pass.now) :
    Tiled interval (logPass platform clock pass) := by
  have config : (logPass platform clock pass).config = reread platform clock pass := rfl
  rw [config] at steady
  cases writes : tlogwrite clock pass with
  | false =>
      rw [quiet_pass platform clock pass writes]
      exact ⟨tiled.whole, tiled.begins, tiled.behind, tiled.apart⟩
  | true =>
      have past := writes_past clock pass writes
      obtain ⟨startint, endint, rolled, isPass, rolls, stays⟩ := writing_pass platform clock pass writes (windowed.time.trans now)
      rw [steady] at rolls stays
      have apart : ∀ log ∈ clock.logged, log.rolled = true → log.endint ≤ clock.tLogStartInt := tiled.behind
      rw [isPass]
      cases rolled with
      | true =>
          obtain ⟨multiple, isEnd, below, above⟩ := rolls rfl
          -- The old end is a multiple that the clock has passed.
          have behind : clock.tLogEndInt ≤ startint := by
            obtain ⟨k, isOld⟩ := tiled.whole
            obtain ⟨m, isNew⟩ := multiple
            have less : interval * k < interval * (m + 1) := by rw [Int.mul_add, Int.mul_one, ← isOld, ← isNew]; omega
            have order := Int.lt_of_mul_lt_mul_left less (le_of_lt positive)
            rw [isOld, isNew]
            exact Int.mul_le_mul_of_nonneg_left (by omega) (le_of_lt positive)
          have begins := tiled.begins
          have after : startint ≤ endint := by omega
          refine ⟨by rw [isEnd]; exact Int.dvd_add multiple (Int.dvd_refl _), after, ?_, ?_⟩
          · exact List.forall_mem_append.mpr ⟨fun log member rolled => (apart log member rolled).trans (begins.trans behind),
              List.forall_mem_singleton.mpr fun _ => behind⟩
          · exact List.pairwise_append.mpr ⟨tiled.apart, List.pairwise_singleton _ _, fun log member other isOther rolled => by
              obtain rfl := List.mem_singleton.mp isOther
              exact apart log member rolled⟩
      | false =>
          rcases stays rfl with ⟨rfl, rfl⟩ | ⟨_, _, none⟩
          · refine ⟨tiled.whole, tiled.begins, ?_, ?_⟩
            · exact List.forall_mem_append.mpr ⟨apart, List.forall_mem_singleton.mpr fun rolled => absurd rolled Bool.false_ne_true⟩
            · exact List.pairwise_append.mpr ⟨tiled.apart, List.pairwise_singleton _ _, fun log member other isOther rolled => by
                obtain rfl := List.mem_singleton.mp isOther
                exact apart log member rolled⟩
          · exact absurd positive none

theorem start_windowed (config : ServerConfig) (curtime : Int) (time : 0 ≤ curtime) : Windowed (startLogs config curtime) := by
  have positive : 0 ≤ (startLogs config curtime).tLogEndInt := by
    rw [startLogs]
    cases hasLogDir config with
    | false => exact Int.le_refl 0
    | true =>
        by_cases some : 0 < tLogInterval config
        · obtain ⟨startint, window, _, _, above⟩ := int_win_around curtime _ time some
          simp only [window, if_true]
          omega
        · simp only [int_win_none curtime _ some, if_true, Int.le_refl]
  exact ⟨time, positive, fun _ member => absurd member List.not_mem_nil, .nil, fun _ isLast => by cases isLast⟩

theorem start_tiled (config : ServerConfig) (curtime : Int) (time : 0 ≤ curtime) (positive : 0 < tLogInterval config) :
    Tiled (tLogInterval config) (startLogs config curtime) := by
  obtain ⟨startint, window, multiple, below, above⟩ := int_win_around curtime _ time positive
  rw [startLogs]
  cases hasLogDir config with
  | false =>
      exact ⟨Int.dvd_zero _, Int.le_refl 0, fun _ member => absurd member List.not_mem_nil, .nil⟩
  | true =>
      simp only [window, if_true]
      exact ⟨Int.dvd_add multiple (Int.dvd_refl _), show startint ≤ startint + tLogInterval config by omega,
        fun _ member => absurd member List.not_mem_nil, .nil⟩

theorem windowed_run (passes : List LogPass) (clock : LogClock) (windowed : Windowed clock) (forward : Forward clock.curtime passes) :
    Windowed (passes.foldl (logPass platform) clock) := by
  induction passes generalizing clock with
  | nil => exact windowed
  | cons pass passes ih =>
      obtain ⟨now, next, rest⟩ := forward
      exact ih _ (windowed_pass platform clock pass windowed now next) rest

theorem tiled_run (interval : Int) (positive : 0 < interval) (passes : List LogPass) (clock : LogClock) (windowed : Windowed clock)
    (tiled : Tiled interval clock) (forward : Forward clock.curtime passes) (steady : Steady platform interval clock passes) :
    Tiled interval (passes.foldl (logPass platform) clock) := by
  induction passes generalizing clock with
  | nil => exact tiled
  | cons pass passes ih =>
      obtain ⟨now, next, rest⟩ := forward
      exact ih _ (windowed_pass platform clock pass windowed now next)
        (tiled_pass platform clock pass interval positive windowed tiled steady.1 now) rest steady.2

theorem ends_increase_iff (logged : List Logged) (chain : logged.IsChain fun a b => Follows b.endint a) :
    (logged.Pairwise fun a b => a.endint < b.endint) ↔ ∀ log ∈ logged.dropLast, log.rolled = true := by
  have trans : Trans (fun a b : Logged => a.endint < b.endint) (fun a b : Logged => a.endint < b.endint) fun a b : Logged => a.endint < b.endint :=
    ⟨fun first second => lt_trans first second⟩
  rw [← List.isChain_iff_pairwise]
  induction logged with
  | nil => exact iff_of_true .nil fun _ member => absurd member List.not_mem_nil
  | cons log logged ih =>
      cases logged with
      | nil => exact iff_of_true (.singleton _) fun _ member => absurd member List.not_mem_nil
      | cons next logged =>
          obtain ⟨first, rest⟩ := List.isChain_cons_cons.mp chain
          rw [List.isChain_cons_cons, List.dropLast_cons_cons, List.forall_mem_cons]
          exact and_congr first (ih rest)

-- The windows of the logs end one after the other, each before its logs are written, if
-- and only if every log with another one behind it has left a window to roll into; with an
-- interval that stays they do not overlap.
theorem log_windows (config : ServerConfig) (curtime : Int) (passes : List LogPass) (time : 0 ≤ curtime) (forward : Forward curtime passes) :
    (∀ log ∈ (passes.foldl (logPass platform) (startLogs config curtime)).logged, log.endint ≤ log.time) ∧
      (((passes.foldl (logPass platform) (startLogs config curtime)).logged.Pairwise fun a b => a.endint < b.endint) ↔
        ∀ log ∈ (passes.foldl (logPass platform) (startLogs config curtime)).logged.dropLast, log.rolled = true) ∧
      (0 < tLogInterval config → Steady platform (tLogInterval config) (startLogs config curtime) passes →
        (passes.foldl (logPass platform) (startLogs config curtime)).logged.Pairwise fun a b => a.rolled = true → a.endint ≤ b.startint) := by
  have start := start_windowed config curtime time
  have windowed := windowed_run platform passes _ start forward
  exact ⟨windowed.past, ends_increase_iff _ windowed.chain, fun positive steady =>
    (tiled_run platform _ positive passes _ start (start_tiled config curtime time positive) forward steady).apart⟩

end

-- Two passes an hour apart, with the logs of an hour.
def hourlyConfig : ServerConfig :=
  { initialConfig with values := settle initialValues [⟨.tLogBaseDir, some "tlog".toList⟩, ⟨.tLogInterval, (3600 : Int32)⟩] }

def hourlyPasses : List LogPass :=
  [⟨true, true, fun _ _ => true, none, 10, 3601⟩, ⟨true, true, fun _ _ => true, none, 3602, 7200⟩, ⟨true, true, fun _ _ => true, none, 7201, 7202⟩]

theorem hourly_steady : Steady quadPlatform (tLogInterval hourlyConfig) (startLogs hourlyConfig 5) hourlyPasses :=
  ⟨by decide +kernel, by decide +kernel, by decide +kernel, trivial⟩

theorem log_windows_hourly :
    ((hourlyPasses.foldl (logPass quadPlatform) (startLogs hourlyConfig 5)).logged.map fun log => (log.startint, log.endint)) =
        [(0, 3600), (3600, 7200)] ∧
      ((hourlyPasses.foldl (logPass quadPlatform) (startLogs hourlyConfig 5)).logged.Pairwise fun a b => a.rolled = true → a.endint ≤ b.startint) :=
  ⟨by decide +kernel, (log_windows quadPlatform hourlyConfig 5 hourlyPasses (by decide)
    ⟨by decide, by decide, by decide, by decide, by decide, by decide, trivial⟩).2.2 (by decide +kernel) hourly_steady⟩

end RingServer.Program
