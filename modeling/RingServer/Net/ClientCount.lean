import RingServer.Net.ClientList

set_option autoImplicit false

namespace RingServer.Net

open Config

-- No listener is between its accept and its count, and the watchdog not between an unlink
-- and its decrement.
def Quiet (s : Server) : Prop :=
  (∀ dispatch ∈ s.listeners, dispatch = .accepting) ∧ (s.sweep = .idle ∨ ∃ rest, s.sweep = .looping rest)

def AtLimit (config : ServerConfig) (s : Server) : Prop := maxClients config > 0 ∧ s.clientCount ≥ (maxClients config).toNat

structure Counted (config : ServerConfig) (s : Server) (passed : List Nat) : Prop where
  count : Quiet s → s.clientCount = s.cthreads.length
  unlinked : ∀ client ∈ passed, client ∉ s.cthreads
  empty : Quiet s → s.cthreads = [] → s.clientCount = 0 ∧ ¬ AtLimit config s

-- The watchdog does not find a client that it has unlinked uncounted with ClientCount at
-- 0, and a listener does not count between its load and its store.
def InTurn (s : Server) : ServerEvent → Prop
  | .test => 0 < s.clientCount
  | .count _ => ∀ value rest, s.sweep ≠ .holding value rest
  | _ => True

def due : Sweep → Int
  | .idle => 0
  | .looping _ => 0
  | .unlinked _ => 1
  | .reading _ => 1
  | .holding _ _ => 1

def Server.basis (s : Server) : Int := match s.sweep with
  | .holding value _ => value
  | _ => s.clientCount

def drift (s : Server) : Int := s.basis + listenersIn isLinked s - s.cthreads.length - due s.sweep

-- A decrement that is left out, and an increment that is written over.
def slip (s : Server) : ServerEvent → Int
  | .test => if 0 < s.clientCount then 0 else 1
  | .count _ => match s.sweep with
    | .holding _ _ => -1
    | _ => 0
  | _ => 0

section

variable (config : ServerConfig)

def CountedAlong : Server → List Nat → List ServerEvent → Prop
  | s, passed, [] => Counted config s passed
  | s, passed, event :: rest => Counted config s passed ∧ ∀ next, serverStep config s event = some next →
      CountedAlong next (passedStep s passed event) rest

def AllInTurn : Server → List ServerEvent → Prop
  | _, [] => True
  | s, event :: rest => InTurn s event ∧ ∀ next, serverStep config s event = some next → AllInTurn next rest

theorem drift_turn (s : Server) (l : Nat) (old new : Dispatch) (at_old : s.listeners[l]? = some old) (before : isLinked old = false)
    (after : isLinked new = false) : drift (s.dispatch l new) = drift s := by
  have counted := dispatch_count isLinked s l old new at_old
  rw [before, after] at counted
  have same : listenersIn isLinked (s.dispatch l new) = listenersIn isLinked s := counted
  rw [drift, same]
  rfl

theorem drift_step (s next : Server) (passed : List Nat) (entries : Entries s passed) (event : ServerEvent)
    (step : serverStep config s event = some next) : drift next = drift s + slip s event := by
  cases steps_of config s event next step with
  | rejects l addr => exact (Int.add_zero _).symm
  | turns _ l old new at_old turn =>
      cases turn with
      | accepts => exact (drift_turn s l _ _ at_old rfl rfl).trans (Int.add_zero _).symm
      | crowded => exact (drift_turn s l _ _ at_old rfl rfl).trans (Int.add_zero _).symm
      | alone => exact (drift_turn s l _ _ at_old rfl rfl).trans (Int.add_zero _).symm
      | fills => exact (drift_turn s l _ _ at_old rfl rfl).trans (Int.add_zero _).symm
      | admits => exact (drift_turn s l _ _ at_old rfl rfl).trans (Int.add_zero _).symm
      | reserves => exact (drift_turn s l _ _ at_old rfl rfl).trans (Int.add_zero _).symm
      | refuses => exact (drift_turn s l _ _ at_old rfl rfl).trans (Int.add_zero _).symm
      | fails => exact (drift_turn s l _ _ at_old rfl rfl).trans (Int.add_zero _).symm
  | starts l addr at_admitted =>
      exact (drift_turn s l _ (.started s.clients.length) at_admitted rfl rfl).trans (Int.add_zero _).symm
  | links l client at_started idle =>
      have counted : listenersIn isLinked (s.dispatch l (.linked client)) = listenersIn isLinked s + 1 :=
        dispatch_count isLinked s l _ (.linked client) at_started
      have more : drift { s.dispatch l (.linked client) with cthreads := client :: s.cthreads } =
          s.basis + listenersIn isLinked (s.dispatch l (.linked client)) - (s.cthreads.length + 1) - due s.sweep := rfl
      have none : slip s (.link l) = 0 := rfl
      rw [more, counted, drift, none]
      omega
  | counts l client at_linked =>
      have counted : listenersIn isLinked (s.dispatch l .accepting) + 1 = listenersIn isLinked s :=
        dispatch_count isLinked s l _ .accepting at_linked
      have less : drift { s.dispatch l .accepting with clientCount := s.clientCount + 1 } =
          Server.basis { s with clientCount := s.clientCount + 1 } + listenersIn isLinked (s.dispatch l .accepting) -
            s.cthreads.length - due s.sweep := rfl
      rw [less, drift, slip, Server.basis, Server.basis]
      dsimp only
      split
      · omega
      · omega
  | ends client => exact (Int.add_zero _).symm
  | sweeps idle =>
      rw [drift, drift, Server.basis, Server.basis, idle]
      exact (Int.add_zero _).symm
  | reaps client rest looping closed =>
      have member : client ∈ s.cthreads := by
        apply entries.rest_linked
        rw [looping]
        exact List.mem_cons_self
      have positive : 0 < s.cthreads.length := List.length_pos_of_mem member
      have shorter : (s.cthreads.erase client).length = s.cthreads.length - 1 := List.length_erase_of_mem member
      have same : listenersIn isLinked { s with cthreads := s.cthreads.erase client, sweep := .unlinked rest } = listenersIn isLinked s :=
        rfl
      have none : slip s .visit = 0 := rfl
      rw [drift, drift, Server.basis, Server.basis, same, looping, due, due, none]
      dsimp only
      rw [shorter]
      omega
  | passes client rest looping alive =>
      rw [drift, drift, Server.basis, Server.basis, looping]
      exact (Int.add_zero _).symm
  | finds rest unlinked positive =>
      rw [drift, drift, Server.basis, Server.basis, unlinked, slip, if_pos positive]
      exact (Int.add_zero _).symm
  | spares rest unlinked zero =>
      have same : listenersIn isLinked { s with sweep := .looping rest } = listenersIn isLinked s := rfl
      rw [drift, drift, Server.basis, Server.basis, same, unlinked, due, due, slip, if_neg zero]
      dsimp only
      omega
  | loads rest reading =>
      rw [drift, drift, Server.basis, Server.basis, reading]
      exact (Int.add_zero _).symm
  | stores value rest holding =>
      have same : listenersIn isLinked { s with clientCount := value - 1, sweep := .looping rest } = listenersIn isLinked s := rfl
      have none : slip s .store = 0 := rfl
      rw [drift, drift, Server.basis, Server.basis, same, holding, due, due, none]
      dsimp only
      omega
  | releases done =>
      rw [drift, drift, Server.basis, Server.basis, done]
      exact (Int.add_zero _).symm

theorem in_turn_slip (s : Server) (event : ServerEvent) (turn : InTurn s event) : slip s event = 0 := by
  cases event with
  | test => exact if_pos turn
  | count l =>
      rw [slip]
      split
      · next value rest holding => exact absurd holding (turn value rest)
      · rfl
  | _ => rfl

theorem drift_new (listeners : Nat) : drift (newServer listeners) = 0 := by
  rw [drift, listeners_none isLinked _ (new_accepting listeners) rfl]
  rfl

theorem quiet_drift (s : Server) (quiet : Quiet s) : drift s = s.clientCount - s.cthreads.length := by
  rw [drift, listeners_none isLinked s quiet.1 rfl]
  rcases quiet.2 with idle | ⟨rest, looping⟩
  · rw [Server.basis, idle, due]
    dsimp only
    omega
  · rw [Server.basis, looping, due]
    dsimp only
    omega

theorem counted_of_drift (s : Server) (passed : List Nat) (entries : Entries s passed) (level : drift s = 0) : Counted config s passed := by
  have count (quiet : Quiet s) : s.clientCount = s.cthreads.length := by
    have same := quiet_drift s quiet
    omega
  refine ⟨count, fun client member => (entries.gone client member).2, fun quiet none => ?_⟩
  have zero : s.clientCount = 0 := by
    rw [count quiet, none]
    rfl
  refine ⟨zero, fun limit => ?_⟩
  obtain ⟨set, reached⟩ := limit
  have positive : 0 < (maxClients config).toNat := set
  omega

theorem counted_along (s : Server) (passed : List Nat) (events : List ServerEvent) (entries : Entries s passed) (level : drift s = 0)
    (turns : AllInTurn config s events) : CountedAlong config s passed events := by
  induction events generalizing s passed with
  | nil => exact counted_of_drift config s passed entries level
  | cons event rest ih =>
      refine ⟨counted_of_drift config s passed entries level, fun next step => ?_⟩
      apply ih next (passedStep s passed event)
      · exact entries_step config s next passed event step entries
      · rw [drift_step config s next passed entries event step, level, in_turn_slip s event turns.1]
        rfl
      · exact turns.2 next step

theorem client_count_linked (listeners : Nat) (events : List ServerEvent) (turns : AllInTurn config (newServer listeners) events) :
    CountedAlong config (newServer listeners) [] events :=
  counted_along config (newServer listeners) [] events (entries_new listeners) (drift_new listeners) turns

end

def connects (addr : IPAddress) : List ServerEvent := [.accept 0 addr, .limitAddress 0, .limitClients 0, .start 0 true, .link 0]

def reaped : List ServerEvent := [.sweep, .visit, .test, .load, .store, .release]

theorem in_turn_cons (config : ServerConfig) (s next : Server) (event : ServerEvent) (rest : List ServerEvent) (turn : InTurn s event)
    (step : serverStep config s event = some next) (more : AllInTurn config next rest) : AllInTurn config s (event :: rest) := by
  refine ⟨turn, fun other same => ?_⟩
  obtain rfl : next = other := Option.some.inj (step.symm.trans same)
  exact more

def localClient : IPAddress := ⟨.interNetwork, [10, 0, 0, 1], 0⟩

theorem client_counted_and_reaped : CountedAlong initialConfig (newServer 1) []
    (connects localClient ++ [.count 0, .ends 0] ++ reaped) := by
  apply client_count_linked
  iterate 5 refine in_turn_cons _ _ _ _ _ trivial rfl ?_
  refine in_turn_cons _ _ _ _ _ (fun _ _ => Sweep.noConfusion) rfl ?_
  iterate 3 refine in_turn_cons _ _ _ _ _ trivial rfl ?_
  refine in_turn_cons _ _ _ _ _ Int.one_pos rfl ?_
  iterate 3 refine in_turn_cons _ _ _ _ _ trivial rfl ?_
  trivial

-- The client ends and is reaped before its listener counts it.
theorem count_of_nobody : ¬ CountedAlong initialConfig (newServer 1) []
    (connects localClient ++ [.ends 0, .sweep, .visit, .test, .release, .count 0]) := by
  intro along
  have last := (((((((((((along.2 _ rfl).2 _ rfl).2 _ rfl).2 _ rfl).2 _ rfl).2 _ rfl).2 _ rfl).2 _ rfl).2 _ rfl).2 _ rfl).2 _ rfl)
  have count := last.count ⟨by decide, .inl rfl⟩
  exact absurd count (by decide)

end RingServer.Net
