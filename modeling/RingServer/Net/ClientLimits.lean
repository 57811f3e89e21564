import RingServer.Net.ClientCount
import Mathlib.Data.List.Perm.Subperm

set_option autoImplicit false

namespace RingServer.Net

open Config

def Server.runningFrom (s : Server) (addr : IPAddress) (client : Nat) : Bool :=
  s.clients[client]?.any fun cinfo => !cinfo.closed && cinfo.addr = addr

def startedClient : Dispatch → Option Nat
  | .started client => some client
  | _ => none

def startedWith (kind : Nat → Bool) (dispatch : Dispatch) : Bool := ((startedClient dispatch).map kind).getD false

def connected (s : Server) : Nat := (List.range s.clients.length).countP s.running + listenersIn isAdmitted s

def connectedFrom (s : Server) (addr : IPAddress) : Nat :=
  (List.range s.clients.length).countP (s.runningFrom addr) + listenersIn (fun dispatch => dispatch = .admitted addr) s

def isUncounted : Dispatch → Bool
  | .admitted _ => true
  | .started _ => true
  | .linked _ => true
  | _ => false

def taken (s : Server) : Int := s.clientCount + listenersIn isUncounted s

def dispatching (s : Server) (addr : IPAddress) : Dispatch → Bool
  | .limited other => other = addr
  | .full other => other = addr
  | .admitted other => other = addr
  | .started client => s.clients[client]?.any fun cinfo => cinfo.addr = addr
  | _ => false

def coming (s : Server) (addr : IPAddress) : Nat := clientIPCount s addr + listenersIn (dispatching s addr) s

section

variable (config : ServerConfig)

structure Limited (s : Server) : Prop where
  total : connected s ≤ (maxClients config).toNat + reserveConnections.toNat
  address : ∀ addr, isWriteIP config addr = false → connectedFrom s addr ≤ (maxClientsPerIP config).toNat

def AdmitsBelow (s next : Server) : Prop := ∀ (l : Nat) (addr : IPAddress), isWriteIP config addr = false →
  s.listeners[l]? ≠ some (.admitted addr) → next.listeners[l]? = some (.admitted addr) → connected s < (maxClients config).toNat

def LimitedAlong : Server → List ServerEvent → Prop
  | s, [] => Limited config s
  | s, event :: rest => Limited config s ∧ ∀ next, serverStep config s event = some next →
      AdmitsBelow config s next ∧ LimitedAlong next rest

-- A check that passes still passes with the clients that the other listeners let through
-- before, and is below the reserve space; no increment is written over.
def HasRoom (s : Server) : ServerEvent → Prop
  | .limitAddress l => ∀ addr, s.listeners[l]? = some (.accepted addr) → isWriteIP config addr = false →
      clientIPCount s addr < (maxClientsPerIP config).toNat → coming s addr < (maxClientsPerIP config).toNat
  | .limitClients l => ∀ addr, s.listeners[l]? = some (.limited addr) → s.clientCount < (maxClients config).toNat →
      taken s < (maxClients config).toNat + if isWriteIP config addr then reserveConnections.toNat else 0
  | .reserve l => ∀ addr, s.listeners[l]? = some (.full addr) → isWriteIP config addr = true →
      s.clientCount ≤ (maxClients config + reserveConnections).toNat → taken s < (maxClients config).toNat + reserveConnections.toNat
  | .count _ => ∀ value rest, s.sweep ≠ .holding value rest
  | _ => True

def AllHaveRoom : Server → List ServerEvent → Prop
  | _, [] => True
  | s, event :: rest => HasRoom config s event ∧ ∀ next, serverStep config s event = some next → AllHaveRoom next rest

end

theorem count_add_le (first second both : Dispatch → Bool) (listeners : List Dispatch)
    (apart : ∀ dispatch, first dispatch = true → second dispatch = false) (left : ∀ dispatch, first dispatch = true → both dispatch = true)
    (right : ∀ dispatch, second dispatch = true → both dispatch = true) :
    listeners.countP first + listeners.countP second ≤ listeners.countP both := by
  induction listeners with
  | nil => exact Nat.le_refl 0
  | cons dispatch rest ih =>
      rw [List.countP_cons, List.countP_cons, List.countP_cons]
      by_cases isFirst : first dispatch = true
      · rw [if_pos isFirst, apart dispatch isFirst, left dispatch isFirst, if_neg Bool.false_ne_true, if_pos rfl]
        omega
      · rw [if_neg isFirst]
        by_cases isSecond : second dispatch = true
        · rw [if_pos isSecond, right dispatch isSecond, if_pos rfl]
          omega
        · rw [if_neg isSecond]
          omega

theorem running_le (s : Server) (passed : List Nat) (entries : Entries s passed) (kind : Nat → Bool)
    (runs : ∀ client, kind client = true → s.running client = true) :
    (List.range s.clients.length).countP kind ≤ s.cthreads.countP kind + listenersIn (startedWith kind) s := by
  have split : ((List.range s.clients.length).filter kind) ⊆ (s.cthreads ++ s.listeners.filterMap startedClient).filter kind := by
    intro client member
    obtain ⟨-, holds⟩ := List.mem_filter.mp member
    refine List.mem_filter.mpr ⟨List.mem_append.mpr ?_, holds⟩
    rcases entries.listed client (runs client holds) with linked | ⟨l, started⟩
    · exact .inl linked
    · exact .inr (List.mem_filterMap.mpr ⟨_, List.mem_of_getElem? started, rfl⟩)
  have shorter := (List.subperm_of_subset (List.nodup_range.filter kind) split).length_le
  rw [← List.countP_eq_length_filter, ← List.countP_eq_length_filter, List.countP_append, List.countP_filterMap] at shorter
  exact shorter

theorem due_nonneg (sweep : Sweep) : 0 ≤ due sweep := by
  cases sweep with
  | idle => exact Int.le_refl 0
  | looping => exact Int.le_refl 0
  | unlinked => exact Int.one_nonneg
  | reading => exact Int.one_nonneg
  | holding => exact Int.one_nonneg

theorem uncounted_le (s : Server) :
    listenersIn isAdmitted s + listenersIn isStarted s + listenersIn isLinked s ≤ listenersIn isUncounted s := by
  have early : listenersIn isAdmitted s + listenersIn isStarted s ≤
      listenersIn (fun dispatch => isAdmitted dispatch || isStarted dispatch) s := by
    apply count_add_le
    · intro dispatch holds
      cases dispatch with
      | admitted addr => rfl
      | _ => exact absurd holds Bool.false_ne_true
    · exact fun dispatch holds => Bool.or_inl holds
    · exact fun dispatch holds => Bool.or_inr holds
  have all : listenersIn (fun dispatch => isAdmitted dispatch || isStarted dispatch) s + listenersIn isLinked s ≤
      listenersIn isUncounted s := by
    apply count_add_le
    · intro dispatch holds
      cases dispatch with
      | linked client => exact absurd holds Bool.false_ne_true
      | _ => rfl
    · intro dispatch holds
      cases dispatch with
      | admitted addr => rfl
      | started client => rfl
      | _ => exact absurd holds Bool.false_ne_true
    · intro dispatch holds
      cases dispatch with
      | linked client => rfl
      | _ => exact absurd holds Bool.false_ne_true
  omega

theorem connected_le (s : Server) (passed : List Nat) (entries : Entries s passed) (ahead : 0 ≤ drift s) (fresh : s.basis = s.clientCount) :
    connected s ≤ taken s := by
  have running := running_le s passed entries s.running fun _ runs => runs
  have linked : s.cthreads.countP s.running ≤ s.cthreads.length := List.countP_le_length
  have started : listenersIn (startedWith s.running) s ≤ listenersIn isStarted s := by
    apply List.countP_mono_left
    intro dispatch _ holds
    cases dispatch with
    | started client => rfl
    | _ => exact absurd holds Bool.false_ne_true
  have dues := due_nonneg s.sweep
  have uncounted := uncounted_le s
  rw [drift, fresh] at ahead
  rw [connected, taken]
  omega

theorem connected_from_le (s : Server) (passed : List Nat) (entries : Entries s passed) (addr : IPAddress) :
    connectedFrom s addr ≤ coming s addr := by
  have from_addr (client : Nat) (runs : s.runningFrom addr client = true) :
      s.running client = true ∧ s.clients[client]?.any (fun cinfo => cinfo.addr = addr) = true := by
    rw [Server.runningFrom, Option.any_eq_true] at runs
    obtain ⟨cinfo, found, holds⟩ := runs
    rw [Bool.and_eq_true] at holds
    exact ⟨by rw [Server.running, found]; exact holds.1, by rw [found]; exact holds.2⟩
  have running := running_le s passed entries (s.runningFrom addr) fun client runs => (from_addr client runs).1
  have linked : s.cthreads.countP (s.runningFrom addr) ≤ clientIPCount s addr :=
    List.countP_mono_left fun client _ runs => (from_addr client runs).2
  have rest : listenersIn (startedWith (s.runningFrom addr)) s + listenersIn (fun dispatch => dispatch = .admitted addr) s ≤
      listenersIn (dispatching s addr) s := by
    apply count_add_le
    · intro dispatch holds
      cases dispatch with
      | started client => exact decide_eq_false Dispatch.noConfusion
      | _ => exact absurd holds Bool.false_ne_true
    · intro dispatch holds
      cases dispatch with
      | started client => exact (from_addr client holds).2
      | _ => exact absurd holds Bool.false_ne_true
    · intro dispatch holds
      obtain rfl := of_decide_eq_true holds
      exact decide_eq_true rfl
  rw [connectedFrom, coming]
  omega

theorem slip_nonneg (s : Server) (event : ServerEvent)
    (apart : ∀ l, event = .count l → ∀ value rest, s.sweep ≠ .holding value rest) : 0 ≤ slip s event := by
  cases event with
  | test =>
      rw [slip]
      split
      · exact Int.le_refl 0
      · exact Int.one_nonneg
  | count l =>
      rw [slip]
      split
      · next value rest holding => exact absurd holding (apart l rfl value rest)
      · exact Int.le_refl 0
  | _ => exact Int.le_refl 0

section

variable (config : ServerConfig) (s next : Server) (event : ServerEvent)

theorem room_apart (room : HasRoom config s event) (l : Nat) (counts : event = .count l) (value : Int) (rest : List Nat) :
    s.sweep ≠ .holding value rest := by
  subst counts
  exact room value rest

theorem basis_step (room : HasRoom config s event) (step : serverStep config s event = some next) (fresh : s.basis = s.clientCount) :
    next.basis = next.clientCount := by
  cases steps_of config s event next step with
  | rejects l addr => exact fresh
  | turns _ l old new at_old turn => exact fresh
  | starts l addr at_admitted => exact fresh
  | links l client at_started idle => exact fresh
  | counts l client at_linked =>
      rw [Server.basis]
      dsimp only
      split
      · next value rest holding => exact absurd holding (room value rest)
      · rfl
  | ends client => exact fresh
  | sweeps idle => rfl
  | reaps client rest looping closed => rfl
  | passes client rest looping alive => rfl
  | finds rest unlinked positive => rfl
  | spares rest unlinked zero => rfl
  | loads rest reading => rfl
  | stores value rest holding => rfl
  | releases done => rfl

theorem taken_step (set : maxClients config > 0) (room : HasRoom config s event) (step : serverStep config s event = some next)
    (fresh : s.basis = s.clientCount) (bound : taken s ≤ (maxClients config).toNat + reserveConnections.toNat) :
    taken next ≤ (maxClients config).toNat + reserveConnections.toNat := by
  cases steps_of config s event next step with
  | rejects l addr => exact bound
  | turns _ l old new at_old turn =>
      have moved := dispatch_count isUncounted s l old new at_old
      have after : taken (s.dispatch l new) = s.clientCount + listenersIn isUncounted (s.dispatch l new) := rfl
      rw [after]
      cases turn with
      | admits l addr few =>
          have more : listenersIn isUncounted (s.dispatch l (.admitted addr)) = listenersIn isUncounted s + 1 := moved
          have below := room addr at_old (few set)
          have least : (if isWriteIP config addr then reserveConnections.toNat else 0) ≤ reserveConnections.toNat := by
            split
            · exact Nat.le_refl _
            · exact Nat.zero_le _
          rw [taken] at below
          omega
      | reserves l addr write few =>
          have more : listenersIn isUncounted (s.dispatch l (.admitted addr)) = listenersIn isUncounted s + 1 := moved
          have below := room addr at_old write few
          rw [taken] at below
          omega
      | fails l addr =>
          have fewer : listenersIn isUncounted (s.dispatch l .accepting) + 1 = listenersIn isUncounted s := moved
          rw [taken] at bound
          omega
      | accepts l addr => rwa [show listenersIn isUncounted (s.dispatch l (.accepted addr)) = listenersIn isUncounted s from moved]
      | crowded l addr => rwa [show listenersIn isUncounted (s.dispatch l .accepting) = listenersIn isUncounted s from moved]
      | alone l addr few => rwa [show listenersIn isUncounted (s.dispatch l (.limited addr)) = listenersIn isUncounted s from moved]
      | fills l addr => rwa [show listenersIn isUncounted (s.dispatch l (.full addr)) = listenersIn isUncounted s from moved]
      | refuses l addr => rwa [show listenersIn isUncounted (s.dispatch l .accepting) = listenersIn isUncounted s from moved]
  | starts l addr at_admitted =>
      have moved := dispatch_count isUncounted s l _ (.started s.clients.length) at_admitted
      have same : listenersIn isUncounted (s.dispatch l (.started s.clients.length)) = listenersIn isUncounted s := Nat.succ.inj moved
      show s.clientCount + (listenersIn isUncounted (s.dispatch l (.started s.clients.length)) : Int) ≤ _
      rwa [same]
  | links l client at_started idle =>
      have moved := dispatch_count isUncounted s l _ (.linked client) at_started
      have same : listenersIn isUncounted (s.dispatch l (.linked client)) = listenersIn isUncounted s := Nat.succ.inj moved
      show s.clientCount + (listenersIn isUncounted (s.dispatch l (.linked client)) : Int) ≤ _
      rwa [same]
  | counts l client at_linked =>
      have fewer : listenersIn isUncounted (s.dispatch l .accepting) + 1 = listenersIn isUncounted s :=
        dispatch_count isUncounted s l _ .accepting at_linked
      show s.clientCount + 1 + (listenersIn isUncounted (s.dispatch l .accepting) : Int) ≤ _
      rw [taken] at bound
      omega
  | ends client => exact bound
  | sweeps idle => exact bound
  | reaps client rest looping closed => exact bound
  | passes client rest looping alive => exact bound
  | finds rest unlinked positive => exact bound
  | spares rest unlinked zero => exact bound
  | loads rest reading => exact bound
  | stores value rest holding =>
      have held : value = s.clientCount := by
        rw [← fresh, Server.basis, holding]
      show value - 1 + (listenersIn isUncounted s : Int) ≤ _
      rw [taken] at bound
      omega
  | releases done => exact bound

theorem coming_dispatch (addr : IPAddress) (l : Nat) (old new : Dispatch) (at_old : s.listeners[l]? = some old) :
    coming (s.dispatch l new) addr + (if dispatching s addr old then 1 else 0) =
      coming s addr + if dispatching s addr new then 1 else 0 := by
  have moved := dispatch_count (dispatching s addr) s l old new at_old
  have split : coming (s.dispatch l new) addr = clientIPCount s addr + listenersIn (dispatching s addr) (s.dispatch l new) := rfl
  rw [split, coming]
  omega

theorem coming_append (addr : IPAddress) (cinfo : Client) (passed : List Nat) (entries : Entries s passed) :
    coming { s with clients := s.clients ++ [cinfo] } addr = coming s addr := by
  have linked : clientIPCount { s with clients := s.clients ++ [cinfo] } addr = clientIPCount s addr := by
    apply List.countP_congr
    intro client member
    rw [List.getElem?_append_left (entries.known client member)]
  have started : listenersIn (dispatching { s with clients := s.clients ++ [cinfo] } addr)
      { s with clients := s.clients ++ [cinfo] } = listenersIn (dispatching s addr) s := by
    apply List.countP_congr
    intro dispatch member
    cases dispatch with
    | started client =>
        obtain ⟨l, started⟩ := List.mem_iff_getElem?.mp member
        rw [dispatching, dispatching, List.getElem?_append_left (entries.pending l client started).1]
    | _ => exact Iff.rfl
  rw [coming, coming, linked, started]

theorem ends_addr (client other : Nat) (addr : IPAddress) :
    ((s.clients.modify client fun cinfo => { cinfo with closed := true })[other]?.any fun cinfo => cinfo.addr = addr) =
      s.clients[other]?.any fun cinfo => cinfo.addr = addr := by
  rw [List.getElem?_modify]
  cases s.clients[other]? with
  | none => rfl
  | some cinfo =>
      by_cases here : client = other
      · simp [here]
      · simp [here]

theorem coming_ends (client : Nat) (addr : IPAddress) :
    coming { s with clients := s.clients.modify client fun cinfo => { cinfo with closed := true } } addr = coming s addr := by
  have linked : clientIPCount { s with clients := s.clients.modify client fun cinfo => { cinfo with closed := true } } addr =
      clientIPCount s addr := by
    apply List.countP_congr
    intro other _
    rw [ends_addr s client other addr]
  have started : listenersIn (dispatching { s with clients := s.clients.modify client fun cinfo => { cinfo with closed := true } } addr)
      { s with clients := s.clients.modify client fun cinfo => { cinfo with closed := true } } = listenersIn (dispatching s addr) s := by
    apply List.countP_congr
    intro dispatch _
    cases dispatch with
    | started other => rw [dispatching, dispatching, ends_addr s client other addr]
    | _ => exact Iff.rfl
  rw [coming, coming, linked, started]

theorem coming_step (setPerIP : maxClientsPerIP config > 0) (passed : List Nat) (entries : Entries s passed)
    (room : HasRoom config s event) (step : serverStep config s event = some next) (addr : IPAddress)
    (reader : isWriteIP config addr = false) (bound : coming s addr ≤ (maxClientsPerIP config).toNat) :
    coming next addr ≤ (maxClientsPerIP config).toNat := by
  cases steps_of config s event next step with
  | rejects l other => exact bound
  | turns _ l old new at_old turn =>
      have moved := coming_dispatch s addr l old new at_old
      cases turn with
      | alone l other few =>
          by_cases same : other = addr
          · subst same
            have below := room other at_old reader (few setPerIP reader)
            have less : coming (s.dispatch l (.limited other)) other ≤ coming s other + 1 := by
              split at moved <;> split at moved <;> omega
            omega
          · have apart : dispatching s addr (.limited other) = false := decide_eq_false same
            rw [apart] at moved
            have unmoved : coming (s.dispatch l (.limited other)) addr = coming s addr := moved
            rwa [unmoved]
      | accepts l other => exact Nat.le_trans (Nat.le_of_eq moved) bound
      | crowded l other => exact Nat.le_trans (Nat.le_of_eq moved) bound
      | fills l other => exact Nat.le_trans (Nat.le_of_eq (Nat.add_right_cancel moved)) bound
      | admits l other few => exact Nat.le_trans (Nat.le_of_eq (Nat.add_right_cancel moved)) bound
      | reserves l other write few => exact Nat.le_trans (Nat.le_of_eq (Nat.add_right_cancel moved)) bound
      | refuses l other => exact Nat.le_trans (Nat.le_of_add_right_le (Nat.le_of_eq moved)) bound
      | fails l other => exact Nat.le_trans (Nat.le_of_add_right_le (Nat.le_of_eq moved)) bound
  | starts l other at_admitted =>
      have appended := coming_append s addr ⟨other, isWriteIP config other, false⟩ passed entries
      have moved := coming_dispatch { s with clients := s.clients ++ [⟨other, isWriteIP config other, false⟩] } addr l _
        (.started s.clients.length) at_admitted
      have same : dispatching { s with clients := s.clients ++ [⟨other, isWriteIP config other, false⟩] } addr
          (.started s.clients.length) = dispatching s addr (.admitted other) := by
        rw [dispatching, dispatching, List.getElem?_concat_length]
        rfl
      rw [same] at moved
      exact Nat.le_trans (Nat.le_of_eq ((Nat.add_right_cancel moved).trans appended)) bound
  | links l client at_started idle =>
      have moved := coming_dispatch s addr l _ (.linked client) at_started
      have longer : coming { s.dispatch l (.linked client) with cthreads := client :: s.cthreads } addr =
          coming (s.dispatch l (.linked client)) addr + if dispatching s addr (.started client) then 1 else 0 := by
        have count : clientIPCount { s.dispatch l (.linked client) with cthreads := client :: s.cthreads } addr =
            clientIPCount (s.dispatch l (.linked client)) addr + if dispatching s addr (.started client) then 1 else 0 := List.countP_cons
        have same : listenersIn (dispatching { s.dispatch l (.linked client) with cthreads := client :: s.cthreads } addr)
            { s.dispatch l (.linked client) with cthreads := client :: s.cthreads } =
            listenersIn (dispatching (s.dispatch l (.linked client)) addr) (s.dispatch l (.linked client)) := rfl
        rw [coming, coming, count, same]
        omega
      rw [longer]
      exact Nat.le_trans (Nat.le_of_eq moved) bound
  | counts l client at_linked => exact Nat.le_trans (Nat.le_of_eq (coming_dispatch s addr l _ .accepting at_linked)) bound
  | ends client => rwa [coming_ends]
  | sweeps idle => exact bound
  | reaps client rest looping closed =>
      have fewer : clientIPCount { s with cthreads := s.cthreads.erase client, sweep := .unlinked rest } addr ≤ clientIPCount s addr :=
        List.erase_sublist.countP_le
      exact Nat.le_trans (Nat.add_le_add_right fewer _) bound
  | passes client rest looping alive => exact bound
  | finds rest unlinked positive => exact bound
  | spares rest unlinked zero => exact bound
  | loads rest reading => exact bound
  | stores value rest holding => exact bound
  | releases done => exact bound

structure Bounded : Prop where
  entries : ∃ passed, Entries s passed
  ahead : 0 ≤ drift s
  fresh : s.basis = s.clientCount
  total : taken s ≤ (maxClients config).toNat + reserveConnections.toNat
  address : ∀ addr, isWriteIP config addr = false → coming s addr ≤ (maxClientsPerIP config).toNat

theorem bounded_limited (bounded : Bounded config s) : Limited config s := by
  obtain ⟨passed, entries⟩ := bounded.entries
  refine ⟨?_, fun addr reader => Nat.le_trans (connected_from_le s passed entries addr) (bounded.address addr reader)⟩
  have total := Int.le_trans (connected_le s passed entries bounded.ahead bounded.fresh) bounded.total
  exact Int.ofNat_le.mp total

theorem bounded_step (set : maxClients config > 0) (setPerIP : maxClientsPerIP config > 0) (bounded : Bounded config s)
    (room : HasRoom config s event) (step : serverStep config s event = some next) : Bounded config next := by
  obtain ⟨passed, entries⟩ := bounded.entries
  refine ⟨⟨passedStep s passed event, entries_step config s next passed event step entries⟩, ?_, ?_, ?_, ?_⟩
  · rw [drift_step config s next passed entries event step]
    exact Int.add_nonneg bounded.ahead (slip_nonneg s event (room_apart config s event room))
  · exact basis_step config s next event room step bounded.fresh
  · exact taken_step config s next event set room step bounded.fresh bounded.total
  · intro addr reader
    exact coming_step config s next event setPerIP passed entries room step addr reader (bounded.address addr reader)

theorem admits_below (set : maxClients config > 0) (bounded : Bounded config s) (room : HasRoom config s event)
    (step : serverStep config s event = some next) : AdmitsBelow config s next := by
  obtain ⟨passed, entries⟩ := bounded.entries
  have below := connected_le s passed entries bounded.ahead bounded.fresh
  intro k addr reader before after
  cases steps_of config s event next step with
  | turns _ l old new at_old turn =>
      by_cases here : l = k
      · subst here
        rw [dispatch_same s l old new at_old, Option.some.injEq] at after
        subst after
        cases turn with
        | admits _ _ few =>
            have room := room addr at_old (few set)
            rw [reader] at room
            simp only [Bool.false_eq_true, if_false] at room
            omega
        | reserves _ _ write few => rw [reader] at write; exact Bool.noConfusion write
      · rw [dispatch_other s l k new here] at after
        exact absurd after before
  | starts l other at_admitted => exact absurd (dispatch_before s l k _ _ Dispatch.noConfusion after).2 before
  | links l client at_started idle => exact absurd (dispatch_before s l k _ _ Dispatch.noConfusion after).2 before
  | counts l client at_linked => exact absurd (dispatch_before s l k _ _ Dispatch.noConfusion after).2 before
  | _ => exact absurd after before

theorem limited_along (set : maxClients config > 0) (setPerIP : maxClientsPerIP config > 0) (events : List ServerEvent)
    (bounded : Bounded config s) (room : AllHaveRoom config s events) : LimitedAlong config s events := by
  induction events generalizing s with
  | nil => exact bounded_limited config s bounded
  | cons event rest ih =>
      refine ⟨bounded_limited config s bounded, fun next step => ⟨admits_below config s next event set bounded room.1 step, ?_⟩⟩
      exact ih next (bounded_step config s next event set setPerIP bounded room.1 step) (room.2 next step)

theorem bounded_new (listeners : Nat) : Bounded config (newServer listeners) := by
  have accepting := new_accepting listeners
  refine ⟨⟨[], entries_new listeners⟩, Int.le_of_eq (drift_new listeners).symm, rfl, ?_, fun addr _ => ?_⟩
  · rw [taken, listeners_none isUncounted _ accepting rfl]
    exact Int.natCast_nonneg _
  · rw [coming, listeners_none _ _ accepting rfl]
    exact Nat.zero_le _

theorem connections_limited (set : maxClients config > 0) (setPerIP : maxClientsPerIP config > 0) (listeners : Nat)
    (events : List ServerEvent) (room : AllHaveRoom config (newServer listeners) events) :
    LimitedAlong config (newServer listeners) events :=
  limited_along config (newServer listeners) set setPerIP events (bounded_new config listeners) room

end

def limitConfig (limit perIP : UInt32) : ServerConfig :=
  { initialConfig with values := Function.update (Function.update initialConfig.values .maxClients limit) .maxClientsPerIP perIP }

theorem all_have_room_cons (config : ServerConfig) (s next : Server) (event : ServerEvent) (rest : List ServerEvent)
    (room : HasRoom config s event) (step : serverStep config s event = some next) (more : AllHaveRoom config next rest) :
    AllHaveRoom config s (event :: rest) := by
  refine ⟨room, fun other same => ?_⟩
  obtain rfl : next = other := Option.some.inj (step.symm.trans same)
  exact more

theorem first_client_limited : LimitedAlong (limitConfig 1 1) (newServer 1) (connects localClient ++ [.count 0]) := by
  apply connections_limited (limitConfig 1 1) (by decide) (by decide)
  refine all_have_room_cons _ _ _ _ _ trivial rfl ?_
  refine all_have_room_cons _ _ _ _ _ (fun addr found => ?_) rfl ?_
  · cases found
    decide
  refine all_have_room_cons _ _ _ _ _ (fun addr found => ?_) rfl ?_
  · cases found
    decide
  iterate 2 refine all_have_room_cons _ _ _ _ _ trivial rfl ?_
  refine all_have_room_cons _ _ _ _ _ (fun _ _ => Sweep.noConfusion) rfl ?_
  trivial

-- Two listeners take the last place for two clients of one address.
def lastPlace : List ServerEvent :=
  [.accept 0 localClient, .limitAddress 0, .accept 1 localClient, .limitAddress 1, .limitClients 0, .limitClients 1]

theorem last_place_taken_twice : maxClients (limitConfig 1 1) > 0 ∧ maxClientsPerIP (limitConfig 1 1) > 0 ∧
    ¬ LimitedAlong (limitConfig 1 1) (newServer 2) lastPlace := by
  refine ⟨by decide, by decide, fun along => ?_⟩
  have last := (((((along.2 _ rfl).2.2 _ rfl).2.2 _ rfl).2.2 _ rfl).2.2 _ rfl).2.2 _ rfl
  have few := last.2.address localClient (by decide)
  exact absurd few (by decide)

end RingServer.Net
