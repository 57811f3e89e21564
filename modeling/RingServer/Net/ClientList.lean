import RingServer.Net.ListenServer
import Mathlib.Data.List.Basic

set_option autoImplicit false

namespace RingServer.Net

open Config

section

variable (config : ServerConfig) (s : Server)

inductive Turn : ServerEvent → Nat → Dispatch → Dispatch → Prop where
  | accepts (l : Nat) (addr : IPAddress) : Turn (.accept l addr) l .accepting (.accepted addr)
  | crowded (l : Nat) (addr : IPAddress) : Turn (.limitAddress l) l (.accepted addr) .accepting
  | alone (l : Nat) (addr : IPAddress)
      (few : maxClientsPerIP config > 0 → isWriteIP config addr = false → clientIPCount s addr < (maxClientsPerIP config).toNat) :
      Turn (.limitAddress l) l (.accepted addr) (.limited addr)
  | fills (l : Nat) (addr : IPAddress) : Turn (.limitClients l) l (.limited addr) (.full addr)
  | admits (l : Nat) (addr : IPAddress) (few : maxClients config > 0 → s.clientCount < (maxClients config).toNat) :
      Turn (.limitClients l) l (.limited addr) (.admitted addr)
  | reserves (l : Nat) (addr : IPAddress) (write : isWriteIP config addr = true)
      (few : s.clientCount ≤ (maxClients config + reserveConnections).toNat) : Turn (.reserve l) l (.full addr) (.admitted addr)
  | refuses (l : Nat) (addr : IPAddress) : Turn (.reserve l) l (.full addr) .accepting
  | fails (l : Nat) (addr : IPAddress) : Turn (.start l false) l (.admitted addr) .accepting

inductive Steps : ServerEvent → Server → Prop where
  | rejects (l : Nat) (addr : IPAddress) : Steps (.accept l addr) s
  | turns (event : ServerEvent) (l : Nat) (old new : Dispatch) (at_old : s.listeners[l]? = some old)
      (turn : Turn config s event l old new) : Steps event (s.dispatch l new)
  | starts (l : Nat) (addr : IPAddress) (at_admitted : s.listeners[l]? = some (.admitted addr)) :
      Steps (.start l true)
        { s.dispatch l (.started s.clients.length) with clients := s.clients ++ [⟨addr, isWriteIP config addr, false⟩] }
  | links (l client : Nat) (at_started : s.listeners[l]? = some (.started client)) (idle : s.sweep = .idle) :
      Steps (.link l) { s.dispatch l (.linked client) with cthreads := client :: s.cthreads }
  | counts (l client : Nat) (at_linked : s.listeners[l]? = some (.linked client)) :
      Steps (.count l) { s.dispatch l .accepting with clientCount := s.clientCount + 1 }
  | ends (client : Nat) :
      Steps (.ends client) { s with clients := s.clients.modify client fun cinfo => { cinfo with closed := true } }
  | sweeps (idle : s.sweep = .idle) : Steps .sweep { s with sweep := .looping s.cthreads }
  | reaps (client : Nat) (rest : List Nat) (looping : s.sweep = .looping (client :: rest))
      (closed : s.clients[client]?.any (·.closed) = true) :
      Steps .visit { s with cthreads := s.cthreads.erase client, sweep := .unlinked rest }
  | passes (client : Nat) (rest : List Nat) (looping : s.sweep = .looping (client :: rest))
      (alive : s.clients[client]?.any (·.closed) = false) : Steps .visit { s with sweep := .looping rest }
  | finds (rest : List Nat) (unlinked : s.sweep = .unlinked rest) (positive : 0 < s.clientCount) :
      Steps .test { s with sweep := .reading rest }
  | spares (rest : List Nat) (unlinked : s.sweep = .unlinked rest) (zero : ¬ 0 < s.clientCount) :
      Steps .test { s with sweep := .looping rest }
  | loads (rest : List Nat) (reading : s.sweep = .reading rest) : Steps .load { s with sweep := .holding s.clientCount rest }
  | stores (value : Int) (rest : List Nat) (holding : s.sweep = .holding value rest) :
      Steps .store { s with clientCount := value - 1, sweep := .looping rest }
  | releases (done : s.sweep = .looping []) : Steps .release { s with sweep := .idle }

theorem accept_steps (l : Nat) (addr : IPAddress) (next : Server) (step : serverStep config s (.accept l addr) = some next) :
    Steps config s (.accept l addr) next := by
  dsimp only [serverStep] at step
  split at step
  · next at_old =>
    cases step
    split
    · exact .turns _ l _ _ at_old (.accepts l addr)
    · exact .rejects l addr
  · cases step

theorem limit_address_steps (l : Nat) (next : Server) (step : serverStep config s (.limitAddress l) = some next) :
    Steps config s (.limitAddress l) next := by
  dsimp only [serverStep] at step
  split at step
  · next addr at_old idle =>
    split at step
    · cases step
      exact .turns _ l _ _ at_old (.crowded l addr)
    · next few =>
      cases step
      refine .turns _ l _ _ at_old (.alone l addr fun set reader => ?_)
      by_contra many
      exact few ⟨set, reader, by omega⟩
  · cases step

theorem limit_clients_steps (l : Nat) (next : Server) (step : serverStep config s (.limitClients l) = some next) :
    Steps config s (.limitClients l) next := by
  dsimp only [serverStep] at step
  split at step
  · next addr at_old =>
    split at step
    · cases step
      exact .turns _ l _ _ at_old (.fills l addr)
    · next few =>
      cases step
      refine .turns _ l _ _ at_old (.admits l addr fun set => ?_)
      by_contra many
      exact few ⟨set, by omega⟩
  · cases step

theorem reserve_steps (l : Nat) (next : Server) (step : serverStep config s (.reserve l) = some next) :
    Steps config s (.reserve l) next := by
  dsimp only [serverStep] at step
  split at step
  · next addr at_old =>
    split at step
    · next write =>
      cases step
      exact .turns _ l _ _ at_old (.reserves l addr write.1 write.2)
    · cases step
      exact .turns _ l _ _ at_old (.refuses l addr)
  · cases step

theorem start_steps (l : Nat) (succeeds : Bool) (next : Server) (step : serverStep config s (.start l succeeds) = some next) :
    Steps config s (.start l succeeds) next := by
  dsimp only [serverStep] at step
  split at step
  · next addr at_old =>
    cases succeeds with
    | true =>
        cases step
        exact .starts l addr at_old
    | false =>
        cases step
        exact .turns _ l _ _ at_old (.fails l addr)
  · cases step

theorem visit_steps (next : Server) (step : serverStep config s .visit = some next) :
    Steps config s .visit next := by
  dsimp only [serverStep] at step
  split at step
  · next client rest looping =>
    split at step
    · next closed =>
      cases step
      exact .reaps client rest looping closed
    · next alive =>
      cases step
      exact .passes client rest looping (Bool.eq_false_iff.mpr alive)
  · cases step

theorem test_steps (next : Server) (step : serverStep config s .test = some next) :
    Steps config s .test next := by
  dsimp only [serverStep] at step
  split at step
  · next rest unlinked =>
    cases step
    split
    · next positive => exact .finds rest unlinked positive
    · next zero => exact .spares rest unlinked zero
  · cases step

theorem steps_of (event : ServerEvent) (next : Server) (step : serverStep config s event = some next) : Steps config s event next := by
  cases event with
  | accept l addr => exact accept_steps config s l addr next step
  | limitAddress l => exact limit_address_steps config s l next step
  | limitClients l => exact limit_clients_steps config s l next step
  | reserve l => exact reserve_steps config s l next step
  | start l succeeds => exact start_steps config s l succeeds next step
  | link l =>
      dsimp only [serverStep] at step
      split at step
      · next client at_old idle =>
        cases step
        exact .links l client at_old idle
      · cases step
  | count l =>
      dsimp only [serverStep] at step
      split at step
      · next client at_old =>
        cases step
        exact .counts l client at_old
      · cases step
  | ends client =>
      cases step
      exact .ends client
  | sweep =>
      dsimp only [serverStep] at step
      split at step
      · next idle =>
        cases step
        exact .sweeps idle
      · cases step
  | visit => exact visit_steps config s next step
  | test => exact test_steps config s next step
  | load =>
      dsimp only [serverStep] at step
      split at step
      · next rest reading =>
        cases step
        exact .loads rest reading
      · cases step
  | store =>
      dsimp only [serverStep] at step
      split at step
      · next value rest holding =>
        cases step
        exact .stores value rest holding
      · cases step
  | release =>
      dsimp only [serverStep] at step
      split at step
      · next done =>
        cases step
        exact .releases done
      · cases step

end

def isStarted : Dispatch → Bool
  | .started _ => true
  | _ => false

def isLinked : Dispatch → Bool
  | .linked _ => true
  | _ => false

def isAdmitted : Dispatch → Bool
  | .admitted _ => true
  | _ => false

def listenersIn (stage : Dispatch → Bool) (s : Server) : Nat := s.listeners.countP stage

def Server.running (s : Server) (client : Nat) : Bool := s.clients[client]?.any (!·.closed)

def remaining : Sweep → List Nat
  | .idle => []
  | .looping rest => rest
  | .unlinked rest => rest
  | .reading rest => rest
  | .holding _ rest => rest

def passedStep (s : Server) (passed : List Nat) : ServerEvent → List Nat
  | .visit => match s.sweep with
    | .looping (client :: _) => if s.clients[client]?.any (·.closed) then client :: passed else passed
    | _ => passed
  | _ => passed

-- A client has one place: its listener has yet to link it, or it is in the list, or gone.
structure Entries (s : Server) (passed : List Nat) : Prop where
  nodup : s.cthreads.Nodup
  known : ∀ client ∈ s.cthreads, client < s.clients.length
  rest_nodup : (remaining s.sweep).Nodup
  rest_linked : ∀ client ∈ remaining s.sweep, client ∈ s.cthreads
  pending : ∀ (l client : Nat), s.listeners[l]? = some (.started client) →
    client < s.clients.length ∧ client ∉ s.cthreads ∧ client ∉ passed
  single : ∀ l k client : Nat, s.listeners[l]? = some (.started client) → s.listeners[k]? = some (.started client) → l = k
  listed : ∀ client, s.running client = true → client ∈ s.cthreads ∨ ∃ l : Nat, s.listeners[l]? = some (.started client)
  gone : ∀ client ∈ passed, client < s.clients.length ∧ client ∉ s.cthreads

theorem running_known (s : Server) (client : Nat) (running : s.running client = true) : client < s.clients.length := by
  rw [Server.running, Option.any_eq_true] at running
  obtain ⟨cinfo, found, -⟩ := running
  exact (List.getElem?_eq_some_iff.mp found).1

theorem dispatch_same (s : Server) (l : Nat) (old new : Dispatch) (at_old : s.listeners[l]? = some old) :
    (s.dispatch l new).listeners[l]? = some new := by
  have known : l < s.listeners.length := (List.getElem?_eq_some_iff.mp at_old).1
  exact List.getElem?_set_self known

theorem dispatch_other (s : Server) (l k : Nat) (new : Dispatch) (apart : l ≠ k) :
    (s.dispatch l new).listeners[k]? = s.listeners[k]? := List.getElem?_set_ne apart

theorem dispatch_count (stage : Dispatch → Bool) (s : Server) (l : Nat) (old new : Dispatch) (at_old : s.listeners[l]? = some old) :
    listenersIn stage (s.dispatch l new) + (if stage old then 1 else 0) = listenersIn stage s + if stage new then 1 else 0 := by
  obtain ⟨known, same⟩ := List.getElem?_eq_some_iff.mp at_old
  have counted : listenersIn stage (s.dispatch l new) =
      listenersIn stage s - (if stage old then 1 else 0) + if stage new then 1 else 0 := by
    rw [← same]
    exact List.countP_set known
  have atLeast : (if stage old then 1 else 0) ≤ listenersIn stage s := by
    split
    · next holds => exact List.countP_pos_iff.mpr ⟨old, same ▸ List.getElem_mem known, holds⟩
    · exact Nat.zero_le _
  omega

theorem listeners_none (stage : Dispatch → Bool) (s : Server) (accepting : ∀ dispatch ∈ s.listeners, dispatch = .accepting)
    (none : stage .accepting = false) : listenersIn stage s = 0 := by
  apply List.countP_eq_zero.mpr
  intro dispatch member
  rw [accepting dispatch member, none]
  exact Bool.false_ne_true

theorem new_accepting (listeners : Nat) : ∀ dispatch ∈ (newServer listeners).listeners, dispatch = .accepting :=
  fun _ member => List.eq_of_mem_replicate member

theorem dispatch_before (s : Server) (l k : Nat) (new place : Dispatch) (other : new ≠ place)
    (found : (s.dispatch l new).listeners[k]? = some place) : l ≠ k ∧ s.listeners[k]? = some place := by
  have apart : l ≠ k := by
    rintro rfl
    have known : l < s.listeners.length := by
      have bound := (List.getElem?_eq_some_iff.mp found).1
      rwa [Server.dispatch, List.length_set] at bound
    have same : (s.dispatch l new).listeners[l]? = some new := List.getElem?_set_self known
    rw [same, Option.some.injEq] at found
    exact other found
  exact ⟨apart, by rwa [dispatch_other s l k new apart] at found⟩

theorem started_before (s : Server) (l k client : Nat) (new : Dispatch) (other : isStarted new = false)
    (started : (s.dispatch l new).listeners[k]? = some (.started client)) : l ≠ k ∧ s.listeners[k]? = some (.started client) := by
  apply dispatch_before s l k new (.started client) _ started
  rintro rfl
  exact Bool.noConfusion other

section

variable (config : ServerConfig) (s next : Server) (passed : List Nat)

theorem entries_turn (l : Nat) (old new : Dispatch) (at_old : s.listeners[l]? = some old) (before : isStarted old = false)
    (after : isStarted new = false) (entries : Entries s passed) : Entries (s.dispatch l new) passed where
  nodup := entries.nodup
  known := entries.known
  rest_nodup := entries.rest_nodup
  rest_linked := entries.rest_linked
  pending := fun k client started => entries.pending k client (started_before s l k client new after started).2
  single := fun j k client first second => entries.single j k client
    (started_before s l j client new after first).2 (started_before s l k client new after second).2
  listed := by
    intro client running
    rcases entries.listed client running with linked | ⟨k, started⟩
    · exact .inl linked
    · have apart : l ≠ k := by
        rintro rfl
        rw [at_old, Option.some.injEq] at started
        rw [started] at before
        exact Bool.noConfusion before
      exact .inr ⟨k, by rwa [dispatch_other s l k new apart]⟩
  gone := entries.gone

theorem entries_start (l : Nat) (addr : IPAddress) (cinfo : Client) (at_admitted : s.listeners[l]? = some (.admitted addr))
    (entries : Entries s passed) :
    Entries { s.dispatch l (.started s.clients.length) with clients := s.clients ++ [cinfo] } passed := by
  have same := dispatch_same s l _ (.started s.clients.length) at_admitted
  have grown (client : Nat) (known : client < s.clients.length) : client < (s.clients ++ [cinfo]).length := by
    rw [List.length_append]
    omega
  have fresh (client : Nat) (linked : client ∈ s.cthreads ∨ client ∈ passed) : client ≠ s.clients.length := by
    rcases linked with member | member
    · exact Nat.ne_of_lt (entries.known client member)
    · exact Nat.ne_of_lt (entries.gone client member).1
  have last (client : Nat) (started : (s.dispatch l (.started s.clients.length)).listeners[l]? = some (.started client)) :
      client = s.clients.length := by
    rw [same, Option.some.injEq, Dispatch.started.injEq] at started
    exact started.symm
  have other (k client : Nat) (apart : l ≠ k)
      (started : (s.dispatch l (.started s.clients.length)).listeners[k]? = some (.started client)) :
      s.listeners[k]? = some (.started client) := by rwa [dispatch_other s l k _ apart] at started
  refine ⟨entries.nodup, fun client member => grown client (entries.known client member), entries.rest_nodup, entries.rest_linked,
    ?_, ?_, ?_, fun client member => ⟨grown client (entries.gone client member).1, (entries.gone client member).2⟩⟩
  · intro k client started
    by_cases apart : l = k
    · subst apart
      obtain rfl := last client started
      refine ⟨by rw [List.length_append]; exact Nat.lt_succ_self _, ?_, ?_⟩
      · exact fun member => fresh _ (.inl member) rfl
      · exact fun member => fresh _ (.inr member) rfl
    · obtain ⟨known, free⟩ := entries.pending k client (other k client apart started)
      exact ⟨grown client known, free⟩
  · intro j k client first second
    have known (i : Nat) (apart : l ≠ i)
        (started : (s.dispatch l (.started s.clients.length)).listeners[i]? = some (.started client)) : client ≠ s.clients.length :=
      Nat.ne_of_lt (entries.pending i client (other i client apart started)).1
    by_cases here : l = j
    · subst here
      by_contra apart
      exact known k apart second (last client first)
    · by_cases there : l = k
      · subst there
        exact absurd (last client second) (known j here first)
      · exact entries.single j k client (other j client here first) (other k client there second)
  · intro client running
    by_cases known : client < s.clients.length
    · have old : s.running client = true := by
        rw [Server.running, List.getElem?_append_left known] at running
        exact running
      rcases entries.listed client old with linked | ⟨k, started⟩
      · exact .inl linked
      · have apart : l ≠ k := by
          rintro rfl
          rw [at_admitted] at started
          cases started
        refine .inr ⟨k, ?_⟩
        rw [← started]
        exact dispatch_other s l k _ apart
    · have bound := running_known _ client running
      rw [List.length_append, List.length_singleton] at bound
      obtain rfl : client = s.clients.length := by omega
      exact .inr ⟨l, same⟩

theorem entries_link (l client : Nat) (at_started : s.listeners[l]? = some (.started client)) (entries : Entries s passed) :
    Entries { s.dispatch l (.linked client) with cthreads := client :: s.cthreads } passed := by
  obtain ⟨known, unlinked, present⟩ := entries.pending l client at_started
  have before (k other : Nat) (started : (s.dispatch l (.linked client)).listeners[k]? = some (.started other)) :
      s.listeners[k]? = some (.started other) ∧ other ≠ client := by
    obtain ⟨apart, old⟩ := started_before s l k other _ rfl started
    refine ⟨old, ?_⟩
    rintro rfl
    exact apart (entries.single l k other at_started old)
  refine ⟨List.nodup_cons.mpr ⟨unlinked, entries.nodup⟩, ?_, ?_, ?_, ?_, ?_, ?_, ?_⟩
  · intro other member
    rcases List.mem_cons.mp member with rfl | old
    · exact known
    · exact entries.known other old
  · exact entries.rest_nodup
  · intro other member
    exact List.mem_cons_of_mem _ (entries.rest_linked other member)
  · intro k other started
    obtain ⟨old, apart⟩ := before k other started
    obtain ⟨bound, free, left⟩ := entries.pending k other old
    refine ⟨bound, fun member => ?_, left⟩
    rcases List.mem_cons.mp member with same | linked
    · exact apart same
    · exact free linked
  · intro j k other first second
    exact entries.single j k other (before j other first).1 (before k other second).1
  · intro other running
    rcases entries.listed other running with linked | ⟨k, started⟩
    · exact .inl (List.mem_cons_of_mem _ linked)
    · by_cases here : l = k
      · subst here
        rw [at_started, Option.some.injEq, Dispatch.started.injEq] at started
        exact .inl (started ▸ List.mem_cons_self)
      · refine .inr ⟨k, ?_⟩
        rw [← started]
        exact dispatch_other s l k _ here
  · intro other member
    obtain ⟨bound, free⟩ := entries.gone other member
    refine ⟨bound, fun linked => ?_⟩
    rcases List.mem_cons.mp linked with rfl | old
    · exact present member
    · exact free old

theorem entries_ends (client : Nat) (entries : Entries s passed) :
    Entries { s with clients := s.clients.modify client fun cinfo => { cinfo with closed := true } } passed := by
  have length : (s.clients.modify client fun cinfo => { cinfo with closed := true }).length = s.clients.length := List.length_modify ..
  refine ⟨entries.nodup, ?_, entries.rest_nodup, entries.rest_linked, ?_, entries.single, ?_, ?_⟩
  · intro other member
    rw [length]
    exact entries.known other member
  · intro l other started
    rw [length]
    exact entries.pending l other started
  · intro other running
    apply entries.listed other
    rw [Server.running, List.getElem?_modify] at running
    rw [Server.running]
    cases found : s.clients[other]? with
    | none =>
        rw [found] at running
        exact Bool.noConfusion running
    | some cinfo =>
        rw [found] at running
        by_cases here : client = other
        · simp [here] at running
        · simpa [here] using running
  · intro other member
    rw [length]
    exact entries.gone other member

theorem entries_sweep (sweep : Sweep) (nodup : (remaining sweep).Nodup) (linked : ∀ client ∈ remaining sweep, client ∈ s.cthreads)
    (entries : Entries s passed) : Entries { s with sweep := sweep } passed :=
  ⟨entries.nodup, entries.known, nodup, linked, entries.pending, entries.single, entries.listed, entries.gone⟩

theorem entries_reap (client : Nat) (rest : List Nat) (looping : s.sweep = .looping (client :: rest))
    (closed : s.clients[client]?.any (·.closed) = true) (entries : Entries s passed) :
    Entries { s with cthreads := s.cthreads.erase client, sweep := .unlinked rest } (client :: passed) := by
  have nodup := entries.rest_nodup
  have linked := entries.rest_linked
  rw [looping] at nodup linked
  obtain ⟨apart, rest_nodup⟩ := List.nodup_cons.mp nodup
  have member : client ∈ s.cthreads := linked client List.mem_cons_self
  refine ⟨entries.nodup.erase client, ?_, rest_nodup, ?_, ?_, entries.single, ?_, ?_⟩
  · exact fun other left => entries.known other (List.mem_of_mem_erase left)
  · intro other left
    have different : other ≠ client := by
      rintro rfl
      exact apart left
    exact (List.mem_erase_of_ne different).mpr (linked other (List.mem_cons_of_mem _ left))
  · intro l other started
    obtain ⟨bound, free, present⟩ := entries.pending l other started
    refine ⟨bound, fun left => free (List.mem_of_mem_erase left), fun gone => ?_⟩
    rcases List.mem_cons.mp gone with rfl | old
    · exact free member
    · exact present old
  · intro other running
    rcases entries.listed other running with old | started
    · refine .inl ((List.mem_erase_of_ne ?_).mpr old)
      rintro rfl
      rw [Server.running] at running
      cases found : s.clients[other]? with
      | none => simp [found] at running
      | some cinfo =>
          rw [found] at running closed
          simp only [Option.any_some] at running closed
          rw [closed] at running
          exact Bool.noConfusion running
    · exact .inr started
  · intro other gone
    rcases List.mem_cons.mp gone with rfl | old
    · exact ⟨entries.known other member, fun left => absurd left entries.nodup.not_mem_erase⟩
    · exact ⟨(entries.gone other old).1, fun left => (entries.gone other old).2 (List.mem_of_mem_erase left)⟩

theorem entries_step (event : ServerEvent) (step : serverStep config s event = some next) (entries : Entries s passed) :
    Entries next (passedStep s passed event) := by
  cases steps_of config s event next step with
  | rejects l addr => exact entries
  | turns _ l old new at_old turn =>
      cases turn with
      | accepts => exact entries_turn s passed l _ _ at_old rfl rfl entries
      | crowded => exact entries_turn s passed l _ _ at_old rfl rfl entries
      | alone => exact entries_turn s passed l _ _ at_old rfl rfl entries
      | fills => exact entries_turn s passed l _ _ at_old rfl rfl entries
      | admits => exact entries_turn s passed l _ _ at_old rfl rfl entries
      | reserves => exact entries_turn s passed l _ _ at_old rfl rfl entries
      | refuses => exact entries_turn s passed l _ _ at_old rfl rfl entries
      | fails => exact entries_turn s passed l _ _ at_old rfl rfl entries
  | starts l addr at_admitted => exact entries_start s passed l addr _ at_admitted entries
  | links l client at_started idle => exact entries_link s passed l client at_started entries
  | counts l client at_linked =>
      have turned := entries_turn s passed l _ .accepting at_linked rfl rfl entries
      exact ⟨turned.nodup, turned.known, turned.rest_nodup, turned.rest_linked, turned.pending, turned.single, turned.listed,
        turned.gone⟩
  | ends client => exact entries_ends s passed client entries
  | sweeps idle => exact entries_sweep s passed _ entries.nodup (fun _ member => member) entries
  | reaps client rest looping closed =>
      rw [passedStep, looping]
      dsimp only
      rw [if_pos closed]
      exact entries_reap s passed client rest looping closed entries
  | passes client rest looping alive =>
      rw [passedStep, looping]
      dsimp only
      rw [if_neg (Bool.eq_false_iff.mp alive)]
      have nodup := entries.rest_nodup
      have linked := entries.rest_linked
      rw [looping] at nodup linked
      exact entries_sweep s passed _ (List.nodup_cons.mp nodup).2 (fun other left => linked other (List.mem_cons_of_mem _ left)) entries
  | finds rest unlinked positive =>
      have nodup := entries.rest_nodup
      have linked := entries.rest_linked
      rw [unlinked] at nodup linked
      exact entries_sweep s passed _ nodup linked entries
  | spares rest unlinked zero =>
      have nodup := entries.rest_nodup
      have linked := entries.rest_linked
      rw [unlinked] at nodup linked
      exact entries_sweep s passed _ nodup linked entries
  | loads rest reading =>
      have nodup := entries.rest_nodup
      have linked := entries.rest_linked
      rw [reading] at nodup linked
      exact entries_sweep s passed _ nodup linked entries
  | stores value rest holding =>
      have nodup := entries.rest_nodup
      have linked := entries.rest_linked
      rw [holding] at nodup linked
      have moved := entries_sweep s passed (.looping rest) nodup linked entries
      exact ⟨moved.nodup, moved.known, moved.rest_nodup, moved.rest_linked, moved.pending, moved.single, moved.listed, moved.gone⟩
  | releases done => exact entries_sweep s passed .idle List.nodup_nil (fun _ member => absurd member List.not_mem_nil) entries

theorem entries_new (listeners : Nat) : Entries (newServer listeners) [] := by
  have none (l client : Nat) : (newServer listeners).listeners[l]? ≠ some (.started client) := by
    intro started
    have accepting := List.eq_of_mem_replicate (List.mem_of_getElem? started)
    exact Dispatch.noConfusion accepting
  refine ⟨List.nodup_nil, ?_, List.nodup_nil, ?_, ?_, ?_, ?_, ?_⟩
  · exact fun _ member => absurd member List.not_mem_nil
  · exact fun _ member => absurd member List.not_mem_nil
  · exact fun l client started => absurd started (none l client)
  · exact fun l _ client started => absurd started (none l client)
  · exact fun client running => absurd running Bool.noConfusion
  · exact fun _ member => absurd member List.not_mem_nil

end

end RingServer.Net
