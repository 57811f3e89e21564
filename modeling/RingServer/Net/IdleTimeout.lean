import RingServer.Config.ServerConfig
import RingServer.Net.SendData

set_option autoImplicit false

namespace RingServer.Net

open Config

inductive ThreadState where
  | spawning
  | active
  | close
  | closing
  | closed
deriving DecidableEq

-- What the watchdog reads of a client. late is the clock with which it has found the client
-- idle and goes to lock it.
structure Watched where
  lastXchange : Int
  state : ThreadState
  late : Option Int
deriving DecidableEq

-- The calls of a session with the clock at their end, what its thread or a shutdown makes
-- of the state, and the watchdog: it reads the clock and LastXchange, and later it takes the
-- lock of the thread. ClientRecv has nread above what it received for a command that
-- RecvBuffer had, and 0 for one that is not complete.
inductive SessionEvent where
  | clientRecv (received : Nat) (nread : Int) (now : Int)
  | recvData (received : Nat) (now : Int)
  | sendBuffers (lengths : List Nat) (sends : List Sent) (now : Int)
  | moves (state : ThreadState)
  | reads (now : Int)
  | locks

def nsModulus : Int := 1000000000

section

variable (config : ServerConfig)

def clientTimeout : UInt32 := config.values .clientTimeout

def idleLimit : Int := (clientTimeout config).toNat * nsModulus

-- RunInner behind ClientRecv, and the watchdog; the other calls leave LastXchange alone.
def sessionStep (s : Watched) : SessionEvent → Watched
  | .clientRecv _ nread now => if nread > 0 then { s with lastXchange := now } else s
  | .recvData _ _ => s
  | .sendBuffers _ _ _ => s
  | .moves state => { s with state := state }
  | .reads now =>
      if s.state = .closed then { s with late := none }
      else if clientTimeout config > 0 ∧ now - s.lastXchange > idleLimit config then { s with late := some now }
      else { s with late := none }
  | .locks =>
      if s.late.isSome ∧ s.state ≠ .close ∧ s.state ≠ .closing ∧ s.state ≠ .closed then { s with state := .close, late := none }
      else { s with late := none }

def newClient (accepted : Int) : Watched := ⟨accepted, .spawning, none⟩

def sessionRun (accepted : Int) (events : List SessionEvent) : Watched := events.foldl (sessionStep config) (newClient accepted)

def transferOf : SessionEvent → Option Int
  | .clientRecv received _ now => if 0 < received then some now else none
  | .recvData received now => if 0 < received then some now else none
  | .sendBuffers lengths sends now => if ((sendRemaining lengths.sum sends).any fun result => 0 < result.2) then some now else none
  | _ => none

def commandOf : SessionEvent → Option Int
  | .clientRecv _ nread now => if nread > 0 then some now else none
  | _ => none

def watches : SessionEvent → Bool
  | .reads _ => true
  | .locks => true
  | _ => false

def lastCommand (accepted : Int) (past : List SessionEvent) : Int := (past.filterMap commandOf).getLastD accepted

structure Reads (past before : List SessionEvent) (now : Int) (after : List SessionEvent) : Prop where
  order : past = before ++ .reads now :: after
  goesOn : ∀ event ∈ after, watches event = false

-- Wherever the watchdog closes a client, every transfer until then is longer ago than the
-- time-out, by the clock that it read.
def SparesActive (accepted : Int) (events : List SessionEvent) : Prop :=
  ∀ past rest, events = past ++ .locks :: rest → (sessionRun config accepted past).state ≠ .close →
    (sessionRun config accepted (past ++ [.locks])).state = .close →
      ∃ before now after, Reads past before now after ∧ ∀ time ∈ past.filterMap transferOf, now - time > idleLimit config

-- Where the watchdog locks an open client, a transfer within the time-out of the clock that
-- it read comes with a complete command, or the accept, within the time-out of that clock.
def Commanded (accepted : Int) (events : List SessionEvent) : Prop :=
  ∀ past rest before now after, events = past ++ .locks :: rest → Reads past before now after → clientTimeout config > 0 →
    (sessionRun config accepted before).state ≠ .closed →
    ((sessionRun config accepted past).state = .spawning ∨ (sessionRun config accepted past).state = .active) →
    (∃ time ∈ past.filterMap transferOf, now - time ≤ idleLimit config) → now - lastCommand accepted before ≤ idleLimit config

def readingOf : SessionEvent → Option Int
  | .reads now => some now
  | _ => none

theorem reading_last (past before : List SessionEvent) (now : Int) (after : List SessionEvent) (reads : Reads past before now after) :
    (past.filterMap readingOf).getLast? = some now := by
  have none : after.filterMap readingOf = [] := by
    refine List.filterMap_eq_nil_iff.mpr fun event member => ?_
    have other := reads.goesOn event member
    cases event with
    | reads clock => cases other
    | _ => rfl
  rw [reads.order, List.filterMap_append, List.filterMap_cons_some (show readingOf (.reads now) = some now from rfl), none]
  exact List.getLast?_concat

theorem reads_same (past before before' : List SessionEvent) (now now' : Int) (after after' : List SessionEvent)
    (first : Reads past before now after) (second : Reads past before' now' after') : now' = now :=
  Option.some.inj ((reading_last past before' now' after' second).symm.trans (reading_last past before now after first))

theorem session_run_snoc (accepted : Int) (past : List SessionEvent) (event : SessionEvent) :
    sessionRun config accepted (past ++ [event]) = sessionStep config (sessionRun config accepted past) event := by
  rw [sessionRun, List.foldl_append]
  rfl

theorem last_command_snoc (accepted : Int) (past : List SessionEvent) (event : SessionEvent) :
    lastCommand accepted (past ++ [event]) = (commandOf event).getD (lastCommand accepted past) := by
  rw [lastCommand, List.filterMap_append]
  cases isCommand : commandOf event with
  | none =>
      rw [List.filterMap_cons_none isCommand, List.filterMap_nil, List.append_nil]
      rfl
  | some now =>
      rw [List.filterMap_cons_some isCommand, List.filterMap_nil]
      simp

theorem step_last_xchange (s : Watched) (event : SessionEvent) :
    (sessionStep config s event).lastXchange = (commandOf event).getD s.lastXchange := by
  cases event with
  | clientRecv received nread now =>
      by_cases whole : nread > 0
      · rw [sessionStep, commandOf, if_pos whole, if_pos whole]
        rfl
      · rw [sessionStep, commandOf, if_neg whole, if_neg whole]
        rfl
  | recvData received now => rfl
  | sendBuffers lengths sends now => rfl
  | moves state => rfl
  | reads now =>
      rw [sessionStep]
      split
      · rfl
      · split <;> rfl
  | locks =>
      rw [sessionStep]
      split <;> rfl

theorem run_last_xchange (accepted : Int) (past : List SessionEvent) :
    (sessionRun config accepted past).lastXchange = lastCommand accepted past := by
  induction past using List.reverseRecOn with
  | nil => rfl
  | append_singleton before event ih => rw [session_run_snoc, step_last_xchange, last_command_snoc, ih]

theorem step_late_other (s : Watched) (event : SessionEvent) (other : watches event = false) :
    (sessionStep config s event).late = s.late := by
  cases event with
  | clientRecv received nread now =>
      rw [sessionStep]
      split <;> rfl
  | recvData received now => rfl
  | sendBuffers lengths sends now => rfl
  | moves state => rfl
  | reads now => cases other
  | locks => cases other

structure FoundIdle (accepted : Int) (before : List SessionEvent) (now : Int) : Prop where
  open_ : (sessionRun config accepted before).state ≠ .closed
  set : clientTimeout config > 0
  late : now - lastCommand accepted before > idleLimit config

theorem reads_late (accepted : Int) (before : List SessionEvent) (now other : Int) :
    (sessionStep config (sessionRun config accepted before) (.reads now)).late = some other ↔
      now = other ∧ FoundIdle config accepted before now := by
  rw [sessionStep]
  split
  · next closed => exact iff_of_false (fun found => by cases found) fun found => found.2.open_ closed
  · next open_ =>
    split
    · next late =>
      rw [run_last_xchange] at late
      exact Option.some_inj.trans (iff_self_and.mpr fun _ => ⟨open_, late.1, late.2⟩)
    · next early =>
      rw [run_last_xchange] at early
      exact iff_of_false (fun found => by cases found) fun found => early ⟨found.2.set, found.2.late⟩

theorem late_reads (accepted : Int) (past before : List SessionEvent) (now : Int) (after : List SessionEvent)
    (reads : Reads past before now after) (found : FoundIdle config accepted before now) :
    (sessionRun config accepted past).late = some now := by
  rw [reads.order]
  have goesOn := reads.goesOn
  induction after using List.reverseRecOn generalizing past with
  | nil =>
      rw [session_run_snoc]
      exact (reads_late config accepted before now now).mpr ⟨rfl, found⟩
  | append_singleton middle event ih =>
      have earlier : ∀ event ∈ middle, watches event = false := fun other member => goesOn other (List.mem_append_left _ member)
      rw [← List.cons_append, ← List.append_assoc, session_run_snoc,
        step_late_other config _ event (goesOn event (List.mem_append_right middle List.mem_cons_self))]
      exact ih _ ⟨rfl, earlier⟩ earlier

theorem late_found (accepted : Int) (past : List SessionEvent) (now : Int) (late : (sessionRun config accepted past).late = some now) :
    ∃ before after, Reads past before now after ∧ FoundIdle config accepted before now := by
  induction past using List.reverseRecOn with
  | nil => cases late
  | append_singleton middle event ih =>
      rw [session_run_snoc] at late
      have goesOn (other : watches event = false) :
          ∃ before after, Reads (middle ++ [event]) before now after ∧ FoundIdle config accepted before now := by
        rw [step_late_other config _ event other] at late
        obtain ⟨before, after, reads, found⟩ := ih late
        refine ⟨before, after ++ [event], ⟨by rw [reads.order]; simp, fun some member => ?_⟩, found⟩
        rcases List.mem_append.mp member with earlier | last
        · exact reads.goesOn some earlier
        · rw [List.mem_singleton.mp last]
          exact other
      cases event with
      | clientRecv received nread clock => exact goesOn rfl
      | recvData received clock => exact goesOn rfl
      | sendBuffers lengths sends clock => exact goesOn rfl
      | moves state => exact goesOn rfl
      | reads clock =>
          obtain ⟨rfl, found⟩ := (reads_late config accepted middle clock now).mp late
          exact ⟨middle, [], ⟨rfl, fun event none => absurd none List.not_mem_nil⟩, found⟩
      | locks =>
          rw [sessionStep] at late
          split at late <;> cases late

theorem locks_closes (s : Watched) (before : s.state ≠ .close) :
    (sessionStep config s .locks).state = .close ↔ (s.state = .spawning ∨ s.state = .active) ∧ s.late.isSome = true := by
  rw [sessionStep]
  cases state : s.state with
  | spawning => cases s.late <;> simp
  | active => cases s.late <;> simp
  | close => exact absurd state before
  | closing => simp
  | closed => simp

theorem idle_timeout_iff (accepted : Int) (events : List SessionEvent) :
    SparesActive config accepted events ↔ Commanded config accepted events := by
  constructor
  · intro spares past rest before now after order reads set open_ alive recent
    by_contra late
    have found : FoundIdle config accepted before now := ⟨open_, set, Int.not_le.mp late⟩
    have isLate := late_reads config accepted past before now after reads found
    have notClose : (sessionRun config accepted past).state ≠ .close := by
      rcases alive with spawning | active
      · rw [spawning]
        exact ThreadState.noConfusion
      · rw [active]
        exact ThreadState.noConfusion
    have closes : (sessionRun config accepted (past ++ [.locks])).state = .close := by
      rw [session_run_snoc]
      exact (locks_closes config _ notClose).mpr ⟨alive, by rw [isLate]; rfl⟩
    obtain ⟨before', now', after', reads', far⟩ := spares past rest order notClose closes
    obtain ⟨time, member, near⟩ := recent
    have same : now' = now := reads_same past before before' now now' after after' reads reads'
    have apart := far time member
    omega
  · intro commanded past rest order notClose closes
    rw [session_run_snoc] at closes
    obtain ⟨alive, isLate⟩ := (locks_closes config _ notClose).mp closes
    obtain ⟨now, late⟩ := Option.isSome_iff_exists.mp isLate
    obtain ⟨before, after, reads, found⟩ := late_found config accepted past now late
    refine ⟨before, now, after, reads, fun time member => ?_⟩
    by_contra near
    have command := commanded past rest before now after order reads found.set found.open_ alive ⟨time, member, by omega⟩
    have late := found.late
    omega

end

def timeoutConfig (seconds : UInt32) : ServerConfig :=
  { initialConfig with values := Function.update initialConfig.values .clientTimeout seconds }

-- A SeedLink client that asked for its streams in the first second, and was sent a packet
-- one second before it is closed.
def streamed : List SessionEvent := [.moves .active, .clientRecv 6 4 nsModulus, .sendBuffers [520] [.bytes 520] (699 * nsModulus)]

def streamedTo : List SessionEvent := streamed ++ [.reads (700 * nsModulus)]

theorem receiving_client_closed :
    (sessionRun (timeoutConfig 600) 0 streamedTo).state = .active ∧
      (sessionRun (timeoutConfig 600) 0 (streamedTo ++ [.locks])).state = .close ∧
      ¬ SparesActive (timeoutConfig 600) 0 (streamedTo ++ [.locks]) := by
  refine ⟨by decide, by decide, fun spares => ?_⟩
  obtain ⟨before, now, after, reads, far⟩ := spares streamedTo [] rfl (by decide) (by decide)
  have last : Reads streamedTo streamed (700 * nsModulus) [] := ⟨rfl, fun event none => absurd none List.not_mem_nil⟩
  have same := reads_same streamedTo streamed before (700 * nsModulus) now [] after last reads
  have apart := far (699 * nsModulus) (by decide)
  rw [same] at apart
  exact absurd apart (by decide)

end RingServer.Net
