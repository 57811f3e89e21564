import RingServer.Net.IdleTimeout

set_option autoImplicit false

namespace RingServer.Program

open Config Net

-- The ThreadData that the watchdog makes for a listen thread, and the one that the thread
-- makes for itself and puts in its place.
inductive Td where
  | target (thread : Nat)
  | listen (thread : Nat)
deriving DecidableEq

structure ListedThread where
  listens : Bool
  listenSocket : Bool
  td : Option Td
deriving DecidableEq

-- The next thing that a listen thread does: it puts its ThreadData in the list, is active,
-- tests ShutdownSig, takes ListenSocket, waits in Accept or dispatches, is closing and closed.
inductive ListenPhase where
  | begins
  | enters
  | tests
  | accepts
  | waits
  | leaves
  | ends
  | finished
deriving DecidableEq

structure ListenThread where
  entry : Nat
  state : ThreadState
  phase : ListenPhase
deriving DecidableEq

-- The next thing that the watchdog does. It has broken out of its loop with or without the
-- safety valve, or the exception of a listen thread or of WriteTLog has ended the process.
inductive LoopPhase where
  | top
  | closing (rest : List Nat)
  | valve
  | visiting (rest : List Nat) (servercount : Nat)
  | starting (entry : Nat) (rest : List Nat) (servercount : Nat)
  | rereads (servercount : Nat)
  | tests (servercount : Nat)
  | broken (clean : Bool)
  | crashed
  | threw
deriving DecidableEq

-- The server threads in the order in which they were added: the list of the source is this
-- one backwards, and an entry that is added leaves the places of the others as they were.
structure Supervisor where
  shutdownSig : Nat
  tlogwrite : Bool
  sthreads : List ListedThread
  threads : List ListenThread
  phase : LoopPhase
deriving DecidableEq

-- What the watchdog meets: the end of a transfer log window, a client whose WriteTLog throws,
-- the server threads of a configuration file that has changed, and ClientCount.
structure Findings where
  tlogEnds : Bool
  throws : Bool
  added : List SThread
  clientCount : Int

-- The handlers of the signals, the watchdog, and a listen thread, whose Accept fails or not.
inductive LoopEvent where
  | sigterm
  | sigint
  | watchdog (found : Findings)
  | listener (thread : Nat) (fails : Bool)

def listedThread : SThread → ListedThread
  | .listen _ _ => ⟨true, true, none⟩
  | .mSeedScan _ => ⟨false, false, none⟩

namespace Supervisor

def entry (w : Supervisor) (i : Nat) (change : ListedThread → ListedThread) : Supervisor := { w with sthreads := w.sthreads.modify i change }

def thread (w : Supervisor) (t : Nat) (change : ListenThread → ListenThread) : Supervisor := { w with threads := w.threads.modify t change }

def goes (w : Supervisor) (phase : LoopPhase) : Supervisor := { w with phase := phase }

def stateOf (w : Supervisor) : Td → ThreadState
  | .target _ => .spawning
  | .listen t => (w.threads[t]?.map (·.state)).getD .spawning

def entries (w : Supervisor) : List Nat := (List.range w.sthreads.length).reverse

def visit (w : Supervisor) (i : Nat) (rest : List Nat) (servercount : Nat) : Supervisor :=
  match w.sthreads[i]? with
  | none => w.goes (.visiting rest servercount)
  | some loopstp =>
      let servercount := if loopstp.td.isSome then servercount + 1 else servercount
      let td := loopstp.td.filter fun td => w.stateOf td ≠ .closed
      (w.entry i fun loopstp => { loopstp with td := td }).goes
        (if loopstp.listens ∧ td = none ∧ w.shutdownSig = 0 then .starting i rest servercount else .visiting rest servercount)

def start (w : Supervisor) (i : Nat) (rest : List Nat) (servercount : Nat) : Supervisor :=
  if w.sthreads[i]?.any (·.listenSocket) then
    { w with
      sthreads := w.sthreads.modify i fun loopstp => { loopstp with td := some (.target w.threads.length) }
      threads := w.threads ++ [⟨i, .spawning, .begins⟩]
      phase := .visiting rest servercount }
  else w.goes (.visiting rest servercount)

def watchdog (w : Supervisor) (found : Findings) : Supervisor :=
  match w.phase with
  | .top => if w.shutdownSig = 1 then { w with shutdownSig := 2, phase := .closing w.entries } else w.goes .valve
  | .closing (i :: rest) => (w.entry i fun loopstp => { loopstp with listenSocket := false }).goes (.closing rest)
  | .closing [] => w.goes .valve
  | .valve =>
      if w.shutdownSig ≥ 100 then w.goes (.broken false)
      else { w with
        shutdownSig := if w.shutdownSig > 1 then w.shutdownSig + 1 else w.shutdownSig
        tlogwrite := found.tlogEnds && decide (w.shutdownSig = 0)
        phase := .visiting w.entries 0 }
  | .visiting (i :: rest) servercount => w.visit i rest servercount
  | .starting i rest servercount => w.start i rest servercount
  -- The pass over the client threads.
  | .visiting [] servercount => if w.tlogwrite && found.throws then w.goes .threw else w.goes (.rereads servercount)
  | .rereads servercount =>
      { w with sthreads := w.sthreads ++ (found.added.map listedThread).reverse, phase := .tests servercount }
  | .tests servercount =>
      if w.shutdownSig ≥ 2 ∧ found.clientCount = 0 ∧ servercount = 0 then w.goes (.broken true) else w.goes .top
  | .broken _ | .crashed | .threw => w

-- A null ListenSocket is an exception that nothing catches.
def listener (w : Supervisor) (t : Nat) (fails : Bool) : Supervisor :=
  match w.threads[t]? with
  | none => w
  | some loop =>
      let next := fun phase => w.thread t fun loop => { loop with phase := phase }
      match loop.phase with
      | .begins => (next .enters).entry loop.entry fun loopstp => { loopstp with td := some (.listen t) }
      | .enters => w.thread t fun loop => { loop with state := .active, phase := .tests }
      | .tests => if w.shutdownSig = 0 then next .accepts else next .leaves
      | .accepts => if w.sthreads[loop.entry]?.any (·.listenSocket) then next .waits else w.goes .crashed
      | .waits => if fails then next .leaves else next .tests
      | .leaves => w.thread t fun loop => { loop with state := .closing, phase := .ends }
      | .ends => w.thread t fun loop => { loop with state := .closed, phase := .finished }
      | .finished => w

-- SIGTERM sets ShutdownSig whatever it is.
def step (w : Supervisor) (event : LoopEvent) : Supervisor :=
  if w.phase = .crashed ∨ w.phase = .threw then w
  else match event with
    | .sigterm => { w with shutdownSig := 1 }
    | .sigint => if w.shutdownSig = 0 then { w with shutdownSig := 1 } else w
    | .watchdog found => w.watchdog found
    | .listener t fails => w.listener t fails

def run (w : Supervisor) (events : List LoopEvent) : Supervisor := events.foldl step w

end Supervisor

def newSupervisor (config : ServerConfig) : Supervisor := ⟨0, false, (config.sthreads.map listedThread).reverse, [], .top⟩

def ListenThread.td (loop : ListenThread) (t : Nat) : Td := if loop.phase = .begins then .target t else .listen t

structure Supervisor.Live (w : Supervisor) (t : Nat) (loop : ListenThread) : Prop where
  some : w.threads[t]? = some loop
  runs : loop.phase ≠ .finished

def LoopPhase.counted : LoopPhase → Option (List Nat × Nat)
  | .visiting rest servercount => some (rest, servercount)
  | .rereads servercount | .tests servercount => some ([], servercount)
  | _ => none

-- The entry of each listen thread that has not finished refers to it and nothing takes it for
-- closed. An entry that the watchdog is about to start has none, and once it shuts down, all
-- of the entries of a pass that counts no server thread.
structure Supervised (w : Supervisor) : Prop where
  referred : ∀ t loop, w.Live t loop → ∃ loopstp, w.sthreads[loop.entry]? = some loopstp ∧ loopstp.td = some (loop.td t)
  unclosed : ∀ t loop, w.Live t loop → loop.state ≠ .closed
  starting : ∀ i rest servercount, w.phase = .starting i rest servercount →
    w.shutdownSig ≤ 1 ∧ ∃ loopstp, w.sthreads[i]? = some loopstp ∧ loopstp.td = none
  visited : ∀ rest, w.phase.counted = some (rest, 0) → 2 ≤ w.shutdownSig →
    ∀ i loopstp, w.sthreads[i]? = some loopstp → i ∉ rest → loopstp.td = none
  broken : w.phase = .broken true → ∀ t loop, ¬ w.Live t loop

theorem entry_at (w : Supervisor) (i j : Nat) (change : ListedThread → ListedThread) :
    (w.entry i change).sthreads[j]? = if i = j then w.sthreads[j]?.map change else w.sthreads[j]? := by
  rw [Supervisor.entry, List.getElem?_modify]
  split
  · cases w.sthreads[j]? <;> rfl
  · cases w.sthreads[j]? <;> rfl

theorem thread_at (w : Supervisor) (t j : Nat) (change : ListenThread → ListenThread) :
    (w.thread t change).threads[j]? = if t = j then w.threads[j]?.map change else w.threads[j]? := by
  rw [Supervisor.thread, List.getElem?_modify]
  split
  · cases w.threads[j]? <;> rfl
  · cases w.threads[j]? <;> rfl

theorem live_of_thread (w : Supervisor) (t other : Nat) (change : ListenThread → ListenThread) (loop' : ListenThread)
    (live : (w.thread t change).Live other loop') :
    other ≠ t ∧ w.Live other loop' ∨ other = t ∧ ∃ loop, w.threads[t]? = some loop ∧ loop' = change loop := by
  have isLoop := live.some
  rw [thread_at] at isLoop
  by_cases same : t = other
  · subst same
    rw [if_pos rfl] at isLoop
    obtain ⟨loop, old, rfl⟩ := Option.map_eq_some_iff.mp isLoop
    exact .inr ⟨rfl, loop, old, rfl⟩
  · rw [if_neg same] at isLoop
    exact .inl ⟨Ne.symm same, isLoop, live.runs⟩

theorem supervised_goes (w next : Supervisor) (supervised : Supervised w) (threads : next.threads = w.threads)
    (sthreads : next.sthreads = w.sthreads) (starting : ∀ i rest servercount, next.phase ≠ .starting i rest servercount)
    (visited : ∀ rest, next.phase.counted = some (rest, 0) → 2 ≤ next.shutdownSig →
      ∀ i loopstp, w.sthreads[i]? = some loopstp → i ∉ rest → loopstp.td = none)
    (broken : next.phase = .broken true → ∀ t loop, ¬ w.Live t loop) : Supervised next := by
  have live (t : Nat) (loop : ListenThread) (lives : next.Live t loop) : w.Live t loop := ⟨threads ▸ lives.some, lives.runs⟩
  refine ⟨fun t loop lives => ?_, fun t loop lives => supervised.unclosed t loop (live t loop lives),
    fun i rest servercount here => absurd here (starting i rest servercount), fun rest here sig i loopstp isEntry => ?_,
    fun here t loop lives => broken here t loop (live t loop lives)⟩
  · rw [sthreads]
    exact supervised.referred t loop (live t loop lives)
  · rw [sthreads] at isEntry
    exact visited rest here sig i loopstp isEntry

theorem supervised_one (w : Supervisor) (supervised : Supervised w) (s t : Nat) (first second : ListenThread)
    (live : w.Live s first) (live' : w.Live t second) (same : first.entry = second.entry) : s = t := by
  obtain ⟨loopstp, isEntry, refers⟩ := supervised.referred s first live
  obtain ⟨loopstp', isEntry', refers'⟩ := supervised.referred t second live'
  rw [same, isEntry'] at isEntry
  cases isEntry
  rw [refers] at refers'
  simp only [ListenThread.td] at refers'
  split at refers'
  · split at refers'
    · simpa using refers'
    · simp at refers'
  · split at refers'
    · simp at refers'
    · simpa using refers'

theorem supervised_moves (w : Supervisor) (supervised : Supervised w) (t : Nat) (loop : ListenThread) (live : w.Live t loop)
    (inList : loop.phase ≠ .begins) (change : ListenThread → ListenThread) (entry : (change loop).entry = loop.entry)
    (phase : (change loop).phase ≠ .begins) (state : (change loop).phase ≠ .finished → (change loop).state ≠ .closed) :
    Supervised (w.thread t change) := by
  refine ⟨fun other loop' lives => ?_, fun other loop' lives => ?_, supervised.starting, supervised.visited, fun here => ?_⟩
  · rcases live_of_thread w t other change loop' lives with ⟨-, old⟩ | ⟨rfl, loop'', isLoop, rfl⟩
    · exact supervised.referred other loop' old
    · rw [live.some] at isLoop
      cases isLoop
      obtain ⟨loopstp, isEntry, refers⟩ := supervised.referred other loop live
      refine ⟨loopstp, by rw [entry]; exact isEntry, ?_⟩
      rw [refers, ListenThread.td, ListenThread.td, if_neg inList, if_neg phase]
  · rcases live_of_thread w t other change loop' lives with ⟨-, old⟩ | ⟨rfl, loop'', isLoop, rfl⟩
    · exact supervised.unclosed other loop' old
    · rw [live.some] at isLoop
      cases isLoop
      exact state lives.runs
  · exact absurd live (supervised.broken here t loop)

theorem supervised_begins (w : Supervisor) (supervised : Supervised w) (t : Nat) (loop : ListenThread) (live : w.Live t loop) :
    Supervised ((w.thread t fun loop => { loop with phase := .enters }).entry loop.entry fun loopstp => { loopstp with td := some (.listen t) }) := by
  obtain ⟨own, isOwn, refers⟩ := supervised.referred t loop live
  -- Every other entry is as it was.
  have elsewhere (i : Nat) (apart : loop.entry ≠ i) : ((w.thread t fun loop => { loop with phase := .enters }).entry loop.entry
      fun loopstp => { loopstp with td := some (.listen t) }).sthreads[i]? = w.sthreads[i]? := by
    rw [entry_at, if_neg apart]
    rfl
  have moved (other : Nat) (loop' : ListenThread) (lives : ((w.thread t fun loop => { loop with phase := .enters }).entry loop.entry
      fun loopstp => { loopstp with td := some (.listen t) }).Live other loop') :
      (w.thread t fun loop => { loop with phase := .enters }).Live other loop' := ⟨lives.some, lives.runs⟩
  refine ⟨fun other loop' lives => ?_, fun other loop' lives => ?_, fun i rest servercount here => ?_, fun rest here sig i loopstp => ?_,
    fun here => ?_⟩
  · rcases live_of_thread w t other _ loop' (moved other loop' lives) with ⟨apart, old⟩ | ⟨rfl, loop'', isLoop, rfl⟩
    · have different : loop.entry ≠ loop'.entry := fun same => apart (supervised_one w supervised other t loop' loop old live same.symm)
      rw [elsewhere _ different]
      exact supervised.referred other loop' old
    · rw [live.some] at isLoop
      cases isLoop
      refine ⟨{ own with td := some (.listen other) }, ?_, ?_⟩
      · rw [entry_at, if_pos rfl]
        show w.sthreads[loop.entry]?.map _ = _
        rw [isOwn]
        rfl
      · rw [ListenThread.td, if_neg (fun same => nomatch same)]
  · rcases live_of_thread w t other _ loop' (moved other loop' lives) with ⟨-, old⟩ | ⟨rfl, loop'', isLoop, rfl⟩
    · exact supervised.unclosed other loop' old
    · rw [live.some] at isLoop
      cases isLoop
      exact supervised.unclosed other loop live
  · obtain ⟨sig, loopstp, isEntry, free⟩ := supervised.starting i rest servercount here
    refine ⟨sig, loopstp, ?_, free⟩
    rw [elsewhere i ?_]
    · exact isEntry
    · rintro rfl
      rw [isOwn] at isEntry
      cases isEntry
      rw [free] at refers
      cases refers
  · intro isEntry notRest
    by_cases same : loop.entry = i
    · subst same
      have free := supervised.visited rest here sig loop.entry own isOwn notRest
      rw [free] at refers
      cases refers
    · rw [elsewhere i same] at isEntry
      exact supervised.visited rest here sig i loopstp isEntry notRest
  · exact absurd live (supervised.broken here t loop)

theorem supervised_listener (w : Supervisor) (supervised : Supervised w) (t : Nat) (fails : Bool) : Supervised (w.listener t fails) := by
  rw [Supervisor.listener]
  cases isLoop : w.threads[t]? with
  | none => exact supervised
  | some loop =>
      dsimp only
      have next (phase : ListenPhase) (now : loop.phase ≠ .begins ∧ loop.phase ≠ .finished) (later : phase ≠ .begins) :
          Supervised (w.thread t fun loop => { loop with phase := phase }) := by
        have live : w.Live t loop := ⟨isLoop, now.2⟩
        exact supervised_moves w supervised t loop live now.1 _ rfl later fun _ => supervised.unclosed t loop live
      cases phase : loop.phase with
      | begins => exact supervised_begins w supervised t loop ⟨isLoop, by rw [phase]; decide⟩
      | enters =>
          exact supervised_moves w supervised t loop ⟨isLoop, by rw [phase]; decide⟩ (by rw [phase]; decide) _ rfl
            (fun same => nomatch same) fun _ same => nomatch same
      | tests =>
          dsimp only
          split
          · exact next .accepts (by rw [phase]; decide) (by decide)
          · exact next .leaves (by rw [phase]; decide) (by decide)
      | accepts =>
          dsimp only
          split
          · exact next .waits (by rw [phase]; decide) (by decide)
          · exact supervised_goes w _ supervised rfl rfl (fun _ _ _ here => nomatch here) (fun _ here => nomatch here)
              fun here => nomatch here
      | waits =>
          dsimp only
          split
          · exact next .leaves (by rw [phase]; decide) (by decide)
          · exact next .tests (by rw [phase]; decide) (by decide)
      | leaves =>
          exact supervised_moves w supervised t loop ⟨isLoop, by rw [phase]; decide⟩ (by rw [phase]; decide) _ rfl
            (fun same => nomatch same) fun _ same => nomatch same
      | ends =>
          exact supervised_moves w supervised t loop ⟨isLoop, by rw [phase]; decide⟩ (by rw [phase]; decide) _ rfl
            (fun same => nomatch same) fun running => absurd rfl running
      | finished => exact supervised

theorem supervised_missing (w : Supervisor) (supervised : Supervised w) (i : Nat) (rest : List Nat) (servercount : Nat)
    (here : w.phase = .visiting (i :: rest) servercount) (missing : w.sthreads[i]? = none) :
    Supervised (w.goes (.visiting rest servercount)) := by
  refine supervised_goes w _ supervised rfl rfl (fun _ _ _ same => nomatch same) (fun after same sig j loopstp isEntry notAfter => ?_)
    fun same => nomatch same
  obtain ⟨rfl, rfl⟩ : rest = after ∧ servercount = 0 := by
    simpa only [Supervisor.goes, LoopPhase.counted, Option.some.injEq, Prod.mk.injEq] using same
  refine supervised.visited (i :: rest) (by rw [here]; rfl) sig j loopstp isEntry fun member => ?_
  rcases List.mem_cons.mp member with rfl | later
  · rw [missing] at isEntry
    cases isEntry
  · exact notAfter later

theorem running_kept (w : Supervisor) (supervised : Supervised w) (own : ListedThread) (t : Nat) (loop : ListenThread)
    (live : w.Live t loop) (isOwn : w.sthreads[loop.entry]? = some own) :
    own.td.filter (fun td => w.stateOf td ≠ .closed) = some (loop.td t) := by
  obtain ⟨loopstp, isEntry, refers⟩ := supervised.referred t loop live
  obtain rfl := Option.some.inj (isOwn.symm.trans isEntry)
  have unclosed : w.stateOf (loop.td t) ≠ .closed := by
    rw [ListenThread.td]
    split
    · exact ThreadState.noConfusion
    · rw [Supervisor.stateOf, live.some]
      exact supervised.unclosed t loop live
  rw [refers, Option.filter_some, if_pos (by simpa using unclosed)]

theorem entry_td_at (w : Supervisor) (i j : Nat) (own : ListedThread) (isOwn : w.sthreads[i]? = some own) (td : Option Td) :
    (w.entry i fun loopstp => { loopstp with td := td }).sthreads[j]? =
      if i = j then some { own with td := td } else w.sthreads[j]? := by
  rw [entry_at]
  split
  · rename_i same
    rw [← same, isOwn]
    rfl
  · rfl

theorem supervised_visit (w : Supervisor) (supervised : Supervised w) (i : Nat) (rest : List Nat) (servercount : Nat)
    (here : w.phase = .visiting (i :: rest) servercount) : Supervised (w.visit i rest servercount) := by
  rw [Supervisor.visit]
  cases isOwn : w.sthreads[i]? with
  | none => exact supervised_missing w supervised i rest servercount here isOwn
  | some own =>
      dsimp only
      refine ⟨fun t loop live => ?_, fun t loop live => supervised.unclosed t loop ⟨live.some, live.runs⟩,
        fun j after count starts => ?_, fun after visits sig j loopstp isEntry notAfter => ?_, fun broken => ?_⟩
      · obtain ⟨loopstp, isEntry, refers⟩ := supervised.referred t loop ⟨live.some, live.runs⟩
        show ∃ loopstp, ((w.entry i _).sthreads)[loop.entry]? = some loopstp ∧ _
        rw [entry_td_at w i _ own isOwn]
        by_cases same : i = loop.entry
        · rw [if_pos same]
          exact ⟨_, rfl, running_kept w supervised own t loop ⟨live.some, live.runs⟩ (same ▸ isOwn)⟩
        · rw [if_neg same]
          exact ⟨loopstp, isEntry, refers⟩
      · change (if _ then LoopPhase.starting i rest _ else .visiting rest _) = _ at starts
        split at starts
        · rename_i restarts
          cases starts
          have sig : w.shutdownSig = 0 := restarts.2.2
          refine ⟨by show w.shutdownSig ≤ 1; omega, { own with td := own.td.filter fun td => w.stateOf td ≠ .closed }, ?_, restarts.2.1⟩
          show ((w.entry i _).sthreads)[i]? = _
          rw [entry_td_at w i _ own isOwn, if_pos rfl]
        · cases starts
      · change (if _ then LoopPhase.starting i rest _ else .visiting rest _).counted = _ at visits
        split at visits
        · cases visits
        · simp only [LoopPhase.counted, Option.some.injEq, Prod.mk.injEq] at visits
          obtain ⟨rfl, count⟩ := visits
          have noTd : own.td = none ∧ servercount = 0 := by
            cases isTd : own.td with
            | none =>
                rw [isTd] at count
                exact ⟨rfl, count⟩
            | some td =>
                rw [isTd] at count
                cases count
          change ((w.entry i _).sthreads)[j]? = _ at isEntry
          rw [entry_td_at w i _ own isOwn] at isEntry
          split at isEntry
          · cases isEntry
            show Option.filter _ own.td = _
            rw [noTd.1]
            rfl
          · rename_i apart
            rw [noTd.2] at here
            exact supervised.visited (i :: rest) (by rw [here]; rfl) sig j loopstp isEntry fun member =>
              (List.mem_cons.mp member).elim (fun same => apart same.symm) notAfter
      · change (if _ then LoopPhase.starting i rest _ else .visiting rest _) = _ at broken
        split at broken
        · cases broken
        · cases broken

theorem supervised_start (w : Supervisor) (supervised : Supervised w) (i : Nat) (rest : List Nat) (servercount : Nat)
    (here : w.phase = .starting i rest servercount) : Supervised (w.start i rest servercount) := by
  obtain ⟨sig, own, isOwn, free⟩ := supervised.starting i rest servercount here
  rw [Supervisor.start]
  split
  · have at' (j : Nat) : (w.sthreads.modify i fun loopstp => { loopstp with td := some (.target w.threads.length) })[j]? =
        if i = j then w.sthreads[j]?.map (fun loopstp => { loopstp with td := some (.target w.threads.length) }) else w.sthreads[j]? :=
      entry_at w i j _
    have was (t : Nat) (loop : ListenThread) (isLoop : (w.threads ++ [⟨i, .spawning, .begins⟩])[t]? = some loop) :
        w.threads[t]? = some loop ∨ t = w.threads.length ∧ loop = ⟨i, .spawning, .begins⟩ := by
      rcases Nat.lt_trichotomy t w.threads.length with old | new | beyond
      · rw [List.getElem?_append_left old] at isLoop
        exact .inl isLoop
      · rw [new, List.getElem?_concat_length] at isLoop
        exact .inr ⟨new, (Option.some.inj isLoop).symm⟩
      · rw [List.getElem?_eq_none (by rw [List.length_append, List.length_singleton]; omega)] at isLoop
        cases isLoop
    refine ⟨fun t loop live => ?_, fun t loop live => ?_, fun _ _ _ same => (nomatch same), fun after _ two => ?_,
      fun same => (nomatch same)⟩
    · show ∃ loopstp, (w.sthreads.modify i _)[loop.entry]? = some loopstp ∧ _
      rw [at']
      rcases was t loop live.some with old | ⟨rfl, rfl⟩
      · obtain ⟨loopstp, isEntry, refers⟩ := supervised.referred t loop ⟨old, live.runs⟩
        by_cases same : i = loop.entry
        · rw [← same, isOwn] at isEntry
          cases isEntry
          rw [free] at refers
          cases refers
        · rw [if_neg same]
          exact ⟨loopstp, isEntry, refers⟩
      · rw [if_pos rfl, isOwn]
        exact ⟨_, rfl, rfl⟩
    · rcases was t loop live.some with old | ⟨rfl, rfl⟩
      · exact supervised.unclosed t loop ⟨old, live.runs⟩
      · exact fun same => nomatch same
    · exact absurd (Nat.le_trans two sig) (by decide)
  · exact supervised_goes w _ supervised rfl rfl (fun _ _ _ same => nomatch same)
      (fun _ _ two => absurd (Nat.le_trans two sig) (by decide)) fun same => nomatch same

theorem supervised_rereads (w : Supervisor) (supervised : Supervised w) (added : List SThread) (servercount : Nat)
    (here : w.phase = .rereads servercount) :
    Supervised { w with sthreads := w.sthreads ++ (added.map listedThread).reverse, phase := .tests servercount } := by
  refine ⟨fun t loop live => ?_, fun t loop live => supervised.unclosed t loop ⟨live.some, live.runs⟩, fun _ _ _ same => (nomatch same),
    fun rest counted sig i loopstp isEntry notRest => ?_, fun same => (nomatch same)⟩
  · obtain ⟨loopstp, isEntry, refers⟩ := supervised.referred t loop ⟨live.some, live.runs⟩
    refine ⟨loopstp, ?_, refers⟩
    show (w.sthreads ++ _)[loop.entry]? = _
    rw [List.getElem?_append_left (List.getElem?_eq_some_iff.mp isEntry).1]
    exact isEntry
  · obtain ⟨rfl, rfl⟩ : [] = rest ∧ servercount = 0 := by
      simpa only [LoopPhase.counted, Option.some.injEq, Prod.mk.injEq] using counted
    rcases Nat.lt_or_ge i w.sthreads.length with old | new
    · change (w.sthreads ++ _)[i]? = _ at isEntry
      rw [List.getElem?_append_left old] at isEntry
      exact supervised.visited [] (by rw [here]; rfl) sig i loopstp isEntry notRest
    · change (w.sthreads ++ _)[i]? = _ at isEntry
      rw [List.getElem?_append_right new] at isEntry
      obtain ⟨thread, -, rfl⟩ := List.mem_map.mp (List.mem_reverse.mp (List.mem_of_getElem? isEntry))
      cases thread with
      | listen lpp family => rfl
      | mSeedScan configstr => rfl

theorem supervised_watchdog (w : Supervisor) (supervised : Supervised w) (found : Findings) : Supervised (w.watchdog found) := by
  -- The phases of a pass that is not under way.
  have goes (next : Supervisor) (threads : next.threads = w.threads) (sthreads : next.sthreads = w.sthreads)
      (starting : ∀ i rest servercount, next.phase ≠ .starting i rest servercount) (counted : next.phase.counted = none)
      (unbroken : next.phase ≠ .broken true) : Supervised next :=
    supervised_goes w next supervised threads sthreads starting (fun _ same => by rw [counted] at same; cases same)
      fun same => absurd same unbroken
  rw [Supervisor.watchdog]
  split
  · split
    · exact goes _ rfl rfl (fun _ _ _ same => nomatch same) rfl fun same => nomatch same
    · exact goes _ rfl rfl (fun _ _ _ same => nomatch same) rfl fun same => nomatch same
  · rename_i i rest here
    -- Only the socket of the entry changes.
    refine ⟨fun t loop live => ?_, fun t loop live => supervised.unclosed t loop ⟨live.some, live.runs⟩, fun _ _ _ same => (nomatch same),
      fun _ same => (nomatch same), fun same => (nomatch same)⟩
    obtain ⟨loopstp, isEntry, refers⟩ := supervised.referred t loop ⟨live.some, live.runs⟩
    show ∃ loopstp, (w.entry i _).sthreads[loop.entry]? = some loopstp ∧ _
    rw [entry_at]
    split
    · rw [isEntry]
      exact ⟨_, rfl, refers⟩
    · exact ⟨loopstp, isEntry, refers⟩
  · exact goes _ rfl rfl (fun _ _ _ same => nomatch same) rfl fun same => nomatch same
  · split
    · exact goes _ rfl rfl (fun _ _ _ same => nomatch same) rfl fun same => nomatch same
    · refine supervised_goes w _ supervised rfl rfl (fun _ _ _ same => nomatch same) (fun rest same _ i loopstp isEntry notRest => ?_)
        fun same => nomatch same
      simp only [LoopPhase.counted, Option.some.injEq, Prod.mk.injEq] at same
      rw [← same.1, Supervisor.entries, List.mem_reverse, List.mem_range] at notRest
      exact absurd (List.getElem?_eq_some_iff.mp isEntry).1 notRest
  · rename_i i rest servercount here
    exact supervised_visit w supervised i rest servercount here
  · rename_i i rest servercount here
    exact supervised_start w supervised i rest servercount here
  · rename_i servercount here
    split
    · exact goes _ rfl rfl (fun _ _ _ same => nomatch same) rfl fun same => nomatch same
    · refine supervised_goes w _ supervised rfl rfl (fun _ _ _ same => nomatch same) (fun rest same sig => ?_) fun same => nomatch same
      exact supervised.visited rest (by rw [here]; exact same) sig
  · rename_i servercount here
    exact supervised_rereads w supervised found.added servercount here
  · rename_i servercount here
    split
    · rename_i ends
      refine supervised_goes w _ supervised rfl rfl (fun _ _ _ same => nomatch same) (fun _ same => nomatch same) fun _ t loop live => ?_
      obtain ⟨loopstp, isEntry, refers⟩ := supervised.referred t loop live
      rw [ends.2.2] at here
      rw [supervised.visited [] (by rw [here]; rfl) ends.1 loop.entry loopstp isEntry List.not_mem_nil] at refers
      cases refers
    · exact goes _ rfl rfl (fun _ _ _ same => nomatch same) rfl fun same => nomatch same
  · exact supervised
  · exact supervised
  · exact supervised

theorem supervised_signal (w : Supervisor) (supervised : Supervised w) : Supervised { w with shutdownSig := 1 } :=
  ⟨fun t loop live => supervised.referred t loop ⟨live.some, live.runs⟩, fun t loop live => supervised.unclosed t loop ⟨live.some, live.runs⟩,
    fun i rest servercount here => ⟨Nat.le_refl 1, (supervised.starting i rest servercount here).2⟩,
    fun _ _ two => absurd (show 2 ≤ 1 from two) (by decide), fun here t loop live => supervised.broken here t loop ⟨live.some, live.runs⟩⟩

theorem step_running (w : Supervisor) (event : LoopEvent) (running : ¬ (w.phase = .crashed ∨ w.phase = .threw)) : w.step event =
    match event with
    | .sigterm => { w with shutdownSig := 1 }
    | .sigint => if w.shutdownSig = 0 then { w with shutdownSig := 1 } else w
    | .watchdog found => w.watchdog found
    | .listener t fails => w.listener t fails := by
  rw [Supervisor.step.eq_def, if_neg running]

theorem supervised_step (w : Supervisor) (supervised : Supervised w) (event : LoopEvent) : Supervised (w.step event) := by
  by_cases exits : w.phase = .crashed ∨ w.phase = .threw
  · rw [Supervisor.step.eq_def, if_pos exits]
    exact supervised
  rw [step_running w event exits]
  cases event with
  | sigterm => exact supervised_signal w supervised
  | sigint =>
      dsimp only
      split
      · exact supervised_signal w supervised
      · exact supervised
  | watchdog found => exact supervised_watchdog w supervised found
  | listener t fails => exact supervised_listener w supervised t fails

theorem supervised_run (events : List LoopEvent) (w : Supervisor) (supervised : Supervised w) : Supervised (w.run events) := by
  induction events generalizing w with
  | nil => exact supervised
  | cons event rest ih => exact ih (w.step event) (supervised_step w supervised event)

theorem supervised_new (config : ServerConfig) : Supervised (newSupervisor config) :=
  ⟨fun t loop live => absurd live.some (by simp [newSupervisor]), fun t loop live => absurd live.some (by simp [newSupervisor]),
    fun _ _ _ same => (nomatch same), fun _ same => (nomatch same), fun same => (nomatch same)⟩

-- However the threads, the watchdog and the signals are interleaved.
theorem listen_threads_supervised (config : ServerConfig) (events : List LoopEvent) :
    (∀ (s t : Nat) first second, ((newSupervisor config).run events).Live s first → ((newSupervisor config).run events).Live t second →
      first.entry = second.entry → s = t) ∧
    (∀ (t : Nat) loop, ((newSupervisor config).run events).Live t loop → ∃ loopstp,
      ((newSupervisor config).run events).sthreads[loop.entry]? = some loopstp ∧ loopstp.td = some (loop.td t)) ∧
    (((newSupervisor config).run events).phase = .broken true → ∀ (t : Nat) loop, ¬ ((newSupervisor config).run events).Live t loop) := by
  have supervised := supervised_run events (newSupervisor config) (supervised_new config)
  exact ⟨supervised_one _ supervised, supervised.referred, supervised.broken⟩

def port (portStr : Text) : SThread := .listen ⟨portStr, .all, ⟨false, true, false⟩⟩ .interNetwork

def onePort : ServerConfig := { initialConfig with sthreads := [port "18000".toList] }

def nothingFound : Findings := ⟨false, false, [], 0⟩

-- The watchdog starts the listen thread of the port, finds a second port in the configuration
-- file and starts its thread in the next pass.
def portAdded : List LoopEvent :=
  List.replicate 4 (.watchdog nothingFound) ++ [.listener 0 false, .listener 0 false, .watchdog nothingFound,
    .watchdog { nothingFound with added := [port "18500".toList] }] ++ List.replicate 5 (.watchdog nothingFound)

theorem listen_threads_supervised_port_added :
    (∃ loopstp, ((newSupervisor onePort).run portAdded).sthreads[0]? = some loopstp ∧ loopstp.td = some (.listen 0)) ∧
    ∃ loopstp, ((newSupervisor onePort).run portAdded).sthreads[1]? = some loopstp ∧ loopstp.td = some (.target 1) :=
  ⟨(listen_threads_supervised onePort portAdded).2.1 0 ⟨0, .active, .tests⟩ ⟨by decide +kernel, by decide⟩,
    (listen_threads_supervised onePort portAdded).2.1 1 ⟨1, .spawning, .begins⟩ ⟨by decide +kernel, by decide⟩⟩

end RingServer.Program
