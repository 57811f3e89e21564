import RingServer.Program.Watchdog

set_option autoImplicit false

namespace RingServer.Program

open Config Net

def LoopPhase.ended : LoopPhase → Bool
  | .broken _ | .crashed | .threw => true
  | _ => false

def LoopEvent.isWatchdog : LoopEvent → Bool
  | .watchdog _ => true
  | _ => false

inductive Ticks (n : Nat) : LoopPhase → Nat → LoopPhase → Nat → Prop
  | shuts (rest : List Nat) (length : rest.length ≤ n) : Ticks n .top 1 (.closing rest) 2
  | passes (sig : Nat) (other : sig ≠ 1) : Ticks n .top sig .valve sig
  | closes (i : Nat) (rest : List Nat) (sig : Nat) : Ticks n (.closing (i :: rest)) sig (.closing rest) sig
  | closed (sig : Nat) : Ticks n (.closing []) sig .valve sig
  | breaks (sig : Nat) (late : 100 ≤ sig) : Ticks n .valve sig (.broken false) sig
  | waits (rest : List Nat) (length : rest.length ≤ n) (sig : Nat) (before : sig ≤ 1) : Ticks n .valve sig (.visiting rest 0) sig
  | counts (rest : List Nat) (length : rest.length ≤ n) (sig : Nat) (shuts : 1 < sig) (below : sig < 100) :
      Ticks n .valve sig (.visiting rest 0) (sig + 1)
  | visits (i : Nat) (rest : List Nat) (count count' sig : Nat) :
      Ticks n (.visiting (i :: rest) count) sig (.visiting rest count') sig
  | restarts (i : Nat) (rest : List Nat) (count count' : Nat) : Ticks n (.visiting (i :: rest) count) 0 (.starting i rest count') 0
  | starts (i : Nat) (rest : List Nat) (count sig : Nat) : Ticks n (.starting i rest count) sig (.visiting rest count) sig
  | throws (count sig : Nat) : Ticks n (.visiting [] count) sig .threw sig
  | visited (count sig : Nat) : Ticks n (.visiting [] count) sig (.rereads count) sig
  | rereads (count sig : Nat) : Ticks n (.rereads count) sig (.tests count) sig
  | ends (sig : Nat) (shuts : 2 ≤ sig) : Ticks n (.tests 0) sig (.broken true) sig
  | again (count sig : Nat) : Ticks n (.tests count) sig .top sig
  | rests (phase : LoopPhase) (ended : phase.ended = true) (sig : Nat) : Ticks n phase sig phase sig

-- The passes that are left of a shutdown, this one included, and the steps that are left of this pass.
def passesLeft (sig : Nat) : LoopPhase → Nat
  | .top => if sig ≤ 1 then 100 else 101 - sig
  | .closing _ | .valve => if sig ≤ 1 then 101 else 101 - sig
  | .visiting _ _ | .starting _ _ _ | .rereads _ | .tests _ => if sig ≤ 1 then 101 else 102 - sig
  | .broken _ | .crashed | .threw => 0

def stepsLeft (n : Nat) : LoopPhase → Nat
  | .top => 3 * n + 6
  | .closing rest => 2 * n + 5 + rest.length
  | .valve => 2 * n + 4
  | .visiting rest _ => 2 * rest.length + 3
  | .starting _ rest _ => 2 * rest.length + 4
  | .rereads _ => 2
  | .tests _ => 1
  | .broken _ | .crashed | .threw => 0

def remaining (n sig : Nat) (phase : LoopPhase) : Nat := passesLeft sig phase * (3 * n + 7) + stepsLeft n phase

-- ShutdownSig goes no further than the safety valve, and a pass has no more steps than this.
def Paced (n sig : Nat) (phase : LoopPhase) : Prop := sig ≤ 100 ∧ stepsLeft n phase ≤ 3 * n + 6

theorem passes_left_bound (sig : Nat) (phase : LoopPhase) : passesLeft sig phase ≤ 101 := by
  rw [passesLeft.eq_def]
  split
  · split <;> omega
  · split <;> omega
  · split <;> omega
  · split <;> omega
  · split <;> omega
  · split <;> omega
  · split <;> omega
  · exact Nat.zero_le _
  · exact Nat.zero_le _
  · exact Nat.zero_le _

theorem remaining_bound (n sig : Nat) (phase : LoopPhase) (paced : Paced n sig phase) : remaining n sig phase < 102 * (3 * n + 7) := by
  have most : passesLeft sig phase * (3 * n + 7) ≤ 101 * (3 * n + 7) := Nat.mul_le_mul_right _ (passes_left_bound sig phase)
  have steps := paced.2
  rw [remaining]
  omega

theorem ticks_paced (n sig sig' : Nat) (phase phase' : LoopPhase) (ticks : Ticks n phase sig phase' sig') (paced : Paced n sig phase) :
    Paced n sig' phase' := by
  obtain ⟨valve, steps⟩ := paced
  cases ticks with
  | shuts rest length => exact ⟨by omega, by simp only [stepsLeft]; omega⟩
  | passes sig other => exact ⟨valve, by simp only [stepsLeft]; omega⟩
  | closes i rest sig => exact ⟨valve, by simp only [stepsLeft, List.length_cons] at steps ⊢; omega⟩
  | closed sig => exact ⟨valve, by simp only [stepsLeft]; omega⟩
  | breaks sig late => exact ⟨valve, Nat.zero_le _⟩
  | waits rest length sig before => exact ⟨valve, by simp only [stepsLeft]; omega⟩
  | counts rest length sig shuts below => exact ⟨below, by simp only [stepsLeft]; omega⟩
  | visits i rest count count' sig => exact ⟨valve, by simp only [stepsLeft, List.length_cons] at steps ⊢; omega⟩
  | restarts i rest count count' => exact ⟨valve, by simp only [stepsLeft, List.length_cons] at steps ⊢; omega⟩
  | starts i rest count sig => exact ⟨valve, by simp only [stepsLeft] at steps ⊢; omega⟩
  | throws count sig => exact ⟨valve, Nat.zero_le _⟩
  | visited count sig => exact ⟨valve, by simp only [stepsLeft]; omega⟩
  | rereads count sig => exact ⟨valve, by simp only [stepsLeft]; omega⟩
  | ends sig shuts => exact ⟨valve, Nat.zero_le _⟩
  | again count sig => exact ⟨valve, Nat.le_refl _⟩
  | rests phase ended sig => exact ⟨valve, steps⟩

theorem ticks_fewer (n sig sig' : Nat) (phase phase' : LoopPhase) (ticks : Ticks n phase sig phase' sig') (paced : Paced n sig phase)
    (shuts : 0 < sig) (runs : phase.ended = false) : 0 < sig' ∧ remaining n sig' phase' < remaining n sig phase := by
  have valve := paced.1
  have samePass (passes : passesLeft sig' phase' = passesLeft sig phase) (steps : stepsLeft n phase' < stepsLeft n phase) :
      remaining n sig' phase' < remaining n sig phase := by
    rw [remaining, remaining, passes]
    omega
  have nextPass (passes : passesLeft sig' phase' + 1 ≤ passesLeft sig phase) (steps : stepsLeft n phase' < stepsLeft n phase + (3 * n + 7)) :
      remaining n sig' phase' < remaining n sig phase := by
    have fewer : (passesLeft sig' phase' + 1) * (3 * n + 7) ≤ passesLeft sig phase * (3 * n + 7) := Nat.mul_le_mul_right _ passes
    rw [Nat.succ_mul] at fewer
    rw [remaining, remaining]
    omega
  cases ticks with
  | shuts rest length => exact ⟨by omega, nextPass (by simp [passesLeft]) (by simp only [stepsLeft]; omega)⟩
  | passes sig other =>
      refine ⟨shuts, samePass ?_ (by simp only [stepsLeft]; omega)⟩
      rw [passesLeft, passesLeft, if_neg (by omega), if_neg (by omega)]
  | closes i rest sig => exact ⟨shuts, samePass rfl (by simp only [stepsLeft, List.length_cons]; omega)⟩
  | closed sig => exact ⟨shuts, samePass rfl (by simp only [stepsLeft]; omega)⟩
  | breaks sig late =>
      refine ⟨shuts, nextPass ?_ (by simp only [stepsLeft]; omega)⟩
      rw [passesLeft, passesLeft]
      split <;> omega
  | waits rest length sig before =>
      refine ⟨shuts, samePass ?_ (by simp only [stepsLeft]; omega)⟩
      rw [passesLeft, passesLeft, if_pos before, if_pos before]
  | counts rest length sig shutting below =>
      refine ⟨Nat.succ_pos _, samePass ?_ (by simp only [stepsLeft]; omega)⟩
      rw [passesLeft, passesLeft, if_neg (by omega), if_neg (by omega)]
      omega
  | visits i rest count count' sig => exact ⟨shuts, samePass rfl (by simp only [stepsLeft, List.length_cons]; omega)⟩
  | restarts i rest count count' => exact absurd shuts (Nat.lt_irrefl 0)
  | starts i rest count sig => exact ⟨shuts, samePass rfl (by simp only [stepsLeft]; omega)⟩
  | throws count sig =>
      refine ⟨shuts, nextPass ?_ (by simp only [stepsLeft]; omega)⟩
      rw [passesLeft, passesLeft]
      split <;> omega
  | visited count sig => exact ⟨shuts, samePass rfl (by simp only [stepsLeft, List.length_nil]; omega)⟩
  | rereads count sig => exact ⟨shuts, samePass rfl (by simp only [stepsLeft]; omega)⟩
  | ends sig shutting =>
      refine ⟨shuts, nextPass ?_ (by simp only [stepsLeft]; omega)⟩
      rw [passesLeft, passesLeft, if_neg (by omega)]
      omega
  | again count sig =>
      refine ⟨shuts, nextPass ?_ (by simp only [stepsLeft]; omega)⟩
      rw [passesLeft, passesLeft]
      split <;> omega
  | rests phase ended sig =>
      rw [ended] at runs
      cases runs

theorem start_sizes (w : Supervisor) (i : Nat) (rest : List Nat) (servercount : Nat) :
    (w.start i rest servercount).sthreads.length = w.sthreads.length ∧ (w.start i rest servercount).shutdownSig = w.shutdownSig ∧
      (w.start i rest servercount).phase = .visiting rest servercount ∧ (w.start i rest servercount).threads.length ≤ w.threads.length + 1 := by
  rw [Supervisor.start]
  split
  · exact ⟨List.length_modify _ _ _, rfl, rfl, by rw [List.length_append, List.length_singleton]⟩
  · exact ⟨rfl, rfl, rfl, Nat.le_succ _⟩

theorem visit_sizes (w : Supervisor) (i : Nat) (rest : List Nat) (servercount : Nat) :
    (w.visit i rest servercount).sthreads.length = w.sthreads.length ∧ (w.visit i rest servercount).shutdownSig = w.shutdownSig ∧
      (w.visit i rest servercount).threads = w.threads ∧ ((∃ count, (w.visit i rest servercount).phase = .visiting rest count) ∨
        ∃ count, (w.visit i rest servercount).phase = .starting i rest count ∧ w.shutdownSig = 0) := by
  rw [Supervisor.visit]
  split
  · exact ⟨rfl, rfl, rfl, .inl ⟨_, rfl⟩⟩
  · refine ⟨List.length_modify _ _ _, rfl, rfl, ?_⟩
    dsimp only [Supervisor.goes]
    split
    · rename_i starts
      exact .inr ⟨_, rfl, starts.2.2⟩
    · exact .inl ⟨_, rfl⟩

theorem listener_sizes (w : Supervisor) (t : Nat) (fails : Bool) :
    (w.listener t fails).sthreads.length = w.sthreads.length ∧ (w.listener t fails).shutdownSig = w.shutdownSig ∧
      (w.listener t fails).threads.length = w.threads.length ∧
      ((w.listener t fails).phase = w.phase ∨ (w.listener t fails).phase = .crashed) := by
  have moves (change : ListenThread → ListenThread) : (w.thread t change).threads.length = w.threads.length := List.length_modify _ _ _
  rw [Supervisor.listener]
  split
  · exact ⟨rfl, rfl, rfl, .inl rfl⟩
  · dsimp only
    split
    · exact ⟨List.length_modify _ _ _, rfl, moves _, .inl rfl⟩
    · exact ⟨rfl, rfl, moves _, .inl rfl⟩
    · split
      · exact ⟨rfl, rfl, moves _, .inl rfl⟩
      · exact ⟨rfl, rfl, moves _, .inl rfl⟩
    · split
      · exact ⟨rfl, rfl, moves _, .inl rfl⟩
      · exact ⟨rfl, rfl, rfl, .inr rfl⟩
    · split
      · exact ⟨rfl, rfl, moves _, .inl rfl⟩
      · exact ⟨rfl, rfl, moves _, .inl rfl⟩
    · exact ⟨rfl, rfl, moves _, .inl rfl⟩
    · exact ⟨rfl, rfl, moves _, .inl rfl⟩
    · exact ⟨rfl, rfl, rfl, .inl rfl⟩

theorem watchdog_ticks (n : Nat) (w : Supervisor) (length : w.sthreads.length ≤ n) (found : Findings) :
    Ticks n w.phase w.shutdownSig (w.watchdog found).phase (w.watchdog found).shutdownSig ∧
      w.sthreads.length ≤ (w.watchdog found).sthreads.length ∧
      (w.watchdog found).sthreads.length ≤ w.sthreads.length + found.added.length ∧
      ((w.watchdog found).threads.length = w.threads.length ∨ (∃ i rest count, w.phase = .starting i rest count ∧
        (w.watchdog found).phase = .visiting rest count) ∧ (w.watchdog found).threads.length ≤ w.threads.length + 1) := by
  have entries : w.entries.length ≤ n := by
    rw [Supervisor.entries, List.length_reverse, List.length_range]
    exact length
  rw [Supervisor.watchdog]
  split
  · rename_i here
    rw [here]
    split
    · rename_i one
      rw [one]
      exact ⟨.shuts _ entries, Nat.le_refl _, Nat.le_add_right _ _, .inl rfl⟩
    · rename_i other
      exact ⟨.passes _ other, Nat.le_refl _, Nat.le_add_right _ _, .inl rfl⟩
  · rename_i i rest here
    rw [here]
    have same : (w.entry i fun loopstp => { loopstp with listenSocket := false }).sthreads.length = w.sthreads.length := List.length_modify _ _ _
    exact ⟨.closes i rest _, same.ge, same.le.trans (Nat.le_add_right _ _), .inl rfl⟩
  · rename_i here
    rw [here]
    exact ⟨.closed _, Nat.le_refl _, Nat.le_add_right _ _, .inl rfl⟩
  · rename_i here
    rw [here]
    split
    · rename_i late
      exact ⟨.breaks _ late, Nat.le_refl _, Nat.le_add_right _ _, .inl rfl⟩
    · rename_i below
      by_cases shuts : w.shutdownSig > 1
      · rw [if_pos shuts]
        exact ⟨.counts _ entries _ shuts (Nat.lt_of_not_le below), Nat.le_refl _, Nat.le_add_right _ _, .inl rfl⟩
      · rw [if_neg shuts]
        exact ⟨.waits _ entries _ (Nat.le_of_not_lt shuts), Nat.le_refl _, Nat.le_add_right _ _, .inl rfl⟩
  · rename_i i rest count here
    obtain ⟨same, sig, threads, next⟩ := visit_sizes w i rest count
    rw [here, sig, threads]
    refine ⟨?_, same.ge, same.le.trans (Nat.le_add_right _ _), .inl rfl⟩
    rcases next with ⟨count', isNext⟩ | ⟨count', isNext, zero⟩
    · rw [isNext]
      exact .visits i rest count count' _
    · rw [isNext, zero]
      exact .restarts i rest count count'
  · rename_i i rest count here
    obtain ⟨same, sig, isNext, threads⟩ := start_sizes w i rest count
    rw [sig, isNext, here]
    exact ⟨.starts i rest count _, same.ge, same.le.trans (Nat.le_add_right _ _), .inr ⟨⟨i, rest, count, rfl, rfl⟩, threads⟩⟩
  · rename_i count here
    rw [here]
    split
    · exact ⟨.throws count _, Nat.le_refl _, Nat.le_add_right _ _, .inl rfl⟩
    · exact ⟨.visited count _, Nat.le_refl _, Nat.le_add_right _ _, .inl rfl⟩
  · rename_i count here
    rw [here]
    have length : (w.sthreads ++ (found.added.map listedThread).reverse).length = w.sthreads.length + found.added.length := by
      rw [List.length_append, List.length_reverse, List.length_map]
    exact ⟨.rereads count _, length ▸ Nat.le_add_right _ _, length.le, .inl rfl⟩
  · rename_i count here
    split
    · rename_i ends
      rw [here, ends.2.2]
      exact ⟨.ends _ ends.1, Nat.le_refl _, Nat.le_add_right _ _, .inl rfl⟩
    · rw [here]
      exact ⟨.again count _, Nat.le_refl _, Nat.le_add_right _ _, .inl rfl⟩
  · rename_i clean here
    exact ⟨.rests _ (by rw [here]; rfl) _, Nat.le_refl _, Nat.le_add_right _ _, .inl rfl⟩
  · rename_i here
    exact ⟨.rests _ (by rw [here]; rfl) _, Nat.le_refl _, Nat.le_add_right _ _, .inl rfl⟩
  · rename_i here
    exact ⟨.rests _ (by rw [here]; rfl) _, Nat.le_refl _, Nat.le_add_right _ _, .inl rfl⟩

def pending : LoopPhase → Nat
  | .starting _ _ _ => 1
  | _ => 0

theorem exits_ended (phase : LoopPhase) (exits : phase = .crashed ∨ phase = .threw) : phase.ended = true := by
  rcases exits with rfl | rfl
  · rfl
  · rfl

theorem step_shuts (w : Supervisor) (event : LoopEvent) (shuts : 0 < w.shutdownSig) : 0 < (w.step event).shutdownSig ∧
    (w.step event).threads.length + pending (w.step event).phase ≤ w.threads.length + pending w.phase := by
  by_cases exits : w.phase = .crashed ∨ w.phase = .threw
  · rw [Supervisor.step.eq_def, if_pos exits]
    exact ⟨shuts, Nat.le_refl _⟩
  rw [step_running w event exits]
  cases event with
  | sigterm => exact ⟨Nat.one_pos, Nat.le_refl _⟩
  | sigint =>
      dsimp only
      rw [if_neg (by omega)]
      exact ⟨shuts, Nat.le_refl _⟩
  | watchdog found =>
      dsimp only
      obtain ⟨ticks, -, -, threads⟩ := watchdog_ticks _ w (Nat.le_refl _) found
      generalize w.watchdog found = next at ticks threads
      have quiet : 0 < next.shutdownSig ∧ (pending next.phase = 0 ∨ next.phase = w.phase) := by
        generalize next.phase = phase', next.shutdownSig = sig', w.phase = phase, w.shutdownSig = sig at ticks shuts
        cases ticks with
        | restarts i rest count count' => exact absurd shuts (Nat.lt_irrefl 0)
        | rests phase ended sig => exact ⟨shuts, .inr rfl⟩
        | shuts rest length => exact ⟨by omega, .inl rfl⟩
        | counts rest length sig shutting below => exact ⟨Nat.succ_pos _, .inl rfl⟩
        | passes sig other => exact ⟨shuts, .inl rfl⟩
        | closes i rest sig => exact ⟨shuts, .inl rfl⟩
        | closed sig => exact ⟨shuts, .inl rfl⟩
        | breaks sig late => exact ⟨shuts, .inl rfl⟩
        | waits rest length sig before => exact ⟨shuts, .inl rfl⟩
        | visits i rest count count' sig => exact ⟨shuts, .inl rfl⟩
        | starts i rest count sig => exact ⟨shuts, .inl rfl⟩
        | throws count sig => exact ⟨shuts, .inl rfl⟩
        | visited count sig => exact ⟨shuts, .inl rfl⟩
        | rereads count sig => exact ⟨shuts, .inl rfl⟩
        | ends sig shutting => exact ⟨shuts, .inl rfl⟩
        | again count sig => exact ⟨shuts, .inl rfl⟩
      refine ⟨quiet.1, ?_⟩
      rcases threads with same | ⟨⟨i, rest, count, here, there⟩, more⟩
      · rw [same]
        rcases quiet.2 with none | stays
        · rw [none]
          omega
        · rw [stays]
      · rw [here, there]
        exact more
  | listener t fails =>
      dsimp only
      obtain ⟨-, sig, threads, phase⟩ := listener_sizes w t fails
      rw [sig, threads]
      refine ⟨shuts, ?_⟩
      rcases phase with same | ended
      · rw [same]
      · rw [ended]
        exact Nat.add_le_add_left (Nat.zero_le _) _

theorem run_shuts (events : List LoopEvent) (w : Supervisor) (shuts : 0 < w.shutdownSig) : 0 < (w.run events).shutdownSig ∧
    (w.run events).threads.length + pending (w.run events).phase ≤ w.threads.length + pending w.phase := by
  induction events generalizing w with
  | nil => exact ⟨shuts, Nat.le_refl _⟩
  | cons event rest ih =>
      obtain ⟨still, fewer⟩ := step_shuts w event shuts
      obtain ⟨after, fewest⟩ := ih (w.step event) still
      exact ⟨after, fewest.trans fewer⟩

theorem step_ended (w : Supervisor) (event : LoopEvent) (ended : w.phase.ended = true) : (w.step event).phase.ended = true := by
  by_cases exits : w.phase = .crashed ∨ w.phase = .threw
  · rw [Supervisor.step.eq_def, if_pos exits]
    exact ended
  rw [step_running w event exits]
  cases event with
  | sigterm => exact ended
  | sigint =>
      dsimp only
      split
      · exact ended
      · exact ended
  | watchdog found =>
      have ticks := (watchdog_ticks _ w (Nat.le_refl _) found).1
      dsimp only
      generalize w.phase = phase, w.shutdownSig = sig, (w.watchdog found).phase = phase', (w.watchdog found).shutdownSig = sig' at ticks ended
      cases ticks with
      | rests phase ended sig => exact ended
      | throws count sig => rfl
      | ends sig shuts => rfl
      | breaks sig late => rfl
      | _ => cases ended
  | listener t fails =>
      dsimp only
      obtain ⟨-, -, -, phase⟩ := listener_sizes w t fails
      rcases phase with same | ends
      · rw [same]
        exact ended
      · rw [ends]
        rfl

theorem run_ended (events : List LoopEvent) (w : Supervisor) (ended : w.phase.ended = true) : (w.run events).phase.ended = true := by
  induction events generalizing w with
  | nil => exact ended
  | cons event rest ih => exact ih (w.step event) (step_ended w event ended)

def LoopEvent.added : LoopEvent → Nat
  | .watchdog found => found.added.length
  | _ => 0

theorem step_longer (w : Supervisor) (event : LoopEvent) :
    w.sthreads.length ≤ (w.step event).sthreads.length ∧ (w.step event).sthreads.length ≤ w.sthreads.length + event.added := by
  by_cases exits : w.phase = .crashed ∨ w.phase = .threw
  · rw [Supervisor.step.eq_def, if_pos exits]
    exact ⟨Nat.le_refl _, Nat.le_add_right _ _⟩
  rw [step_running w event exits]
  cases event with
  | sigterm => exact ⟨Nat.le_refl _, Nat.le_refl _⟩
  | sigint =>
      dsimp only
      split
      · exact ⟨Nat.le_refl _, Nat.le_refl _⟩
      · exact ⟨Nat.le_refl _, Nat.le_refl _⟩
  | watchdog found =>
      obtain ⟨-, least, most, -⟩ := watchdog_ticks _ w (Nat.le_refl _) found
      exact ⟨least, most⟩
  | listener t fails =>
      have same := (listener_sizes w t fails).1
      exact ⟨same.ge, same.le⟩

theorem run_longer (events : List LoopEvent) (w : Supervisor) :
    w.sthreads.length ≤ (w.run events).sthreads.length ∧
      (w.run events).sthreads.length ≤ w.sthreads.length + (events.map LoopEvent.added).sum := by
  induction events generalizing w with
  | nil => exact ⟨Nat.le_refl _, Nat.le_refl _⟩
  | cons event rest ih =>
      obtain ⟨least, most⟩ := step_longer w event
      obtain ⟨later, after⟩ := ih (w.step event)
      rw [List.map_cons, List.sum_cons]
      exact ⟨least.trans later, by change ((w.step event).run rest).sthreads.length ≤ _; omega⟩

theorem step_paced (n : Nat) (w : Supervisor) (length : w.sthreads.length ≤ n) (event : LoopEvent)
    (paced : Paced n w.shutdownSig w.phase) : Paced n (w.step event).shutdownSig (w.step event).phase := by
  by_cases exits : w.phase = .crashed ∨ w.phase = .threw
  · rw [Supervisor.step.eq_def, if_pos exits]
    exact paced
  rw [step_running w event exits]
  cases event with
  | sigterm => exact ⟨(show 1 ≤ 100 by decide), paced.2⟩
  | sigint =>
      dsimp only
      split
      · exact ⟨(show 1 ≤ 100 by decide), paced.2⟩
      · exact paced
  | watchdog found => exact ticks_paced n _ _ _ _ (watchdog_ticks n w length found).1 paced
  | listener t fails =>
      dsimp only
      obtain ⟨-, sig, -, phase⟩ := listener_sizes w t fails
      refine ⟨sig ▸ paced.1, ?_⟩
      rcases phase with stays | ends
      · rw [stays]
        exact paced.2
      · rw [ends]
        exact Nat.zero_le _

theorem run_paced (n : Nat) (events : List LoopEvent) (w : Supervisor) (length : (w.run events).sthreads.length ≤ n)
    (paced : Paced n w.shutdownSig w.phase) : Paced n (w.run events).shutdownSig (w.run events).phase := by
  induction events generalizing w with
  | nil => exact paced
  | cons event rest ih =>
      have now : w.sthreads.length ≤ n := (run_longer (event :: rest) w).1.trans length
      exact ih (w.step event) length (step_paced n w now event paced)

theorem step_fewer (n : Nat) (w : Supervisor) (length : w.sthreads.length ≤ n) (event : LoopEvent)
    (paced : Paced n w.shutdownSig w.phase) (shuts : 0 < w.shutdownSig) (runs : (w.step event).phase.ended = false)
    (again : event ≠ .sigterm) :
    remaining n (w.step event).shutdownSig (w.step event).phase + (if event.isWatchdog then 1 else 0) ≤ remaining n w.shutdownSig w.phase := by
  have running : w.phase.ended = false := by
    by_contra ended
    rw [step_ended w event (Bool.eq_true_of_not_eq_false ended)] at runs
    cases runs
  have stays : ¬ (w.phase = .crashed ∨ w.phase = .threw) := fun exits =>
    Bool.false_ne_true (running.symm.trans (exits_ended w.phase exits))
  rw [step_running w event stays] at runs ⊢
  cases event with
  | sigterm => exact absurd rfl again
  | sigint =>
      dsimp only
      rw [if_neg (by omega)]
      exact Nat.le_refl _
  | watchdog found =>
      exact (ticks_fewer n _ _ _ _ (watchdog_ticks n w length found).1 paced shuts running).2
  | listener t fails =>
      dsimp only at runs ⊢
      obtain ⟨-, sig, -, phase⟩ := listener_sizes w t fails
      rcases phase with stays | ends
      · rw [stays, sig]
        exact Nat.le_refl _
      · rw [ends] at runs
        cases runs

theorem run_fewer (n : Nat) (events : List LoopEvent) (w : Supervisor) (length : (w.run events).sthreads.length ≤ n)
    (paced : Paced n w.shutdownSig w.phase) (shuts : 0 < w.shutdownSig) (again : .sigterm ∉ events)
    (runs : (w.run events).phase.ended = false) :
    remaining n (w.run events).shutdownSig (w.run events).phase + events.countP (·.isWatchdog) ≤ remaining n w.shutdownSig w.phase := by
  induction events generalizing w with
  | nil => exact Nat.le_refl _
  | cons event rest ih =>
      have now : w.sthreads.length ≤ n := (run_longer (event :: rest) w).1.trans length
      have later := ih (w.step event) length (step_paced n w now event paced) (step_shuts w event shuts).1
        (fun member => again (List.mem_cons_of_mem _ member)) runs
      have stays : (w.step event).phase.ended = false := by
        by_contra ended
        have ends := run_ended rest (w.step event) (Bool.eq_true_of_not_eq_false ended)
        exact Bool.false_ne_true (runs.symm.trans ends)
      have here := step_fewer n w now event paced shuts stays fun same => again (same ▸ List.mem_cons_self)
      rw [List.countP_cons]
      change remaining n ((w.step event).run rest).shutdownSig ((w.step event).run rest).phase + _ ≤ _
      omega

structure Serves (w : Supervisor) : Prop where
  sockets : ∀ (t : Nat) loop, w.threads[t]? = some loop → ∃ loopstp, w.sthreads[loop.entry]? = some loopstp ∧ loopstp.listenSocket = true
  open' : ∀ rest, w.phase ≠ .closing rest
  runs : w.phase.ended = true → w.phase = .threw

theorem serves_same (w next : Supervisor) (serves : Serves w)
    (threads : ∀ (t : Nat) loop', next.threads[t]? = some loop' → ∃ loop, w.threads[t]? = some loop ∧ loop'.entry = loop.entry)
    (sockets : ∀ (i : Nat) loopstp, w.sthreads[i]? = some loopstp → ∃ loopstp', next.sthreads[i]? = some loopstp' ∧
      loopstp'.listenSocket = loopstp.listenSocket)
    (phase : (∀ rest, next.phase ≠ .closing rest) ∧ (next.phase.ended = true → next.phase = .threw)) : Serves next := by
  refine ⟨fun t loop' isLoop => ?_, phase.1, phase.2⟩
  obtain ⟨loop, old, entry⟩ := threads t loop' isLoop
  obtain ⟨loopstp, isEntry, opened⟩ := serves.sockets t loop old
  obtain ⟨loopstp', isEntry', same⟩ := sockets loop.entry loopstp isEntry
  exact ⟨loopstp', entry ▸ isEntry', same.trans opened⟩

theorem entry_sockets (w : Supervisor) (i : Nat) (td : Option Td) (j : Nat) (loopstp : ListedThread) (isEntry : w.sthreads[j]? = some loopstp) :
    ∃ loopstp', (w.entry i fun loopstp => { loopstp with td := td }).sthreads[j]? = some loopstp' ∧
      loopstp'.listenSocket = loopstp.listenSocket := by
  rw [entry_at]
  split
  · rw [isEntry]
    exact ⟨_, rfl, rfl⟩
  · exact ⟨loopstp, isEntry, rfl⟩

theorem serves_thread (w : Supervisor) (serves : Serves w) (t : Nat) (change : ListenThread → ListenThread)
    (entry : ∀ loop, (change loop).entry = loop.entry) : Serves (w.thread t change) := by
  refine serves_same w _ serves (fun other loop' isLoop => ?_) (fun _ loopstp isEntry => ⟨loopstp, isEntry, rfl⟩) ⟨serves.open', serves.runs⟩
  rw [thread_at] at isLoop
  split at isLoop
  · obtain ⟨loop, old, rfl⟩ := Option.map_eq_some_iff.mp isLoop
    exact ⟨loop, old, entry loop⟩
  · exact ⟨loop', isLoop, rfl⟩

theorem serves_listener (w : Supervisor) (serves : Serves w) (t : Nat) (fails : Bool) : Serves (w.listener t fails) := by
  rw [Supervisor.listener]
  cases isLoop : w.threads[t]? with
  | none => exact serves
  | some loop =>
      dsimp only
      have next (phase : ListenPhase) : Serves (w.thread t fun loop => { loop with phase := phase }) :=
        serves_thread w serves t _ fun _ => rfl
      split
      · exact serves_same _ _ (next .enters) (fun _ loop' same => ⟨loop', same, rfl⟩) (entry_sockets _ loop.entry (some (.listen t)))
          ⟨serves.open', serves.runs⟩
      · exact serves_thread w serves t _ fun _ => rfl
      · split
        · exact next .accepts
        · exact next .leaves
      · split
        · exact next .waits
        · rename_i closed
          obtain ⟨loopstp, isEntry, opened⟩ := serves.sockets t loop isLoop
          rw [isEntry] at closed
          exact absurd opened closed
      · split
        · exact next .leaves
        · exact next .tests
      · exact serves_thread w serves t _ fun _ => rfl
      · exact serves_thread w serves t _ fun _ => rfl
      · exact serves

theorem serves_watchdog (w : Supervisor) (serves : Serves w) (quiet : w.shutdownSig = 0) (found : Findings) :
    Serves (w.watchdog found) := by
  have goes (next : Supervisor) (threads : next.threads = w.threads) (sthreads : next.sthreads = w.sthreads)
      (opens : ∀ rest, next.phase ≠ .closing rest) (runs : next.phase.ended = true → next.phase = .threw) : Serves next :=
    serves_same w next serves (fun _ loop same => ⟨loop, threads ▸ same, rfl⟩) (fun _ loopstp same => ⟨loopstp, sthreads ▸ same, rfl⟩)
      ⟨opens, runs⟩
  rw [Supervisor.watchdog]
  split
  · rw [if_neg (by omega)]
    exact goes _ rfl rfl (fun _ same => by cases same) fun ended => absurd ended Bool.false_ne_true
  · rename_i i rest here
    exact absurd here (serves.open' _)
  · rename_i here
    exact absurd here (serves.open' _)
  · rw [if_neg (by omega), if_neg (by omega)]
    exact goes _ rfl rfl (fun _ same => by cases same) fun ended => absurd ended Bool.false_ne_true
  · rename_i i rest count here
    rw [Supervisor.visit]
    split
    · exact goes _ rfl rfl (fun _ same => by cases same) fun ended => absurd ended Bool.false_ne_true
    · refine serves_same w _ serves (fun _ loop same => ⟨loop, same, rfl⟩) (entry_sockets w i _) ?_
      dsimp only [Supervisor.goes]
      split
      · exact ⟨fun _ same => (by cases same), fun ended => absurd ended Bool.false_ne_true⟩
      · exact ⟨fun _ same => (by cases same), fun ended => absurd ended Bool.false_ne_true⟩
  · rename_i i rest count here
    rw [Supervisor.start]
    split
    · rename_i opened
      refine ⟨fun t loop isLoop => ?_, fun _ same => (by cases same), fun ended => absurd ended Bool.false_ne_true⟩
      have sockets := entry_sockets w i (some (.target w.threads.length))
      rcases Nat.lt_trichotomy t w.threads.length with old | new | beyond
      · rw [List.getElem?_append_left old] at isLoop
        obtain ⟨loopstp, isEntry, socket⟩ := serves.sockets t loop isLoop
        obtain ⟨loopstp', isEntry', same⟩ := sockets loop.entry loopstp isEntry
        exact ⟨loopstp', isEntry', same.trans socket⟩
      · rw [new, List.getElem?_concat_length] at isLoop
        cases isLoop
        cases isEntry : w.sthreads[i]? with
        | none =>
            rw [isEntry] at opened
            cases opened
        | some loopstp =>
            rw [isEntry] at opened
            obtain ⟨loopstp', isEntry', same⟩ := sockets i loopstp isEntry
            exact ⟨loopstp', isEntry', same.trans opened⟩
      · rw [List.getElem?_eq_none (by rw [List.length_append, List.length_singleton]; omega)] at isLoop
        cases isLoop
    · exact goes _ rfl rfl (fun _ same => by cases same) fun ended => absurd ended Bool.false_ne_true
  · split
    · exact goes _ rfl rfl (fun _ same => by cases same) fun _ => rfl
    · exact goes _ rfl rfl (fun _ same => by cases same) fun ended => absurd ended Bool.false_ne_true
  · refine serves_same w _ serves (fun _ loop same => ⟨loop, same, rfl⟩) (fun i loopstp isEntry => ⟨loopstp, ?_, rfl⟩)
      ⟨fun _ same => (by cases same), fun ended => absurd ended Bool.false_ne_true⟩
    show (w.sthreads ++ _)[i]? = _
    rw [List.getElem?_append_left (List.getElem?_eq_some_iff.mp isEntry).1]
    exact isEntry
  · rw [if_neg (by omega)]
    exact goes _ rfl rfl (fun _ same => by cases same) fun ended => absurd ended Bool.false_ne_true
  · exact serves
  · exact serves
  · exact serves

theorem step_serves (w : Supervisor) (serves : w.shutdownSig = 0 → Serves w) (event : LoopEvent) (quiet : (w.step event).shutdownSig = 0) :
    Serves (w.step event) := by
  have before : w.shutdownSig = 0 := by
    by_contra shuts
    have after := (step_shuts w event (Nat.pos_of_ne_zero shuts)).1
    omega
  have now := serves before
  by_cases exits : w.phase = .crashed ∨ w.phase = .threw
  · rw [Supervisor.step.eq_def, if_pos exits]
    exact now
  rw [step_running w event exits] at quiet ⊢
  cases event with
  | sigterm => cases quiet
  | sigint =>
      dsimp only at quiet ⊢
      rw [if_pos before] at quiet
      cases quiet
  | watchdog found => exact serves_watchdog w now before found
  | listener t fails => exact serves_listener w now t fails

theorem run_serves (events : List LoopEvent) (w : Supervisor) (serves : w.shutdownSig = 0 → Serves w)
    (quiet : (w.run events).shutdownSig = 0) : Serves (w.run events) := by
  induction events generalizing w with
  | nil => exact serves quiet
  | cons event rest ih => exact ih (w.step event) (step_serves w serves event) quiet

theorem step_throws (w : Supervisor) (event : LoopEvent) (throws : (w.step event).phase = .threw) :
    w.phase = .threw ∨ ∃ found, event = .watchdog found ∧ found.throws = true := by
  by_cases exits : w.phase = .crashed ∨ w.phase = .threw
  · rw [Supervisor.step.eq_def, if_pos exits] at throws
    exact .inl throws
  rw [step_running w event exits] at throws
  cases event with
  | sigterm => exact .inl throws
  | sigint =>
      dsimp only at throws
      split at throws
      · exact .inl throws
      · exact .inl throws
  | watchdog found =>
      have ticks := (watchdog_ticks _ w (Nat.le_refl _) found).1
      dsimp only at throws
      rw [throws] at ticks
      generalize isPhase : w.phase = phase, w.shutdownSig = sig, (w.watchdog found).shutdownSig = sig' at ticks
      cases ticks with
      | rests phase ended sig => exact .inl rfl
      | throws count sig =>
          rw [Supervisor.watchdog, isPhase] at throws
          dsimp only at throws
          split at throws
          · rename_i both
            rw [Bool.and_eq_true] at both
            exact .inr ⟨found, rfl, both.2⟩
          · cases throws
  | listener t fails =>
      dsimp only at throws
      obtain ⟨-, -, -, phase⟩ := listener_sizes w t fails
      rcases phase with same | ends
      · exact .inl (same.symm.trans throws)
      · rw [ends] at throws
        cases throws

theorem run_throws (events : List LoopEvent) (w : Supervisor) (throws : (w.run events).phase = .threw) :
    w.phase = .threw ∨ ∃ found, .watchdog found ∈ events ∧ found.throws = true := by
  induction events generalizing w with
  | nil => exact .inl throws
  | cons event rest ih =>
      rcases ih (w.step event) throws with now | ⟨found, member, thrown⟩
      · rcases step_throws w event now with before | ⟨found, rfl, thrown⟩
        · exact .inl before
        · exact .inr ⟨found, List.mem_cons_self, thrown⟩
      · exact .inr ⟨found, List.mem_cons_of_mem _ member, thrown⟩

-- The watchdog serves until a shutdown is asked for, or WriteTLog throws. From then on it
-- decides on no other listen thread, and once it is not asked again it ends within so many of
-- its own steps.
theorem shutdown_completes (config : ServerConfig) (before : List LoopEvent) :
    (((newSupervisor config).run before).shutdownSig = 0 → ((newSupervisor config).run before).phase.ended = true →
      ((newSupervisor config).run before).phase = .threw ∧ ∃ found, .watchdog found ∈ before ∧ found.throws = true) ∧
    (((newSupervisor config).run before).shutdownSig ≠ 0 → ∀ after,
      (((newSupervisor config).run before).run after).shutdownSig ≠ 0 ∧
      (((newSupervisor config).run before).run after).threads.length ≤
        ((newSupervisor config).run before).threads.length + pending ((newSupervisor config).run before).phase ∧
      (.sigterm ∉ after →
        102 * (3 * (((newSupervisor config).run before).run after).sthreads.length + 7) ≤ after.countP (·.isWatchdog) →
        (((newSupervisor config).run before).run after).phase.ended = true)) := by
  have opens : Serves (newSupervisor config) :=
    ⟨fun t loop isLoop => by simp [newSupervisor] at isLoop, fun _ same => (by cases same), fun ended => absurd ended Bool.false_ne_true⟩
  refine ⟨fun quiet ended => ?_, fun shuts after => ?_⟩
  · have threw := (run_serves before _ (fun _ => opens) quiet).runs ended
    exact ⟨threw, (run_throws before _ threw).resolve_left fun same => by cases same⟩
  · have longer := (run_longer after ((newSupervisor config).run before)).1
    have paced := run_paced _ before (newSupervisor config) longer ⟨Nat.zero_le _, Nat.le_refl _⟩
    generalize (newSupervisor config).run before = w at shuts longer paced ⊢
    have positive := Nat.pos_of_ne_zero shuts
    obtain ⟨still, fewer⟩ := run_shuts after w positive
    refine ⟨Nat.pos_iff_ne_zero.mp still, le_trans (Nat.le_add_right _ _) fewer, fun again long => ?_⟩
    by_contra runs
    have fewest := run_fewer _ after w (Nat.le_refl _) paced positive again (Bool.eq_false_of_not_eq_true runs)
    have bound := remaining_bound _ _ _ paced
    omega

-- Two listen threads when SIGTERM arrives; the one that waits in Accept fails, the other has not begun.
def closingDown : List LoopEvent :=
  [.listener 0 false, .listener 0 false, .listener 0 true, .listener 0 false, .listener 0 false] ++
    List.replicate 1326 (.watchdog nothingFound)

theorem closing_down_events : .sigterm ∉ closingDown ∧ (closingDown.map LoopEvent.added).sum = 0 ∧
    closingDown.countP (·.isWatchdog) = 1326 := by
  refine ⟨?_, ?_, ?_⟩
  · rw [closingDown, List.mem_append, List.mem_replicate, not_or]
    exact ⟨by simp, by simp⟩
  · rw [closingDown, List.map_append, List.map_replicate, List.sum_append_nat, List.sum_replicate_nat]
    rfl
  · rw [closingDown, List.countP_append, List.countP_replicate]
    rfl

theorem shutdown_completes_two_ports : (((newSupervisor onePort).run (portAdded ++ [.sigterm])).run closingDown).phase.ended = true := by
  obtain ⟨once, unread, steps⟩ := closing_down_events
  have asked : ((newSupervisor onePort).run (portAdded ++ [.sigterm])).shutdownSig ≠ 0 := by decide +kernel
  have two : ((newSupervisor onePort).run (portAdded ++ [.sigterm])).sthreads.length = 2 := by decide +kernel
  generalize closingDown = events at once unread steps ⊢
  have most := (run_longer events ((newSupervisor onePort).run (portAdded ++ [.sigterm]))).2
  refine ((shutdown_completes onePort (portAdded ++ [.sigterm])).2 asked events).2.2 once ?_
  rw [steps]
  omega

end RingServer.Program
