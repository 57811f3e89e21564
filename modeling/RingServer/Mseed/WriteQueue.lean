import Mathlib.Data.List.Perm.Basic
import RingServer.Mseed.MseedArchive

set_option autoImplicit false

namespace RingServer.MseedArchive

-- A call of FlushPendingWrites that is under way: first it takes records from the
-- queue, then it writes its batch.
structure Flush where
  draining : Bool
  batch : List MseedRecord

structure WriteQueue where
  pendingWrites : List MseedRecord
  flushes : List Flush
  stationCache : List Text
  rows : List Row
  disposed : Bool

def newQueue : WriteQueue := ⟨[], [], [], [], false⟩

-- A flush may begin at any time: for the size of the batch, by the timer, or when the
-- archive is disposed.
inductive Event where
  | enqueue (record : MseedRecord)
  | flush
  | dequeue (i : Nat)
  | drained (i : Nat)
  | write (i : Nat) (outcomes : Outcomes)
  | dispose

section

variable (stationOf : Text → Int64)

-- The writes of FlushRecords count when they are committed; its exceptions are logged
-- and the batch is gone.
def step (queue : WriteQueue) : Event → Option WriteQueue
  | .enqueue record =>
      if queue.disposed then some queue else some { queue with pendingWrites := queue.pendingWrites ++ [record] }
  | .flush => if queue.pendingWrites.isEmpty then some queue else some { queue with flushes := queue.flushes ++ [⟨true, []⟩] }
  | .dequeue i =>
      match queue.flushes[i]?, queue.pendingWrites with
      | some ⟨true, batch⟩, record :: rest =>
          some { queue with flushes := queue.flushes.set i ⟨true, batch ++ [record]⟩, pendingWrites := rest }
      | _, _ => none
  | .drained i =>
      match queue.flushes[i]?, queue.pendingWrites with
      | some ⟨true, batch⟩, [] => some { queue with flushes := queue.flushes.set i ⟨false, batch⟩ }
      | _, _ => none
  | .write i outcomes =>
      match queue.flushes[i]? with
      | some ⟨false, batch⟩ =>
          if batch.isEmpty then some { queue with flushes := queue.flushes.eraseIdx i }
          else
            let (stationCache, committed) := flushRecords stationOf outcomes queue.stationCache batch
            some { queue with
              flushes := queue.flushes.eraseIdx i, stationCache := stationCache, rows := queue.rows ++ committed.getD [] }
      | _ => none
  | .dispose => some { queue with disposed := true }

def run : WriteQueue → List Event → Option WriteQueue
  | queue, [] => some queue
  | queue, event :: rest => (step stationOf queue event).bind fun next => run next rest

def takes (disposed : Bool) : Event → List MseedRecord
  | .enqueue record => if disposed then [] else [record]
  | _ => []

def disposes (disposed : Bool) : Event → Bool
  | .dispose => true
  | _ => disposed

def enqueued : Bool → List Event → List MseedRecord
  | _, [] => []
  | disposed, event :: rest => takes disposed event ++ enqueued (disposes disposed event) rest

def WriteQueue.held (queue : WriteQueue) : List MseedRecord := queue.flushes.flatMap (·.batch) ++ queue.pendingWrites

def drops (queue : WriteQueue) : Event → List MseedRecord
  | .write i outcomes =>
      match queue.flushes[i]? with
      | some ⟨false, batch⟩ => if (flushRecords stationOf outcomes queue.stationCache batch).2.isNone then batch else []
      | _ => []
  | _ => []

def dropped : WriteQueue → List Event → List MseedRecord
  | _, [] => []
  | queue, event :: rest => drops stationOf queue event ++ ((step stationOf queue event).elim [] fun next => dropped next rest)

def Accounted (records lost : List MseedRecord) (queue : WriteQueue) : Prop :=
  List.Perm (records.map (rowOf stationOf)) (queue.rows ++ (queue.held ++ lost).map (rowOf stationOf))

def Meets (queue : WriteQueue) : Event → Prop
  | .write i outcomes => ∀ batch, queue.flushes[i]? = some ⟨false, batch⟩ → batch = [] ∨ Accepts outcomes queue.stationCache batch
  | _ => True

def AllMeet : WriteQueue → List Event → Prop
  | _, [] => True
  | queue, event :: rest => Meets queue event ∧ ∀ next, step stationOf queue event = some next → AllMeet next rest

structure Loses (queue : WriteQueue) (event : Event) (next : WriteQueue) : Prop where
  meets : Meets queue event ↔ drops stationOf queue event = []
  rows : ∀ row, (queue.rows ++ queue.held.map (rowOf stationOf)).count row +
      ((takes queue.disposed event).map (rowOf stationOf)).count row =
    (next.rows ++ next.held.map (rowOf stationOf)).count row + ((drops stationOf queue event).map (rowOf stationOf)).count row

theorem held_set (queue : WriteQueue) (i : Nat) (flush changed : Flush) (isFlush : queue.flushes[i]? = some flush) :
    List.Perm (queue.flushes.flatMap (·.batch)) (flush.batch ++ (queue.flushes.eraseIdx i).flatMap (·.batch)) ∧
      List.Perm ((queue.flushes.set i changed).flatMap (·.batch)) (changed.batch ++ (queue.flushes.eraseIdx i).flatMap (·.batch)) := by
  obtain ⟨inside, isEntry⟩ := List.getElem?_eq_some_iff.mp isFlush
  have old := (List.getElem_cons_eraseIdx_perm inside).symm.flatMap_right (·.batch)
  have new := (List.set_perm_cons_eraseIdx inside changed).flatMap_right (·.batch)
  rw [isEntry, List.flatMap_cons] at old
  rw [List.flatMap_cons] at new
  exact ⟨old, new⟩

theorem held_rows (queue : WriteQueue) (row : Row) :
    (queue.rows ++ queue.held.map (rowOf stationOf)).count row =
      queue.rows.count row + ((queue.flushes.flatMap (·.batch)).map (rowOf stationOf)).count row +
        (queue.pendingWrites.map (rowOf stationOf)).count row := by
  rw [WriteQueue.held, List.map_append, List.count_append, List.count_append, Nat.add_assoc]

theorem batch_rows (batch rest : List MseedRecord) (flushes : List Flush) (row : Row)
    (perm : List.Perm (flushes.flatMap (·.batch)) (batch ++ rest)) :
    ((flushes.flatMap (·.batch)).map (rowOf stationOf)).count row =
      (batch.map (rowOf stationOf)).count row + (rest.map (rowOf stationOf)).count row := by
  rw [(perm.map _).count_eq, List.map_append, List.count_append]

theorem enqueue_loses (queue next : WriteQueue) (record : MseedRecord) (stepped : step stationOf queue (.enqueue record) = some next) :
    Loses stationOf queue (.enqueue record) next := by
  refine ⟨iff_of_true trivial rfl, fun row => ?_⟩
  rw [step] at stepped
  by_cases disposed : queue.disposed = true
  · rw [if_pos disposed] at stepped
    obtain rfl := Option.some.inj stepped
    have taken : takes queue.disposed (.enqueue record) = [] := if_pos disposed
    rw [taken]
    rfl
  · rw [if_neg disposed] at stepped
    obtain rfl := Option.some.inj stepped
    have taken : takes queue.disposed (.enqueue record) = [record] := if_neg disposed
    have before := held_rows stationOf queue row
    have after := held_rows stationOf { queue with pendingWrites := queue.pendingWrites ++ [record] } row
    have pending : ((queue.pendingWrites ++ [record]).map (rowOf stationOf)).count row =
        (queue.pendingWrites.map (rowOf stationOf)).count row + ([record].map (rowOf stationOf)).count row := by
      rw [List.map_append, List.count_append]
    have nothing : ((drops stationOf queue (.enqueue record)).map (rowOf stationOf)).count row = 0 := rfl
    dsimp only at after ⊢
    rw [taken]
    omega

theorem flush_loses (queue next : WriteQueue) (stepped : step stationOf queue .flush = some next) :
    Loses stationOf queue .flush next := by
  refine ⟨iff_of_true trivial rfl, fun row => ?_⟩
  rw [step] at stepped
  by_cases empty : queue.pendingWrites.isEmpty = true
  · rw [if_pos empty] at stepped
    obtain rfl := Option.some.inj stepped
    rfl
  · rw [if_neg empty] at stepped
    obtain rfl := Option.some.inj stepped
    rw [held_rows, held_rows, List.flatMap_append, List.flatMap_singleton, List.append_nil]
    rfl

theorem dequeue_loses (queue next : WriteQueue) (i : Nat) (stepped : step stationOf queue (.dequeue i) = some next) :
    Loses stationOf queue (.dequeue i) next := by
  refine ⟨iff_of_true trivial rfl, fun row => ?_⟩
  rw [step] at stepped
  split at stepped
  · rename_i batch record rest isFlush isPending
    obtain rfl := Option.some.inj stepped
    obtain ⟨old, new⟩ := held_set queue i ⟨true, batch⟩ ⟨true, batch ++ [record]⟩ isFlush
    have nothing : takes queue.disposed (.dequeue i) = [] ∧ drops stationOf queue (.dequeue i) = [] := ⟨rfl, rfl⟩
    rw [held_rows, held_rows, batch_rows stationOf _ _ _ row old, batch_rows stationOf _ _ _ row new, isPending, nothing.1,
      nothing.2, List.map_append, List.count_append, List.map_cons, List.map_cons, List.count_cons, List.count_cons, List.map_nil,
        List.count_nil]
    dsimp only
    omega
  · cases stepped

theorem drained_loses (queue next : WriteQueue) (i : Nat) (stepped : step stationOf queue (.drained i) = some next) :
    Loses stationOf queue (.drained i) next := by
  refine ⟨iff_of_true trivial rfl, fun row => ?_⟩
  rw [step] at stepped
  split at stepped
  · rename_i batch isFlush isPending
    obtain rfl := Option.some.inj stepped
    obtain ⟨old, new⟩ := held_set queue i ⟨true, batch⟩ ⟨false, batch⟩ isFlush
    rw [held_rows, held_rows, batch_rows stationOf _ _ _ row old, batch_rows stationOf _ _ _ row new]
    rfl
  · cases stepped

theorem write_loses (queue next : WriteQueue) (i : Nat) (outcomes : Outcomes)
    (stepped : step stationOf queue (.write i outcomes) = some next) : Loses stationOf queue (.write i outcomes) next := by
  rw [step] at stepped
  split at stepped
  · rename_i batch isFlush
    obtain ⟨old, _⟩ := held_set queue i ⟨false, batch⟩ ⟨false, batch⟩ isFlush
    have meets : Meets queue (.write i outcomes) ↔ batch = [] ∨ Accepts outcomes queue.stationCache batch := by
      constructor
      · exact fun all => all batch isFlush
      · intro here other isOther
        rw [isFlush] at isOther
        cases isOther
        exact here
    have isDrop : drops stationOf queue (.write i outcomes) =
        if (flushRecords stationOf outcomes queue.stationCache batch).2.isNone then batch else [] := by
      simp only [drops, isFlush]
    have nothing : takes queue.disposed (.write i outcomes) = [] := rfl
    by_cases empty : batch.isEmpty = true
    · have isNil : batch = [] := List.isEmpty_iff.mp empty
      have noDrop : drops stationOf queue (.write i outcomes) = [] := by rw [isDrop, isNil, ite_self]
      rw [if_pos empty] at stepped
      obtain rfl := Option.some.inj stepped
      refine ⟨iff_of_true (meets.mpr (Or.inl isNil)) noDrop, fun row => ?_⟩
      rw [held_rows, held_rows, batch_rows stationOf _ _ _ row old, isNil, nothing, noDrop, List.map_nil, List.count_nil]
      dsimp only
      omega
    · have notNil : batch ≠ [] := fun isNil => empty (List.isEmpty_iff.mpr isNil)
      rw [if_neg empty] at stepped
      by_cases accepts : Accepts outcomes queue.stationCache batch
      · have committed := flush_records_accepted stationOf outcomes _ batch accepts
        have noDrop : drops stationOf queue (.write i outcomes) = [] := by
          rw [isDrop, committed]
          rfl
        generalize flushRecords stationOf outcomes queue.stationCache batch = written at stepped committed
        obtain rfl := Option.some.inj stepped
        refine ⟨iff_of_true (meets.mpr (Or.inr accepts)) noDrop, fun row => ?_⟩
        rw [held_rows, held_rows, batch_rows stationOf _ _ _ row old, nothing, noDrop, committed, Option.getD_some, List.count_append,
          List.map_nil, List.count_nil]
        dsimp only
        omega
      · have committed := flush_records_refused stationOf outcomes _ batch accepts
        have isBatch : drops stationOf queue (.write i outcomes) = batch := by
          rw [isDrop, committed]
          rfl
        generalize flushRecords stationOf outcomes queue.stationCache batch = written at stepped committed
        obtain rfl := Option.some.inj stepped
        refine ⟨iff_of_false (fun here => (meets.mp here).elim notNil accepts) (fun none => notNil (isBatch.symm.trans none)),
          fun row => ?_⟩
        rw [held_rows, held_rows, batch_rows stationOf _ _ _ row old, nothing, isBatch, committed, Option.getD_none, List.append_nil,
          List.map_nil, List.count_nil]
        dsimp only
        omega
  · cases stepped

theorem step_loses (queue next : WriteQueue) (event : Event) (stepped : step stationOf queue event = some next) :
    Loses stationOf queue event next := by
  cases event with
  | enqueue record => exact enqueue_loses stationOf queue next record stepped
  | flush => exact flush_loses stationOf queue next stepped
  | dequeue i => exact dequeue_loses stationOf queue next i stepped
  | drained i => exact drained_loses stationOf queue next i stepped
  | write i outcomes => exact write_loses stationOf queue next i outcomes stepped
  | dispose =>
      obtain rfl := Option.some.inj stepped
      exact ⟨iff_of_true trivial rfl, fun row => rfl⟩

theorem step_disposed (queue next : WriteQueue) (event : Event) (stepped : step stationOf queue event = some next) :
    next.disposed = disposes queue.disposed event := by
  cases event with
  | enqueue record =>
      rw [step] at stepped
      split at stepped <;> cases stepped <;> rfl
  | flush =>
      rw [step] at stepped
      split at stepped <;> cases stepped <;> rfl
  | dequeue i =>
      rw [step] at stepped
      split at stepped
      · cases stepped
        rfl
      · cases stepped
  | drained i =>
      rw [step] at stepped
      split at stepped
      · cases stepped
        rfl
      · cases stepped
  | write i outcomes =>
      rw [step] at stepped
      split at stepped
      · split at stepped <;> cases stepped <;> rfl
      · cases stepped
  | dispose =>
      cases stepped
      rfl

theorem run_loses (queue final : WriteQueue) (events : List Event) (ran : run stationOf queue events = some final) :
    (AllMeet stationOf queue events ↔ dropped stationOf queue events = []) ∧ ∀ row,
      (queue.rows ++ queue.held.map (rowOf stationOf)).count row +
          ((enqueued queue.disposed events).map (rowOf stationOf)).count row =
        (final.rows ++ final.held.map (rowOf stationOf)).count row + ((dropped stationOf queue events).map (rowOf stationOf)).count
          row := by
  induction events generalizing queue with
  | nil =>
      obtain rfl := Option.some.inj ran
      exact ⟨iff_of_true trivial rfl, fun row => rfl⟩
  | cons event rest ih =>
      rw [run, Option.bind_eq_some_iff] at ran
      obtain ⟨next, stepped, ran⟩ := ran
      have here := step_loses stationOf queue next event stepped
      obtain ⟨all, rows⟩ := ih next ran
      have split : dropped stationOf queue (event :: rest) = drops stationOf queue event ++ dropped stationOf next rest := by
        rw [dropped, stepped]
        rfl
      refine ⟨?_, fun row => ?_⟩
      · rw [AllMeet, split, List.append_eq_nil_iff, ← all, here.meets]
        refine and_congr_right fun _ => ⟨fun each => each next stepped, fun meets other isOther => ?_⟩
        rw [stepped] at isOther
        cases isOther
        exact meets
      · have first := here.rows row
        have second := rows row
        have both : ((dropped stationOf queue (event :: rest)).map (rowOf stationOf)).count row =
            ((drops stationOf queue event).map (rowOf stationOf)).count row +
              ((dropped stationOf next rest).map (rowOf stationOf)).count row := by
          rw [split, List.map_append, List.count_append]
        have taken : ((enqueued queue.disposed (event :: rest)).map (rowOf stationOf)).count row =
            ((takes queue.disposed event).map (rowOf stationOf)).count row +
              ((enqueued (disposes queue.disposed event) rest).map (rowOf stationOf)).count row := by
          rw [enqueued, List.map_append, List.count_append]
        rw [step_disposed stationOf queue next event stepped] at second
        omega

-- No record is lost but with the whole batch of a flush that fails, and none is
-- persisted twice; nothing is lost exactly where the database refuses nothing.
theorem records_accounted (events : List Event) (final : WriteQueue) (ran : run stationOf newQueue events = some final) :
    Accounted stationOf (enqueued false events) (dropped stationOf newQueue events) final ∧
      (dropped stationOf newQueue events = [] ↔ AllMeet stationOf newQueue events) := by
  obtain ⟨all, rows⟩ := run_loses stationOf newQueue final events ran
  refine ⟨List.perm_iff_count.mpr fun row => ?_, all.symm⟩
  have whole := rows row
  have start : (newQueue.rows ++ newQueue.held.map (rowOf stationOf)).count row = 0 := rfl
  rw [start, Nat.zero_add] at whole
  rw [List.map_append, ← List.append_assoc, List.count_append]
  exact whole

end

def sampleRecord (streamId : Text) : MseedRecord := ⟨streamId, ⟨0⟩, ⟨1000000000⟩, 0, 1, [7], 1⟩

def oneStation (_ : Text) : Int64 := 1

def acceptsAll : Outcomes := ⟨fun _ => true, fun _ => true, true, fun _ => true, true⟩

-- Two flushes share the queue; the one of B is refused, and D comes after them.
def fourRecords : List Event :=
  [.enqueue (sampleRecord ['A']), .enqueue (sampleRecord ['B']), .flush, .flush, .dequeue 0, .dequeue 1, .enqueue (sampleRecord ['C']),
    .dequeue 0, .drained 0, .drained 1, .write 1 { acceptsAll with accepts := fun _ => false }, .enqueue (sampleRecord ['D']),
    .write 0 acceptsAll]

theorem records_accounted_four_records : dropped oneStation newQueue fourRecords = [sampleRecord ['B']] ∧
    Accounted oneStation [sampleRecord ['A'], sampleRecord ['B'], sampleRecord ['C'], sampleRecord ['D']]
        (dropped oneStation newQueue fourRecords)
        ⟨[sampleRecord ['D']], [], [['B'], ['A'], ['C']],
          [rowOf oneStation (sampleRecord ['A']), rowOf oneStation (sampleRecord ['C'])], false⟩ ∧
      (dropped oneStation newQueue fourRecords = [] ↔ AllMeet oneStation newQueue fourRecords) :=
  ⟨rfl, records_accounted oneStation fourRecords _ rfl⟩

-- The row of B is refused, and the record A of the batch is gone as well: no row, and
-- nothing is held.
theorem refused_row_loses_batch : ∃ final,
    run oneStation newQueue [.enqueue (sampleRecord "A".toList), .enqueue (sampleRecord "B".toList), .flush, .dequeue 0, .dequeue 0,
        .drained 0, .write 0 { acceptsAll with accepts := fun record => record.streamId = "A".toList }] = some final ∧
      final.rows = [] ∧ final.held = [] :=
  ⟨⟨[], [], ["A".toList, "B".toList], [], false⟩, rfl, rfl, rfl⟩

end RingServer.MseedArchive
