import Mathlib.Data.List.Nodup
import RingServer.Library.Paging
import RingServer.Mseed.ArchiveQuery
import RingServer.Protocols.SeedLinkReady

set_option autoImplicit false

namespace RingServer.SeedLink

open Library MseedArchive

def recordFrame (around : Surroundings) (protoMajor : Int) (record : MseedQueryResult) : List UInt8 :=
  let rawData := record.rawData.getD []
  frameHeader around protoMajor record.streamId record.pktId rawData rawData.length ++ rawData

def burst (around : Surroundings) (fuel : Nat) (ring : RingParams) : Nat → Session → List MseedQueryResult
  | 0, _ => []
  | rounds + 1, session =>
      match session.ext.dbRecords with
      | [] => []
      | record :: records =>
          if record.rawData.getD [] = [] then []
          else
            let session := dequeued session record records
            let next := if records.isEmpty then handleDbQueueExhausted around fuel ring session else some session
            record :: next.elim [] (burst around fuel ring rounds)

theorem burst_drained (around : Surroundings) (fuel : Nat) (ring : RingParams) (rounds : Nat) (session : Session)
    (empty : session.ext.dbRecords = []) : burst around fuel ring rounds session = [] := by
  cases rounds with
  | zero => rfl
  | succ rounds => rw [burst, empty]

theorem burst_stopped (around : Surroundings) (fuel : Nat) (ring : RingParams) (rounds : Nat) (session : Session)
    (record : MseedQueryResult) (records : List MseedQueryResult) (queue : session.ext.dbRecords = record :: records)
    (empty : record.rawData = some []) : burst around fuel ring rounds session = [] := by
  cases rounds with
  | zero => rfl
  | succ rounds =>
      rw [burst, queue]
      exact if_pos (congrArg (Option.getD · []) empty)

theorem burst_sent (around : Surroundings) (fuel : Nat) (ring : RingParams) (rounds : Nat) (session next : Session)
    (record : MseedQueryResult) (records : List MseedQueryResult) (queue : session.ext.dbRecords = record :: records)
    (bytes : record.rawData.getD [] ≠ [])
    (moved : (if records.isEmpty then handleDbQueueExhausted around fuel ring (dequeued session record records)
      else some (dequeued session record records)) = some next) :
    burst around fuel ring (rounds + 1) session = record :: burst around fuel ring rounds next := by
  rw [burst, queue]
  dsimp only
  rw [if_neg bytes, moved, Option.elim_some]

structure Phase where
  records : List MseedQueryResult
  sent : List (List UInt8)
  session : Session

-- StreamPackets for each turn of the client loop until no record is left. The ring may
-- change between two turns.
def archivePhase (around : Surroundings) (fuel : Nat) : List RingParams → Session → Option Phase
  | [], session => some ⟨[], [], session⟩
  | ring :: rings, session =>
      if session.ext.dbRecords.isEmpty then some ⟨[], [], session⟩
      else do
        let outcome ← streamPackets around fuel ring session
        let phase ← archivePhase around fuel rings outcome.session
        some ⟨burst around fuel ring dbBurstLimit session ++ phase.records, outcome.sent ++ phase.sent, phase.session⟩

structure SentOnce (matching records : List MseedQueryResult) : Prop where
  each : records.Perm matching
  ordered : records.Pairwise fun a b => a.startTime.value ≤ b.startTime.value

def goesOn (stop : NsTime) (record : MseedQueryResult) : Bool := record.startTime.value < stop.value

-- Where a query follows the first answer, the answer holds the rows up to its last one
-- in the order of the cursor, and no full page before the last one reaches the end
-- time. Else the answer holds all rows.
def Pageable (batch : Nat) (stop : NsTime) (matching first : List MseedQueryResult) : Prop :=
  ∀ last, first.getLast? = some last →
    if goesOn stop last then
      (∀ row ∈ matching, row ∈ first ↔ ¬ Before last row) ∧
        ∀ k, k * batch < (matching.filter (Before last)).length →
          k * batch ≤ (matching.filter fun row => Before last row && goesOn stop row).length
    else matching.length ≤ batch

section

variable (stop : NsTime) (matching : List MseedQueryResult)

structure Behind (cursor : MseedQueryResult) (rest : List MseedQueryResult) : Prop where
  rows : rest.Perm (matching.filter (Before cursor))
  ordered : rest.Pairwise Before

theorem before_start (a b : MseedQueryResult) (before : Before a b) : a.startTime.value ≤ b.startTime.value := by
  rw [Int64.le_iff_toInt_le]
  rw [before_iff] at before
  omega

theorem ordered_closed (rest : List MseedQueryResult) (ordered : rest.Pairwise Before) : Closed (goesOn stop) rest := by
  refine ordered.imp fun before goes => ?_
  rw [goesOn, decide_eq_true_iff, Int64.lt_iff_toInt_lt] at goes ⊢
  have start := Int64.le_iff_toInt_le.mp (before_start _ _ before)
  omega

theorem behind_page (batch : Nat) (cursor last : MseedQueryResult) (rest : List MseedQueryResult) (behind : Behind matching cursor rest)
    (isLast : (rest.take batch).getLast? = some last) : Behind matching last (rest.drop batch) :=
  ⟨drop_behind batch Before before_trans before_irrefl matching cursor last rest behind.rows behind.ordered isLast,
    behind.ordered.sublist (List.drop_sublist _ _)⟩

theorem behind_before (cursor : MseedQueryResult) (rest : List MseedQueryResult) (behind : Behind matching cursor rest)
    (row : MseedQueryResult) : row ∈ rest ↔ row ∈ matching ∧ Before cursor row := by
  rw [behind.rows.mem_iff, List.mem_filter, decide_eq_true_iff]

section

variable (batch : Nat) (positive : 0 < batch) (distinct : matching.Nodup) (ordered : List MseedQueryResult)
  (all : ordered.Perm matching) (sorted : ordered.Pairwise fun a b => a.startTime.value ≤ b.startTime.value)
  (last : MseedQueryResult) (isLast : (ordered.take batch).getLast? = some last) (rest : List MseedQueryResult)
  (behind : Behind matching last rest)

include sorted isLast

theorem before_last (row : MseedQueryResult) (member : row ∈ ordered.take batch) : row.startTime.value ≤ last.startTime.value := by
  obtain ⟨front, split⟩ := last_in_page batch ordered last isLast
  have pairs := sorted.sublist (List.take_sublist batch ordered)
  rw [split] at member pairs
  cases List.mem_append.mp member with
  | inl inFront => exact (List.pairwise_append.mp pairs).2.2 row inFront last (List.mem_singleton.mpr rfl)
  | inr isRow =>
      rw [List.mem_singleton.mp isRow]
      exact Int64.le_refl _

include behind

theorem sent_ordered (sent : List MseedQueryResult) (part : sent <+: rest) :
    (ordered.take batch ++ sent).Pairwise fun a b => a.startTime.value ≤ b.startTime.value := by
  refine List.pairwise_append.mpr ⟨sorted.sublist (List.take_sublist _ _), ?_, ?_⟩
  · exact (behind.ordered.sublist part.sublist).imp fun before => before_start _ _ before
  · intro a inFirst b inSent
    have after := ((behind_before matching last rest behind b).mp (part.subset inSent)).2
    exact Int64.le_trans (before_last batch ordered sorted last isLast a inFirst) (before_start _ _ after)

include positive distinct all

theorem sent_goes_on (goes : goesOn stop last = true) : (ordered.take batch ++ follow batch (goesOn stop) rest.length last rest).Perm
    matching ↔
    (∀ row ∈ matching, row ∈ ordered.take batch ↔ ¬ Before last row) ∧ follow batch (goesOn stop) rest.length last rest = rest := by
  have part := follow_front batch (goesOn stop) rest.length last rest
  have closed := ordered_closed stop rest behind.ordered
  have inFirst : ∀ row ∈ ordered.take batch, row ∈ matching := fun row member => all.mem_iff.mp (List.mem_of_mem_take member)
  have restDistinct : rest.Nodup := behind.rows.nodup_iff.mpr (distinct.filter _)
  constructor
  · intro same
    have apart := List.nodup_append.mp (same.nodup_iff.mpr distinct)
    have split : ∀ row ∈ matching, row ∈ ordered.take batch ↔ ¬ Before last row := by
      intro row member
      constructor
      · intro early before
        have start := before_last batch ordered sorted last isLast row early
        have rowGoes : goesOn stop row = true := by
          rw [goesOn, decide_eq_true_iff, Int64.lt_iff_toInt_lt] at goes ⊢
          rw [Int64.le_iff_toInt_le] at start
          omega
        have inRest := (behind_before matching last rest behind row).mpr ⟨member, before⟩
        have late := follow_keeps batch positive (goesOn stop) rest.length last rest (Nat.le_refl _) closed goes row inRest rowGoes
        exact apart.2.2 row early row late rfl
      · intro notBehind
        refine (List.mem_append.mp (same.mem_iff.mpr member)).resolve_right fun late => ?_
        exact notBehind ((behind_before matching last rest behind row).mp (part.subset late)).2
    refine ⟨split, part.eq_of_length_le ?_⟩
    refine (List.subperm_of_subset restDistinct fun row inRest => ?_).length_le
    have isBehind := (behind_before matching last rest behind row).mp inRest
    refine (List.mem_append.mp (same.mem_iff.mpr isBehind.1)).resolve_left fun early => ?_
    exact (split row isBehind.1).mp early isBehind.2
  · rintro ⟨split, whole⟩
    rw [whole]
    have firstDistinct : (ordered.take batch).Nodup := (all.nodup_iff.mpr distinct).sublist (List.take_sublist _ _)
    refine (List.perm_ext_iff_of_nodup ?_ distinct).mpr fun row => ?_
    · refine List.nodup_append.mpr ⟨firstDistinct, restDistinct, ?_⟩
      rintro row early _ late rfl
      exact (split row (inFirst row early)).mp early ((behind_before matching last rest behind row).mp late).2
    · rw [List.mem_append, behind_before matching last rest behind row]
      constructor
      · intro member
        exact member.elim (inFirst row) And.left
      · intro member
        by_cases before : Before last row
        · exact Or.inr ⟨member, before⟩
        · exact Or.inl ((split row member).mpr before)

theorem sent_once_iff : SentOnce matching (ordered.take batch ++ follow batch (goesOn stop) rest.length last rest) ↔
    Pageable batch stop matching (ordered.take batch) := by
  have part := follow_front batch (goesOn stop) rest.length last rest
  have inOrder := sent_ordered matching batch ordered sorted last isLast rest behind _ part
  have once : SentOnce matching (ordered.take batch ++ follow batch (goesOn stop) rest.length last rest) ↔
      (ordered.take batch ++ follow batch (goesOn stop) rest.length last rest).Perm matching :=
    ⟨SentOnce.each, fun each => ⟨each, inOrder⟩⟩
  have single : Pageable batch stop matching (ordered.take batch) ↔
      if goesOn stop last then
        (∀ row ∈ matching, row ∈ ordered.take batch ↔ ¬ Before last row) ∧
          ∀ k, k * batch < (matching.filter (Before last)).length →
            k * batch ≤ (matching.filter fun row => Before last row && goesOn stop row).length
      else matching.length ≤ batch := by
    constructor
    · intro pageable
      exact pageable last isLast
    · intro holds other isOther
      cases Option.some.inj (isLast.symm.trans isOther)
      exact holds
  rw [once, single]
  cases goes : goesOn stop last with
  | true =>
      have counts : (rest.filter (goesOn stop)).length = (matching.filter fun row => Before last row && goesOn stop row).length := by
        rw [(behind.rows.filter (goesOn stop)).length_eq, List.filter_filter]
        simp only [Bool.and_comm]
      rw [if_pos rfl, sent_goes_on stop matching batch positive distinct ordered all sorted last isLast rest behind goes,
        follow_all batch positive (goesOn stop) rest.length last rest (Nat.le_refl _) (ordered_closed stop rest behind.ordered) goes,
        counts, behind.rows.length_eq]
  | false =>
      rw [if_neg Bool.false_ne_true, follow_stopped batch (goesOn stop) rest.length last rest goes, List.append_nil]
      constructor
      · intro same
        have lengths := same.length_eq
        rw [List.length_take] at lengths
        omega
      · intro short
        rw [List.take_of_length_le (all.length_eq ▸ short)]
        exact all

end

end

section

variable (archive : MseedArchive) (rows : List MseedQueryResult) (content : Content rows) (batch : Nat)
  (answers : MseedArchive.Answers rows batch archive) (streamIds : List Text) (start stop : NsTime)

structure Paging (session : Session) (rest : List MseedQueryResult) : Prop where
  endTime : session.ext.dbQueryEndTime = stop
  patterns : session.ext.dbQueryStreamIds = streamIds
  queued : ∀ record ∈ session.ext.dbRecords, record ∈ rows.filter (within streamIds start stop)
  behind : ∀ cursor, session.ext.dbRecords.getLast? = some cursor →
    Behind (rows.filter (within streamIds start stop)) cursor rest

def owed (queue rest : List MseedQueryResult) : List MseedQueryResult :=
  match queue.getLast? with
  | none => []
  | some cursor => queue ++ follow batch (goesOn stop) rest.length cursor rest

theorem owed_nil (rest : List MseedQueryResult) : owed batch stop [] rest = [] := rfl

theorem owed_last (queue rest : List MseedQueryResult) (cursor : MseedQueryResult) (isLast : queue.getLast? = some cursor) :
    owed batch stop queue rest = queue ++ follow batch (goesOn stop) rest.length cursor rest := by
  rw [owed, isLast]

theorem owed_cons (record next : MseedQueryResult) (queue rest : List MseedQueryResult) :
    owed batch stop (record :: next :: queue) rest = record :: owed batch stop (next :: queue) rest := by
  obtain ⟨cursor, isLast⟩ : ∃ cursor, (next :: queue).getLast? = some cursor :=
    ⟨_, List.getLast?_eq_getLast_of_ne_nil (List.cons_ne_nil _ _)⟩
  rw [owed_last batch stop _ rest cursor isLast, owed_last batch stop (record :: next :: queue) rest cursor, List.cons_append]
  rw [List.getLast?_cons_cons]
  exact isLast

include content

theorem micros_not_unset (row : MseedQueryResult) (member : row ∈ rows) : row.startTime ≠ NsTime.unset := by
  intro isUnset
  have micros := content.micros row member
  rw [isUnset] at micros
  exact absurd micros (by decide)

theorem cursor_rows (cursor : MseedQueryResult) (member : cursor ∈ rows.filter (within streamIds start stop)) :
    (rows.filter fun row => within streamIds cursor.startTime stop row && behindCursor cursor.startTime cursor.id row) =
      (rows.filter (within streamIds start stop)).filter (Before cursor) := by
  obtain ⟨inRows, inWindow⟩ := List.mem_filter.mp member
  have serial := content.serial cursor inRows
  rw [List.filter_filter]
  refine List.filter_congr fun row rowMember => ?_
  have cursorMicros := content.micros cursor inRows
  have rowMicros := content.micros row rowMember
  rw [within, Bool.and_eq_true, Bool.and_eq_true, decide_eq_true_iff] at inWindow
  have notBefore := timestamp_le _ _ cursorMicros rowMicros
  have notBehind := timestamp_le _ _ rowMicros cursorMicros
  have laterId : row.id > cursor.id ↔ cursor.id.toInt < row.id.toInt := Int64.lt_iff_toInt_lt
  rw [Bool.eq_iff_iff, behindCursor, if_pos ⟨micros_not_unset rows content cursor inRows, serial⟩]
  simp only [within, Bool.and_eq_true, Bool.or_eq_true, decide_eq_true_iff, before_iff, laterId]
  constructor
  · rintro ⟨⟨⟨_, notLate⟩, chosen⟩, later⟩
    exact ⟨by omega, ⟨by omega, notLate⟩, chosen⟩
  · rintro ⟨later, ⟨_, notLate⟩, chosen⟩
    exact ⟨⟨⟨by omega, notLate⟩, chosen⟩, by omega⟩

include answers

theorem next_page (cursor : MseedQueryResult) (member : cursor ∈ rows.filter (within streamIds start stop))
    (rest : List MseedQueryResult) (behind : Behind (rows.filter (within streamIds start stop)) cursor rest) :
    archive.queryByTimePagination streamIds cursor.startTime stop cursor.startTime cursor.id 10000 = some (rest.take batch) := by
  obtain ⟨ordered, answer, same, inOrder⟩ := answers.next streamIds cursor.startTime stop cursor.startTime cursor.id
  rw [cursor_rows rows content streamIds start stop cursor member] at same
  have inRows : ∀ row ∈ ordered, row ∈ rows := fun row inAnswer =>
    (List.mem_filter.mp (List.mem_filter.mp (same.mem_iff.mp inAnswer)).1).1
  have restRows : ∀ row ∈ rest, row ∈ rows := fun row inRest =>
    (List.mem_filter.mp ((behind_before _ cursor rest behind row).mp inRest).1).1
  have equal : ordered = rest := by
    refine List.Perm.eq_of_pairwise ?_ inOrder ?_ (same.trans behind.rows.symm)
    · intro a b inAnswer inRest first second
      refine List.inj_on_of_nodup_map content.ids (inRows a inAnswer) (restRows b inRest) ?_
      rw [← Int64.toInt_inj]
      rw [Int64.le_iff_toInt_le] at first second
      omega
    · refine behind.ordered.imp_of_mem fun {a b} inRestA inRestB before => ?_
      have isLe := timestamp_le _ _ (content.micros b (restRows b inRestB)) (content.micros a (restRows a inRestA))
      have isEq := timestamp_eq _ _ (content.micros a (restRows a inRestA)) (content.micros b (restRows b inRestB))
      rw [before_iff] at before
      rw [Int64.le_iff_toInt_le, isEq]
      omega
  rw [answer, equal]

theorem rows_behind (cursor : MseedQueryResult) (member : cursor ∈ rows.filter (within streamIds start stop)) :
    ∃ rest, Behind (rows.filter (within streamIds start stop)) cursor rest := by
  obtain ⟨ordered, _, same, inOrder⟩ := answers.next streamIds cursor.startTime stop cursor.startTime cursor.id
  rw [cursor_rows rows content streamIds start stop cursor member] at same
  refine ⟨ordered, same, ?_⟩
  have inRows : ∀ row ∈ ordered, row ∈ rows := fun row inAnswer =>
    (List.mem_filter.mp (List.mem_filter.mp (same.mem_iff.mp inAnswer)).1).1
  have distinct : ordered.Nodup := same.nodup_iff.mpr (((content.ids.of_map _).filter _).filter _)
  refine (inOrder.and distinct).imp_of_mem fun {a b} inA inB both => ?_
  have sameId : a.id ≠ b.id := fun equal => both.2 (List.inj_on_of_nodup_map content.ids (inRows a inA) (inRows b inB) equal)
  have isLe := timestamp_le _ _ (content.micros b (inRows b inB)) (content.micros a (inRows a inA))
  have isEq := timestamp_eq _ _ (content.micros a (inRows a inA)) (content.micros b (inRows b inB))
  have order := both.1
  rw [Ne, ← Int64.toInt_inj] at sameId
  rw [Int64.le_iff_toInt_le, isEq] at order
  rw [before_iff]
  omega

theorem next_batch_page (around : Surroundings) (isArchive : around.archive = some archive) (named : streamIds ≠ [])
    (ends : stop ≠ NsTime.unset) (ext : SLExtInfo) (cursor : MseedQueryResult) (rest : List MseedQueryResult)
    (endTime : ext.dbQueryEndTime = stop) (patterns : ext.dbQueryStreamIds = streamIds)
    (startTime : ext.lastDbStartTime = cursor.startTime) (recordId : ext.lastDbRecordId = cursor.id)
    (member : cursor ∈ rows.filter (within streamIds start stop))
    (behind : Behind (rows.filter (within streamIds start stop)) cursor rest) :
    nextBatch around ext = if goesOn stop cursor then some (rest.take batch) else none := by
  have serial := content.serial cursor (List.mem_filter.mp member).1
  have page := next_page archive rows content batch answers streamIds start stop cursor member rest behind
  rw [nextBatch, isArchive, Option.bind_eq_bind, Option.bind_some, endTime, patterns, startTime, recordId, page]
  refine if_congr ?_ rfl rfl
  rw [goesOn, decide_eq_true_iff]
  exact ⟨fun all => all.2.1, fun goes => ⟨ends, goes, serial, fun empty => named (List.isEmpty_iff.mp empty)⟩⟩

end

section

variable (around : Surroundings) (archive : MseedArchive) (isArchive : around.archive = some archive)
  (rows : List MseedQueryResult) (content : Content rows) (batch : Nat) (positive : 0 < batch)
  (answers : MseedArchive.Answers rows batch archive)
  (streamIds : List Text) (start stop : NsTime) (named : streamIds ≠ []) (ends : stop ≠ NsTime.unset)
  (g : Geometry) (ring : RingParams) (journal : Journal) (keeps : Keeps g ring journal) (fuel : Nat) (enough : g.count < fuel)

structure Continues (session next : Session) (rest : List MseedQueryResult) : Prop where
  paging : Paging rows streamIds start stop next rest
  state : next.client.state = session.client.state
  protoMajor : next.ext.protoMajor = session.ext.protoMajor

theorem db_queue_refilled (session : Session) (record : MseedQueryResult) (records : List MseedQueryResult)
    (refill : nextBatch around session.ext = some (record :: records)) : handleDbQueueExhausted around fuel ring session =
      some (session.withExt { session.ext with dbRecords := record :: records }) := by
  rw [nextBatch] at refill
  rw [handleDbQueueExhausted]
  simp only [refill]

include keeps enough

theorem db_queue_left (session : Session) (none : (nextBatch around session.ext).getD [] = []) :
    ∃ reader, handleDbQueueExhausted around fuel ring session = some (session.withReader reader) := by
  obtain ⟨moved, ran⟩ := after_ends g ring journal keeps fuel enough session.client.reader session.ext.lastDbEndTime
  rw [nextBatch] at none
  rw [handleDbQueueExhausted]
  split
  · rename_i record records refill
    rw [refill] at none
    exact absurd none (List.cons_ne_nil _ _)
  · rw [ran, Option.bind_eq_bind, Option.bind_some]
    by_cases found : moved.1 ≠ Constants.ringIdNone ∧ moved.1 ≠ Constants.ringIdError
    · exact ⟨_, if_pos found⟩
    · exact ⟨_, if_neg found⟩

include isArchive content positive answers named ends

theorem db_queue_pages (session : Session) (cursor : MseedQueryResult) (rest : List MseedQueryResult)
    (drained : session.ext.dbRecords = []) (endTime : session.ext.dbQueryEndTime = stop)
    (patterns : session.ext.dbQueryStreamIds = streamIds)
    (startTime : session.ext.lastDbStartTime = cursor.startTime) (recordId : session.ext.lastDbRecordId = cursor.id)
    (member : cursor ∈ rows.filter (within streamIds start stop))
    (behind : Behind (rows.filter (within streamIds start stop)) cursor rest) :
    ∃ next rest', handleDbQueueExhausted around fuel ring session = some next ∧ Continues rows streamIds start stop session next rest' ∧
      owed batch stop next.ext.dbRecords rest' = follow batch (goesOn stop) rest.length cursor rest := by
  have query := next_batch_page archive rows content batch answers streamIds start stop around isArchive named ends session.ext
    cursor rest endTime patterns startTime recordId member behind
  by_cases leaves : (nextBatch around session.ext).getD [] = []
  · obtain ⟨reader, left⟩ := db_queue_left around g ring journal keeps fuel enough session leaves
    refine ⟨_, rest, left, ⟨⟨endTime, patterns, ?_, ?_⟩, rfl, rfl⟩, ?_⟩
    · intro record queued
      exact absurd (drained ▸ queued) List.not_mem_nil
    · intro last isLast
      have none : (session.withReader reader).ext.dbRecords.getLast? = none := congrArg List.getLast? drained
      exact absurd (none.symm.trans isLast) (Option.some_ne_none last).symm
    · rw [show (session.withReader reader).ext.dbRecords = [] from drained, owed_nil]
      rw [query] at leaves
      cases goes : goesOn stop cursor with
      | false => rw [follow_stopped batch (goesOn stop) _ cursor rest goes]
      | true =>
          rw [goes, if_pos rfl, Option.getD_some, List.take_eq_nil_iff] at leaves
          rw [leaves.resolve_left (by omega), follow_nil]
  · cases goes : goesOn stop cursor with
    | false =>
        rw [query, goes, if_neg Bool.false_ne_true] at leaves
        exact absurd rfl leaves
    | true =>
        rw [goes, if_pos rfl] at query
        rw [query, Option.getD_some] at leaves
        have nonempty : rest ≠ [] := fun empty => leaves (by rw [empty, List.take_nil])
        obtain ⟨last, isLast⟩ := page_last batch positive rest nonempty
        obtain ⟨record, records, page⟩ := List.exists_cons_of_ne_nil leaves
        have inMatching : ∀ row ∈ rest, row ∈ rows.filter (within streamIds start stop) := fun row inRest =>
          ((behind_before _ cursor rest behind row).mp inRest).1
        rw [page] at query
        refine ⟨_, rest.drop batch, db_queue_refilled around ring fuel session record records query,
          ⟨⟨endTime, patterns, ?_, ?_⟩, rfl, rfl⟩, ?_⟩
        · intro row queued
          exact inMatching row (List.mem_of_mem_take (page ▸ queued))
        · intro other isOther
          have same : some last = some other := isLast.symm.trans (page ▸ isOther)
          cases same
          exact behind_page _ batch cursor last rest behind isLast
        · rw [show (session.withExt { session.ext with dbRecords := record :: records }).ext.dbRecords = rest.take batch from page.symm,
            owed_last batch stop _ _ last isLast]
          obtain ⟨n, isLength⟩ : ∃ n, rest.length = n + 1 := ⟨rest.length - 1, by have some := List.length_pos_iff.mpr nonempty; omega⟩
          have shorter := drop_shorter batch positive rest nonempty
          rw [isLength, follow_page batch (goesOn stop) n cursor last rest goes isLast]
          rw [follow_fuel batch positive (goesOn stop) n (rest.drop batch).length last _ (by omega) (Nat.le_refl _)]

theorem record_pages (session : Session) (rest : List MseedQueryResult) (paging : Paging rows streamIds start stop session rest)
    (record : MseedQueryResult) (records : List MseedQueryResult) (queue : session.ext.dbRecords = record :: records) :
    ∃ next rest', (if records.isEmpty then handleDbQueueExhausted around fuel ring (dequeued session record records)
        else some (dequeued session record records)) = some next ∧ Continues rows streamIds start stop session next rest' ∧
      owed batch stop session.ext.dbRecords rest = record :: owed batch stop next.ext.dbRecords rest' := by
  cases records with
  | nil =>
      have isLast : session.ext.dbRecords.getLast? = some record := congrArg List.getLast? queue
      have member := paging.queued record (queue ▸ List.mem_singleton.mpr rfl)
      obtain ⟨next, rest', exhausted, continues, remaining⟩ := db_queue_pages around archive isArchive rows content batch positive
        answers streamIds start stop named ends g ring journal keeps fuel enough (dequeued session record []) record rest rfl
        paging.endTime paging.patterns rfl rfl member (paging.behind record isLast)
      refine ⟨next, rest', ?_, ⟨continues.paging, continues.state, continues.protoMajor⟩, ?_⟩
      · rw [List.isEmpty_nil, if_pos rfl]
        exact exhausted
      · rw [remaining, owed_last batch stop _ rest record isLast, queue]
        rfl
  | cons next records =>
      refine ⟨_, rest, rfl, ⟨⟨paging.endTime, paging.patterns, ?_, ?_⟩, rfl, rfl⟩, ?_⟩
      · intro row queued
        exact paging.queued row (queue ▸ List.mem_cons_of_mem record queued)
      · intro cursor isLast
        refine paging.behind cursor ?_
        rw [queue, List.getLast?_cons_cons]
        exact isLast
      · rw [queue, owed_cons]
        rfl

structure Bursts (rounds : Nat) (session : Session) (rest : List MseedQueryResult) (sent : List (List UInt8))
    (records : List MseedQueryResult)
    (outcome : Outcome) (rest' : List MseedQueryResult) : Prop where
  continues : Continues rows streamIds start stop session outcome.session rest'
  frames : outcome.sent = sent ++ records.map (recordFrame around session.ext.protoMajor)
  bytes : ∀ record ∈ records, record.rawData ≠ some []
  part : (records ++ owed batch stop outcome.session.ext.dbRecords rest').Sublist (owed batch stop session.ext.dbRecords rest)
  whole : (∀ record ∈ rows.filter (within streamIds start stop), record.rawData ≠ some []) →
    records ++ owed batch stop outcome.session.ext.dbRecords rest' = owed batch stop session.ext.dbRecords rest
  fewer : rounds ≠ 0 → session.ext.dbRecords ≠ [] →
    (owed batch stop outcome.session.ext.dbRecords rest').length < (owed batch stop session.ext.dbRecords rest).length

omit isArchive content positive answers named ends keeps enough in
theorem bursts_nothing (rounds : Nat) (session : Session) (rest : List MseedQueryResult)
    (paging : Paging rows streamIds start stop session rest) (code : Int) (sent : List (List UInt8))
    (idle : rounds = 0 ∨ session.ext.dbRecords = []) :
    Bursts around rows batch streamIds start stop rounds session rest sent [] ⟨code, session, sent⟩ rest :=
  ⟨⟨paging, rfl, rfl⟩, (List.append_nil sent).symm, fun _ none => absurd none List.not_mem_nil, List.Sublist.refl _, fun _ => rfl,
    fun more queued => absurd idle (not_or.mpr ⟨more, queued⟩)⟩

omit isArchive content positive answers named ends keeps enough in
theorem bursts_empty (rounds : Nat) (session : Session) (rest : List MseedQueryResult)
    (paging : Paging rows streamIds start stop session rest)
    (code : Int) (sent : List (List UInt8)) (record : MseedQueryResult) (records : List MseedQueryResult)
    (queue : session.ext.dbRecords = record :: records) (empty : record.rawData = some []) :
    Bursts around rows batch streamIds start stop rounds session rest sent [] ⟨code, dequeued session record records, sent⟩ rest := by
  have member := paging.queued record (queue ▸ List.mem_cons_self)
  refine ⟨⟨⟨paging.endTime, paging.patterns, ?_, ?_⟩, rfl, rfl⟩, (List.append_nil sent).symm,
    fun _ none => absurd none List.not_mem_nil, ?_, fun each => absurd empty (each record member), fun _ _ => ?_⟩
  · intro row queued
    exact paging.queued row (queue ▸ List.mem_cons_of_mem record queued)
  · intro cursor isLast
    refine paging.behind cursor ?_
    cases records with
    | nil => exact absurd isLast (Option.some_ne_none cursor).symm
    | cons next records =>
        rw [queue, List.getLast?_cons_cons]
        exact isLast
  · rw [queue, List.nil_append]
    cases records with
    | nil => exact List.nil_sublist _
    | cons next records =>
        rw [owed_cons]
        exact List.sublist_cons_self record _
  · rw [queue]
    cases records with
    | nil => exact Nat.succ_pos _
    | cons next records =>
        rw [owed_cons]
        exact Nat.lt_succ_self _

omit isArchive content positive answers named ends keeps enough in
theorem bursts_cons (rounds : Nat) (session next : Session) (rest middle rest' : List MseedQueryResult) (record : MseedQueryResult)
    (records : List MseedQueryResult) (sent : List (List UInt8)) (outcome : Outcome)
    (continues : Continues rows streamIds start stop session next middle)
    (first : owed batch stop session.ext.dbRecords rest = record :: owed batch stop next.ext.dbRecords middle)
    (bytes : record.rawData ≠ some [])
    (bursts : Bursts around rows batch streamIds start stop rounds next middle (sent ++ [recordFrame around session.ext.protoMajor record])
      records outcome rest') :
    Bursts around rows batch streamIds start stop (rounds + 1) session rest sent (record :: records) outcome rest' := by
  have continued := bursts.continues
  have shorter := bursts.part.length_le
  refine ⟨⟨continued.paging, continued.state.trans continues.state, continued.protoMajor.trans continues.protoMajor⟩, ?_, ?_, ?_, ?_,
    fun _ _ => ?_⟩
  · rw [bursts.frames, continues.protoMajor, List.append_assoc, List.map_cons, List.singleton_append]
  · intro other member
    exact (List.mem_cons.mp member).elim (fun same => same ▸ bytes) (bursts.bytes other)
  · rw [first, List.cons_append]
    exact bursts.part.cons_cons record
  · intro each
    rw [first, List.cons_append, bursts.whole each]
  · rw [List.length_append] at shorter
    rw [first, List.length_cons]
    omega

theorem send_records_pages (rounds : Nat) (session : Session) (rest : List MseedQueryResult)
    (paging : Paging rows streamIds start stop session rest) (total : Nat) (sent : List (List UInt8)) :
    ∃ outcome rest', sendRecords around fuel ring rounds session total sent = some outcome ∧
      Bursts around rows batch streamIds start stop rounds session rest sent (burst around fuel ring rounds session) outcome rest' := by
  induction rounds generalizing session rest total sent with
  | zero => exact ⟨_, rest, rfl, bursts_nothing around rows batch streamIds start stop 0 session rest paging _ sent (Or.inl rfl)⟩
  | succ rounds ih =>
      rw [sendRecords, burst]
      cases queue : session.ext.dbRecords with
      | nil =>
          exact ⟨_, rest, rfl, bursts_nothing around rows batch streamIds start stop (rounds + 1) session rest paging _ sent
            (Or.inr queue)⟩
      | cons record records =>
          dsimp only
          have member := paging.queued record (queue ▸ List.mem_cons_self)
          cases bytes : record.rawData with
          | none => exact absurd bytes (content.data record (List.mem_filter.mp member).1)
          | some rawData =>
              cases rawData with
              | nil =>
                  rw [Option.getD_some, if_pos rfl]
                  exact ⟨_, rest, rfl, bursts_empty around rows batch streamIds start stop (rounds + 1) session rest paging _ sent
                    record records queue bytes⟩
              | cons byte rawData =>
                  obtain ⟨next, middle, moved, continues, first⟩ := record_pages around archive isArchive rows content batch positive
                    answers streamIds start stop named ends g ring journal keeps fuel enough session rest paging record records queue
                  have frame : recordFrame around session.ext.protoMajor record =
                      frameHeader around session.ext.protoMajor record.streamId record.pktId (byte :: rawData) (byte :: rawData).length ++
                        byte :: rawData := by
                    rw [recordFrame, bytes]
                    rfl
                  rw [Option.getD_some, if_neg (List.cons_ne_nil byte rawData), moved]
                  obtain ⟨outcome, rest', ran, bursts⟩ := ih next middle continues.paging
                    (total + (recordFrame around session.ext.protoMajor record).length)
                    (sent ++ [recordFrame around session.ext.protoMajor record])
                  refine ⟨outcome, rest', ?_, ?_⟩
                  · rw [← ran, frame]
                    dsimp only
                    by_cases last : records.isEmpty = true
                    · rw [if_pos last] at moved ⊢
                      rw [moved]
                      rfl
                    · rw [if_neg last] at moved ⊢
                      rw [moved]
                      rfl
                  · exact bursts_cons around rows batch streamIds start stop rounds session next rest middle rest' record _ sent
                      outcome continues first (fun empty => List.cons_ne_nil byte rawData (Option.some.inj (bytes.symm.trans empty))) bursts

end

section

variable (around : Surroundings) (archive : MseedArchive) (isArchive : around.archive = some archive)
  (rows : List MseedQueryResult) (content : Content rows) (batch : Nat) (positive : 0 < batch)
  (answers : MseedArchive.Answers rows batch archive)
  (streamIds : List Text) (start stop : NsTime) (named : streamIds ≠ []) (ends : stop ≠ NsTime.unset)
  (g : Geometry) (fuel : Nat) (enough : g.count < fuel)

theorem owed_nonempty (queue rest : List MseedQueryResult) (nonempty : queue ≠ []) : 0 < (owed batch stop queue rest).length := by
  have isLast := List.getLast?_eq_getLast_of_ne_nil nonempty
  rw [owed_last batch stop queue rest _ isLast, List.length_append]
  exact Nat.lt_of_lt_of_le (List.length_pos_iff.mpr nonempty) (Nat.le_add_right _ _)

include isArchive content positive answers named ends enough

theorem archive_phase_pages (rings : List RingParams) (kept : ∀ ring ∈ rings, ∃ journal, Keeps g ring journal) (session : Session)
    (streams : session.client.state = .stream) (rest : List MseedQueryResult) (paging : Paging rows streamIds start stop session rest)
    (steps : (owed batch stop session.ext.dbRecords rest).length ≤ rings.length) :
    ∃ phase, archivePhase around fuel rings session = some phase ∧ phase.session.ext.dbRecords = [] ∧
      phase.sent = phase.records.map (recordFrame around session.ext.protoMajor) ∧ (∀ record ∈ phase.records, record.rawData ≠ some []) ∧
      ((∀ record ∈ rows.filter (within streamIds start stop), record.rawData ≠ some []) →
        phase.records = owed batch stop session.ext.dbRecords rest) := by
  induction rings generalizing session rest with
  | nil =>
      have drained : session.ext.dbRecords = [] := by
        by_contra queued
        have some := owed_nonempty batch stop _ rest queued
        rw [List.length_nil] at steps
        omega
      refine ⟨_, rfl, drained, rfl, fun _ none => absurd none List.not_mem_nil, fun _ => ?_⟩
      rw [drained, owed_nil]
  | cons ring rings ih =>
      by_cases drained : session.ext.dbRecords = []
      · refine ⟨⟨[], [], session⟩, ?_, drained, rfl, fun _ none => absurd none List.not_mem_nil, fun _ => ?_⟩
        · rw [archivePhase, drained, List.isEmpty_nil, if_pos rfl]
        · rw [drained, owed_nil]
      obtain ⟨journal, keeps⟩ := kept ring List.mem_cons_self
      obtain ⟨outcome, rest', ran, bursts⟩ := send_records_pages around archive isArchive rows content batch positive answers streamIds
        start stop named ends g ring journal keeps fuel enough dbBurstLimit session rest paging 0 []
      have fewer := bursts.fewer (by decide) drained
      rw [List.length_cons] at steps
      obtain ⟨phase, isPhase, left, frames, bytes, whole⟩ := ih (fun ring member => kept ring (List.mem_cons_of_mem _ member))
        outcome.session (bursts.continues.state.trans streams) rest' bursts.continues.paging (by omega)
      have notEmpty : ¬ session.ext.dbRecords.isEmpty = true := fun empty => drained (List.isEmpty_iff.mp empty)
      refine ⟨⟨burst around fuel ring dbBurstLimit session ++ phase.records, outcome.sent ++ phase.sent, phase.session⟩, ?_, left, ?_, ?_,
        ?_⟩
      · rw [archivePhase, if_neg notEmpty, streamPackets, if_pos streams, if_neg notEmpty, ran, Option.bind_eq_bind, Option.bind_some,
          isPhase]
        rfl
      · rw [bursts.frames, frames, List.nil_append, bursts.continues.protoMajor, List.map_append]
      · intro record member
        exact (List.mem_append.mp member).elim (bursts.bytes record) (bytes record)
      · intro each
        rw [whole each, bursts.whole each]

theorem queue_sent_once (session : Session) (streams : session.client.state = .stream) (ordered : List MseedQueryResult)
    (all : ordered.Perm (rows.filter (within streamIds start stop)))
    (inOrder : ordered.Pairwise fun a b => timestamp a.startTime ≤ timestamp b.startTime)
    (endTime : session.ext.dbQueryEndTime = stop) (patterns : session.ext.dbQueryStreamIds = streamIds)
    (queue : session.ext.dbRecords = ordered.take batch) (nonempty : ordered.take batch ≠ []) (rings : List RingParams)
    (kept : ∀ ring ∈ rings, ∃ journal, Keeps g ring journal) (steps : 2 * rows.length ≤ rings.length) :
    ∃ phase, archivePhase around fuel rings session = some phase ∧ phase.session.ext.dbRecords = [] ∧
      phase.sent = phase.records.map (recordFrame around session.ext.protoMajor) ∧
      (SentOnce (rows.filter (within streamIds start stop)) phase.records ↔
        (∀ row ∈ rows.filter (within streamIds start stop), row.rawData ≠ some []) ∧
          Pageable batch stop (rows.filter (within streamIds start stop)) (ordered.take batch)) := by
  obtain ⟨last, isLast⟩ : ∃ last, (ordered.take batch).getLast? = some last := ⟨_, List.getLast?_eq_getLast_of_ne_nil nonempty⟩
  have inMatching : ∀ row ∈ ordered.take batch, row ∈ rows.filter (within streamIds start stop) := fun row member =>
    all.mem_iff.mp (List.mem_of_mem_take member)
  have inRows : ∀ row ∈ ordered, row ∈ rows := fun row member => (List.mem_filter.mp (all.mem_iff.mp member)).1
  have distinct : (rows.filter (within streamIds start stop)).Nodup := (content.ids.of_map _).filter _
  have sorted : ordered.Pairwise fun a b => a.startTime.value ≤ b.startTime.value := by
    refine inOrder.imp_of_mem fun {a b} inA inB order => ?_
    rw [timestamp_le _ _ (content.micros a (inRows a inA)) (content.micros b (inRows b inB))] at order
    exact Int64.le_iff_toInt_le.mpr order
  obtain ⟨rest, behind⟩ := rows_behind archive rows content batch answers streamIds start stop last
    (inMatching last (List.mem_of_getLast? isLast))
  have paging : Paging rows streamIds start stop session rest := by
    refine ⟨endTime, patterns, ?_, ?_⟩
    · rw [queue]
      exact inMatching
    · intro cursor isCursor
      rw [queue] at isCursor
      cases Option.some.inj (isLast.symm.trans isCursor)
      exact behind
  have isOwed := owed_last batch stop (ordered.take batch) rest last isLast
  have bound : (owed batch stop session.ext.dbRecords rest).length ≤ rings.length := by
    have part := (follow_front batch (goesOn stop) rest.length last rest).length_le
    have counts := behind.rows.length_eq
    have fewer := List.length_filter_le (Before last) (rows.filter (within streamIds start stop))
    have total := List.length_filter_le (within streamIds start stop) rows
    have answer := all.length_eq
    rw [queue, isOwed, List.length_append, List.length_take]
    omega
  obtain ⟨phase, isPhase, left, frames, bytes, whole⟩ := archive_phase_pages around archive isArchive rows content batch positive
    answers streamIds start stop named ends g fuel enough rings kept session streams rest paging bound
  refine ⟨phase, isPhase, left, frames, ?_⟩
  by_cases each : ∀ row ∈ rows.filter (within streamIds start stop), row.rawData ≠ some []
  · rw [whole each, queue, isOwed, sent_once_iff stop _ batch positive distinct ordered all sorted last isLast rest behind]
    exact ⟨fun pageable => ⟨each, pageable⟩, And.right⟩
  · constructor
    · intro once
      refine absurd (fun row member => ?_) each
      exact bytes row (once.each.mem_iff.mpr member)
    · intro both
      exact absurd both.1 each

end

-- The answer of the first query is an input, as the database may order ties freely.
theorem archive_sent_once (around : Surroundings) (archive : MseedArchive) (isArchive : around.archive = some archive)
    (clock : around.now ≠ NsTime.unset) (rows : List MseedQueryResult) (content : Content rows) (batch : Nat) (positive : 0 < batch)
    (answers : MseedArchive.Answers rows batch archive) (stations : List Text) (ext : SLExtInfo) (drained : ext.dbRecords = [])
    (first : List MseedQueryResult)
    (answered : archive.queryByTime (archivePatterns stations) ext.startTime (dbEnd around ext) 10000 = some first)
    (session : Session) (queried : session.ext = preFetch around ext (archivePatterns stations)) (streams : session.client.state = .stream)
    (g : Geometry) (fuel : Nat) (enough : g.count < fuel) (rings : List RingParams)
    (kept : ∀ ring ∈ rings, ∃ journal, Keeps g ring journal) (steps : 2 * rows.length ≤ rings.length) :
    let matching := rows.filter (within (archivePatterns stations) ext.startTime (dbEnd around ext))
    ∃ phase, archivePhase around fuel rings session = some phase ∧ phase.session.ext.dbRecords = [] ∧
      phase.sent = phase.records.map (recordFrame around ext.protoMajor) ∧
      (SentOnce matching phase.records ↔
        (∀ row ∈ matching, row.rawData ≠ some []) ∧ Pageable batch (dbEnd around ext) matching first) := by
  intro matching
  obtain ⟨ordered, answer, all, inOrder⟩ := answers.first (archivePatterns stations) ext.startTime (dbEnd around ext)
  have isFirst : first = ordered.take batch := Option.some.inj (answered.symm.trans answer)
  have named : archivePatterns stations ≠ [] := by
    cases stations with
    | nil => exact List.cons_ne_nil _ _
    | cons staid rest => exact List.cons_ne_nil _ _
  have ends : dbEnd around ext ≠ NsTime.unset := by
    rw [dbEnd]
    by_cases unset : ext.endTime = NsTime.unset
    · rw [if_pos unset]
      exact clock
    · rw [if_neg unset]
      exact unset
  rw [preFetch, isArchive] at queried
  simp only [answered] at queried
  cases queue : first with
  | nil =>
      rw [queue] at queried
      have empty : matching = [] := by
        have none := (List.take_eq_nil_iff.mp (isFirst.symm.trans queue)).resolve_left (by omega)
        exact List.nil_perm.mp (none ▸ all)
      have left : session.ext.dbRecords = [] := queried ▸ drained
      refine ⟨⟨[], [], session⟩, ?_, left, rfl, ?_⟩
      · cases rings with
        | nil => rfl
        | cons ring rings => rw [archivePhase, left, List.isEmpty_nil, if_pos rfl]
      · rw [empty]
        constructor
        · intro _
          exact ⟨fun _ none => absurd none List.not_mem_nil, fun last isLast => absurd isLast (Option.some_ne_none last).symm⟩
        · intro _
          exact ⟨List.Perm.refl _, List.Pairwise.nil⟩
  | cons record records =>
      rw [queue] at queried
      have isQueue : session.ext.dbRecords = ordered.take batch := queried ▸ (queue.symm.trans isFirst)
      have nonempty : ordered.take batch ≠ [] := isFirst ▸ queue ▸ List.cons_ne_nil record records
      obtain ⟨phase, isPhase, left, frames, once⟩ := queue_sent_once around archive isArchive rows content batch positive answers
        (archivePatterns stations) ext.startTime (dbEnd around ext) named ends g fuel enough session streams ordered all inOrder
        (queried ▸ rfl) (queried ▸ rfl) isQueue nonempty rings kept steps
      refine ⟨phase, isPhase, left, ?_, ?_⟩
      · rw [frames, show session.ext.protoMajor = ext.protoMajor from queried ▸ rfl]
      · rw [once, ← queue, isFirst]

-- A table whose rows stand in the order of start_time and id; the first query gives the
-- order of first.
def tableArchive (batch : Nat) (first rows : List MseedQueryResult) : MseedArchive where
  queryByTime streamIds startTime endTime _ := some ((first.filter (within streamIds startTime endTime)).take batch)
  queryByTimePagination streamIds startTime endTime cursorStartTime cursorId _ :=
    some ((rows.filter fun row => within streamIds startTime endTime row && behindCursor cursorStartTime cursorId row).take batch)

theorem table_answers (batch : Nat) (first rows : List MseedQueryResult) (same : first.Perm rows)
    (early : first.Pairwise fun a b => timestamp a.startTime ≤ timestamp b.startTime)
    (ordered : rows.Pairwise fun a b => timestamp a.startTime < timestamp b.startTime ∨
      (timestamp a.startTime = timestamp b.startTime ∧ a.id ≤ b.id)) :
    MseedArchive.Answers rows batch (tableArchive batch first rows) :=
  ⟨fun _ _ _ => ⟨_, rfl, same.filter _, early.filter _⟩, fun _ _ _ _ _ => ⟨_, rfl, List.Perm.refl _, ordered.filter _⟩⟩

def rowAt (id startTime : Int64) : MseedQueryResult := ⟨id, "AA".toList, ⟨startTime⟩, ⟨startTime⟩, some [65], 1⟩

def tiedRows : List MseedQueryResult := [rowAt 1 1000, rowAt 2 1000]

theorem tied_content : Content tiedRows := by
  refine ⟨by decide, ?_, ?_, ?_⟩
  · intro row member
    obtain rfl | rfl := List.mem_pair.mp member
    · decide
    · decide
  · intro row member
    obtain rfl | rfl := List.mem_pair.mp member
    · exact Option.some_ne_none _
    · exact Option.some_ne_none _
  · intro row member
    obtain rfl | rfl := List.mem_pair.mp member
    · decide
    · decide

def tied (first : List MseedQueryResult) : Surroundings := { quiet with archive := some (tableArchive 10000 first tiedRows) }

def twoMicros : SLExtInfo := { newExtInfo with startTime := ⟨0⟩, endTime := ⟨2000⟩ }

def onTable (first : List MseedQueryResult) : Session :=
  (fresh.withExt (preFetch (tied first) twoMicros (archivePatterns []))).streaming

theorem tied_in_order : Pageable 10000 (dbEnd (tied tiedRows) twoMicros)
    (tiedRows.filter (within (archivePatterns []) twoMicros.startTime (dbEnd (tied tiedRows) twoMicros))) tiedRows := by
  have all : tiedRows.filter (within (archivePatterns []) twoMicros.startTime (dbEnd (tied tiedRows) twoMicros)) = tiedRows := rfl
  have behind : tiedRows.filter (Before (rowAt 2 1000)) = [] := by decide +kernel
  intro last isLast
  have isLast : rowAt 2 1000 = last := Option.some.inj isLast
  rw [← isLast, all, behind, if_pos (by decide)]
  constructor
  · intro row member
    have notBehind : ¬ Before (rowAt 2 1000) row := fun before =>
      List.not_mem_nil (behind ▸ List.mem_filter.mpr ⟨member, decide_eq_true before⟩)
    exact ⟨fun _ => notBehind, fun _ => member⟩
  · intro k below
    exact absurd below (Nat.not_lt_zero _)

theorem tied_records_in_order_sent_once : ∃ phase,
    archivePhase (tied tiedRows) 3 (List.replicate 4 twoSlotRing) (onTable tiedRows) = some phase ∧ phase.session.ext.dbRecords = [] ∧
      SentOnce (tiedRows.filter (within (archivePatterns []) twoMicros.startTime (dbEnd (tied tiedRows) twoMicros))) phase.records := by
  obtain ⟨phase, isPhase, left, _, once⟩ := archive_sent_once (tied tiedRows)
    (tableArchive 10000 tiedRows tiedRows) rfl (by decide) tiedRows
    tied_content 10000 (by decide) (table_answers _ _ _ (List.Perm.refl _) (by decide +kernel) (by decide +kernel)) [] twoMicros rfl
    tiedRows rfl (onTable tiedRows) rfl rfl twoSlots 3 (by decide) (List.replicate 4 twoSlotRing)
    (fun ring member => List.eq_of_mem_replicate member ▸ ⟨_, fresh_keeps _ _ two_slots_fresh⟩) (by decide)
  refine ⟨phase, isPhase, left, once.mpr ⟨?_, tied_in_order⟩⟩
  intro row member
  obtain rfl | rfl := List.mem_pair.mp (List.mem_of_mem_filter member)
  · exact fun empty => List.cons_ne_nil _ _ (Option.some.inj empty)
  · exact fun empty => List.cons_ne_nil _ _ (Option.some.inj empty)

-- The last row of the answer has the lower ID, so the query behind it gives the other
-- row once more.
theorem tied_records_sent_twice : Content tiedRows ∧ MseedArchive.Answers tiedRows 10000 (tableArchive 10000 tiedRows.reverse tiedRows) ∧
    (∃ phase, archivePhase (tied tiedRows.reverse) 3 (List.replicate 4 twoSlotRing) (onTable tiedRows.reverse) = some phase ∧
      phase.records = [rowAt 2 1000, rowAt 1 1000, rowAt 2 1000] ∧ phase.session.ext.dbRecords = [] ∧
      ¬ SentOnce (tiedRows.filter (within (archivePatterns []) twoMicros.startTime twoMicros.endTime)) phase.records) := by
  refine ⟨tied_content, table_answers _ _ _ (List.reverse_perm _) (by decide +kernel) (by decide +kernel), _, rfl, rfl, rfl, ?_⟩
  intro once
  have lengths := once.each.length_eq
  exact absurd lengths (by decide +kernel)

end RingServer.SeedLink
