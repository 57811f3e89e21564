import RingServer.Protocols.SeedLinkArchive
import RingServer.Protocols.SeedLinkDelivery
import RingServer.Protocols.SeedLinkResume
import RingServer.Ring.KeepAfter

set_option autoImplicit false

namespace RingServer.SeedLink

open Library

-- A session on the ring beside the writer. delivered has the places of the packets that
-- StreamPackets has sent.
structure Tail where
  ring : RingParams
  session : Session
  writes : List (Request × RingPacket)
  place : Nat
  delivered : List Nat

namespace Tail

def reader (s : Tail) : RingReader := s.session.client.reader

def feed (s : Tail) : Feed := ⟨s.ring, s.session, s.writes, s.place, []⟩

def afterWrite (s : Tail) (ring : RingParams) (request : Request) (packet : RingPacket) : Tail :=
  { s with ring := ring, writes := s.writes ++ [(request, packet)] }

def afterStream (s : Tail) (outcome : Outcome) : Tail :=
  let place := s.feed.watch.standing outcome.session.client.reader
  { s with
    session := outcome.session
    place := place
    delivered := if outcome.sent.isEmpty then s.delivered else s.delivered ++ [place] }

end Tail

-- Any order of Write and StreamPackets steps, where the clock does not go back and a
-- packet that the reader stands on is resident whenever it streams.
inductive Tailing (fuel : Nat) (start : Tail) : Tail → Prop where
  | start : Tailing fuel start start
  | write (s : Tail) (request : Request) (ring : RingParams) (packet : RingPacket) (reach : Tailing fuel start s)
      (automatic : Automatic s.ring request) (later : ∀ write ∈ s.writes, write.2.pktTime.value ≤ request.clock.value)
      (wrote : writeRequest s.ring request = some (0, ring, packet)) : Tailing fuel start (s.afterWrite ring request packet)
  | stream (s : Tail) (around : Surroundings) (outcome : Outcome) (reach : Tailing fuel start s)
      (stands : s.reader.pktOffset < 0 ∨ s.feed.watch.OnResident)
      (ran : streamPackets around fuel s.ring s.session = some outcome) : Tailing fuel start (s.afterStream outcome)

def CaughtUp (start s : Tail) : Prop := start.writes.length ≤ s.place + 1

def Copied (records : List MseedQueryResult) (write : Request × RingPacket) : Prop :=
  ∃ record ∈ records, record.pktId = write.2.pktId ∧ record.streamId = write.2.streamId ∧ record.rawData = some write.1.packetData

def InWindow (ext : SLExtInfo) (packet : RingPacket) : Prop :=
  (ext.startTime ≠ NsTime.unset → ext.startTime.value ≤ packet.dataStart.value) ∧
    (ext.endTime ≠ NsTime.unset → packet.dataStart.value ≤ ext.endTime.value)

structure Owed (session : Session) (records : List MseedQueryResult) (write : Request × RingPacket) : Prop where
  chosen : selected session.client.reader write = true
  window : InWindow session.ext write.2
  missing : ¬ Copied records write

-- Behind the last record of the archive every packet comes that is owed, and none that was copied.
structure HandsOver (fuel : Nat) (session : Session) (records : List MseedQueryResult) (start : Tail) : Prop where
  arrives : ∃ s, Tailing fuel start s ∧ CaughtUp start s
  complete : ∀ s, Tailing fuel start s → CaughtUp start s → ∀ j write, start.feed.watch.low ≤ j →
    start.writes[j]? = some write → Owed session records write → j ∈ s.delivered
  once : ∀ s, Tailing fuel start s → ∀ j write, start.writes[j]? = some write → Copied records write → j ∉ s.delivered

-- The first packet in the ring that starts no earlier than the last record of the
-- archive ends, or the latest packet when there is none or no slot is free.
def handOverPlace (ring : RingParams) (writes : List (Request × RingPacket)) (endTime : NsTime) : Nat :=
  if writes.length < ring.maxPackets.toNat then
    min (writes.findIdx fun write => endTime.value ≤ write.2.dataStart.value) (writes.length - 1)
  else writes.length - 1

structure Aligned (session : Session) (records : List MseedQueryResult) (start : Tail) (k : Nat) : Prop where
  ahead : ∀ j write, start.feed.watch.low ≤ j → start.writes[j]? = some write → Owed session records write → k < j
  behind : ∀ j write, k < j → start.writes[j]? = some write → selected session.client.reader write = true → ¬ Copied records write

structure Tailed (g : Geometry) (start s : Tail) (journal : Journal) : Prop where
  fed : Fed g s.ring s.writes journal
  grown : start.writes <+: s.writes
  filters : SameFilters start.reader s.reader
  state : s.session.client.state = .stream
  drained : s.session.ext.dbRecords = []
  delivered : ∀ j write, start.writes[j]? = some write →
    (j ∈ s.delivered ↔ start.place < j ∧ j ≤ s.place ∧ selected start.reader write = true)

structure Standing (g : Geometry) (start s : Tail) (journal : Journal) : Prop where
  stands : s.reader.pktOffset = g.offsetAt s.place
  placed : s.place < journal.written
  ordered : start.place ≤ s.place

structure Waiting (start s : Tail) : Prop where
  unset : s.reader.pktOffset < 0
  next : s.reader.pktId = Constants.ringIdNext
  latest : start.place + 1 = start.writes.length
  place : s.place = start.place

theorem after_stream_delivered (s : Tail) (outcome : Outcome) (j : Nat) : j ∈ (s.afterStream outcome).delivered ↔
    j ∈ s.delivered ∨ outcome.sent ≠ [] ∧ j = (s.afterStream outcome).place := by
  have delivered : (s.afterStream outcome).delivered =
      if outcome.sent.isEmpty then s.delivered else s.delivered ++ [(s.afterStream outcome).place] := rfl
  rw [delivered]
  by_cases nothing : outcome.sent = []
  · rw [if_pos (List.isEmpty_iff.mpr nothing)]
    exact ⟨Or.inl, fun either => either.resolve_right fun both => both.1 nothing⟩
  · rw [if_neg fun empty => nothing (List.isEmpty_iff.mp empty), List.mem_append, List.mem_singleton]
    exact or_congr_right ⟨fun same => ⟨nothing, same⟩, And.right⟩

section

variable (g : Geometry) (start s : Tail) (journal : Journal) (tailed : Tailed g start s journal)

include tailed

theorem tailed_write_at (j : Nat) (write : Request × RingPacket) (isWrite : start.writes[j]? = some write) : s.writes[j]? = some write := by
  obtain ⟨more, same⟩ := tailed.grown
  rw [← same, List.getElem?_append_left (List.getElem?_eq_some_iff.mp isWrite).1]
  exact isWrite

theorem tailed_feeds (standing : Standing g start s journal) : Feeds g s.feed s.feed journal := by
  refine ⟨tailed.fed, standing.placed, Nat.le_refl _, standing.stands, same_filters_refl _, tailed.state, tailed.drained, rfl, ?_⟩
  have nothing : between s.writes (s.place + 1) (s.place + 1) = [] := List.drop_eq_nil_of_le (by rw [List.length_take]; omega)
  show _ = ((between s.writes (s.place + 1) (s.place + 1)).filter (selected s.reader)).map (framed s.session.ext.protoMajor)
  rw [nothing]
  rfl

theorem tailed_write (request : Request) (ring : RingParams) (packet : RingPacket) (automatic : Automatic s.ring request)
    (later : ∀ write ∈ s.writes, write.2.pktTime.value ≤ request.clock.value)
    (wrote : writeRequest s.ring request = some (0, ring, packet)) :
    Tailed g start (s.afterWrite ring request packet) (journal.record g request) := by
  obtain ⟨fed, _, _⟩ := fed_write g s.ring s.writes journal tailed.fed request ring packet automatic later wrote
  exact ⟨fed, tailed.grown.trans (List.prefix_append _ _), tailed.filters, tailed.state, tailed.drained, tailed.delivered⟩

theorem tailed_stream (standing : Standing g start s journal) (around : Surroundings) (fuel : Nat) (enough : g.count < fuel)
    (resident : s.feed.watch.OnResident) (outcome : Outcome) (ran : streamPackets around fuel s.ring s.session = some outcome) :
    Tailed g start (s.afterStream outcome) journal ∧ Standing g start (s.afterStream outcome) journal ∧
      (s.afterStream outcome).place = min (s.place + 1 + (s.writes.drop (s.place + 1)).findIdx fun write =>
        RingBuffer.passes s.reader (storedId write.2.streamId)) (s.writes.length - 1) := by
  have feeds := tailed_feeds g start s journal tailed standing
  obtain ⟨outcome', k, ran', passed, ordered, below, isPlace⟩ := stream_passed g s.feed s.feed journal feeds around fuel enough resident
  obtain rfl := Option.some.inj (ran'.symm.trans ran)
  have place : (s.afterStream outcome').place = k :=
    (feeds_passed g s.feed s.feed journal feeds resident outcome' k ordered below passed).1
  have skips (j : Nat) (write : Request × RingPacket) (above : s.place < j) (less : j < k) (isWrite : s.writes[j]? = some write) :
      selected s.reader write = false := by
    have first : j < s.place + 1 + (s.writes.drop (s.place + 1)).findIdx fun write =>
        RingBuffer.passes s.reader (storedId write.2.streamId) := less.trans_le (isPlace.trans_le (Nat.min_le_left _ _))
    have fails := find_idx_skips s.writes (s.place + 1) (fun write => RingBuffer.passes s.reader (storedId write.2.streamId)) j write
      above first isWrite
    rw [selected, fails, Bool.false_and, Bool.false_and]
  obtain ⟨request, isLast, _⟩ := payloads_at g journal s.writes tailed.fed.stored.payloads k below
  have sends : outcome'.sent = [] ↔ ¬ (s.place < k ∧ selected s.reader (request, journal.packet k) = true) := by
    have sent : outcome'.sent.map _ = ((between s.writes (s.place + 1) (k + 1)).filter (selected s.reader)).map _ := passed.sent
    rw [← List.map_eq_nil_iff, sent, List.map_eq_nil_iff]
    by_cases moved : s.place < k
    · rw [filter_between_last s.writes (s.place + 1) k (selected s.reader) _ isLast moved fun i other above less =>
        skips i other above less,
        List.filter_eq_nil_iff]
      simp only [List.mem_singleton, forall_eq, moved, true_and]
    · have nothing : between s.writes (s.place + 1) (k + 1) = [] := List.drop_eq_nil_of_le (by rw [List.length_take]; omega)
      rw [nothing]
      exact iff_of_true rfl fun both => moved both.1
  refine ⟨⟨tailed.fed, tailed.grown, same_filters_trans _ _ _ tailed.filters passed.filters, passed.state.trans tailed.state,
    passed.drained.trans tailed.drained, ?_⟩, ⟨?_, ?_, ?_⟩, place.trans isPlace⟩
  · intro j write isWrite
    have here := tailed_write_at g start s journal tailed j write isWrite
    have before := tailed.delivered j write isWrite
    have same : selected start.reader write = selected s.reader write := by rw [selected_same start.reader s.reader tailed.filters]
    have isNew : j = k → selected s.reader write = selected s.reader (request, journal.packet k) := fun at_k => by
      rw [at_k] at here
      rw [Option.some.inj (here.symm.trans isLast)]
    rw [after_stream_delivered, place, before, same, Ne, sends, not_not]
    constructor
    · intro either
      cases either with
      | inl old => exact ⟨old.1, old.2.1.trans ordered, old.2.2⟩
      | inr new => exact ⟨new.2 ▸ standing.ordered.trans_lt new.1.1, Nat.le_of_eq new.2, (isNew new.2).trans new.1.2⟩
    · intro all
      by_cases old : j ≤ s.place
      · exact Or.inl ⟨all.1, old, all.2.2⟩
      by_cases last : j = k
      · exact Or.inr ⟨⟨by omega, (isNew last).symm.trans all.2.2⟩, last⟩
      · have fails := skips j write (by omega) (by omega) here
        exact absurd all.2.2 (Bool.eq_false_iff.mp fails)
  · rw [place]
    exact passed.stands
  · rw [place]
    exact below
  · rw [place]
    exact standing.ordered.trans ordered

theorem tailed_wait (waiting : Waiting start s) (nonempty : start.writes ≠ []) (around : Surroundings) (fuel : Nat) (outcome : Outcome)
    (ran : streamPackets around fuel s.ring s.session = some outcome) :
    Tailed g start (s.afterStream outcome) journal ∧ Standing g start (s.afterStream outcome) journal := by
  have written := tailed.fed.stored.payloads.1
  have longer := tailed.grown.length_le
  have some : 0 < start.writes.length := List.length_pos_iff.mpr nonempty
  have positive := g.positive
  have residentLast : journal.Resident g (journal.written - 1) := ⟨by simp only [Journal.low, oldest]; omega, by omega⟩
  have keeps := tailed.fed.stored.keeps
  have header := slot_keeps_size g _ journal _ (keeps.slots _ residentLast)
  obtain ⟨cached, packetData, isCached, size⟩ := cached_buffers_size g s.ring keeps.shaped header s.session.ext
  obtain ⟨reading, isReading, _, _, isNone, latest⟩ := read_next_to_latest g s.ring journal keeps (by omega) fuel s.reader waiting.unset
    waiting.next cached (Option.some (packetData.map fun _ => 0))
  have filters := read_next_filters fuel s.ring s.reader cached _ reading isReading
  have noError : ¬ Constants.ringIdNone = Constants.ringIdError := by decide
  have reader : s.session.client.reader = s.reader := rfl
  rw [streamPackets, if_pos tailed.state, tailed.drained, List.isEmpty_nil, if_pos rfl] at ran
  simp only [streamPacket, isCached, reader, isReading, isNone, Option.bind_eq_bind, Option.bind_some, if_neg noError, if_true] at ran
  have isOutcome := Option.some.inj ran
  have stands : outcome.session.client.reader.pktOffset = g.offsetAt (journal.written - 1) := by
    rw [← isOutcome]
    exact latest
  have place : (s.afterStream outcome).place = journal.written - 1 := by
    refine standing_moved g s.feed.watch journal (by omega) tailed.fed.stored.maxPackets tailed.fed.stored.payloads
      (fun i resident => tailed.fed.stored.offsets i resident.2) _ _ residentLast stands ?_
    rw [stands]
    intro same
    exact g.offset_at_not_neg _ (same ▸ waiting.unset)
  have delivered : (s.afterStream outcome).delivered = s.delivered := by
    rw [← isOutcome]
    rfl
  have final : (s.afterStream outcome).session = outcome.session := rfl
  refine ⟨⟨tailed.fed, tailed.grown, same_filters_trans _ _ _ tailed.filters ?_, ?_, ?_, fun j write isWrite => ?_⟩, ⟨?_, ?_, ?_⟩⟩
  · rw [Tail.reader, Tail.reader, final, ← isOutcome]
    exact filters
  · rw [final, ← isOutcome]
    exact tailed.state
  · rw [final, ← isOutcome]
    exact tailed.drained
  · have below := (List.getElem?_eq_some_iff.mp isWrite).1
    have latest := waiting.latest
    rw [delivered, tailed.delivered j write isWrite]
    exact iff_of_false (fun all => absurd all.1 (by omega)) fun all => absurd all.1 (by omega)
  · rw [place]
    exact stands
  · rw [place]
    omega
  · have latest := waiting.latest
    rw [place]
    omega

end

theorem tailed_runs (g : Geometry) (fuel : Nat) (enough : g.count < fuel) (start : Tail) (nonempty : start.writes ≠ []) (journal : Journal)
    (tailed : Tailed g start start journal) (place : Standing g start start journal ∨ Waiting start start) (s : Tail)
    (reach : Tailing fuel start s) : ∃ journal', Tailed g start s journal' ∧ (Standing g start s journal' ∨ Waiting start s) := by
  induction reach with
  | start => exact ⟨journal, tailed, place⟩
  | write s request ring packet reach automatic later wrote ih =>
      obtain ⟨journal', tailed', place'⟩ := ih
      refine ⟨_, tailed_write g start s journal' tailed' request ring packet automatic later wrote, ?_⟩
      cases place' with
      | inl standing => exact Or.inl ⟨standing.stands, Nat.lt_succ_of_lt standing.placed, standing.ordered⟩
      | inr waiting => exact Or.inr ⟨waiting.unset, waiting.next, waiting.latest, waiting.place⟩
  | stream s around outcome reach stands ran ih =>
      obtain ⟨journal', tailed', place'⟩ := ih
      refine ⟨journal', ?_⟩
      cases place' with
      | inl standing =>
          have positioned : ¬ s.reader.pktOffset < 0 := by
            rw [standing.stands]
            exact g.offset_at_not_neg _
          have step := tailed_stream g start s journal' tailed' standing around fuel enough (stands.resolve_left positioned) outcome ran
          exact ⟨step.1, Or.inl step.2.1⟩
      | inr waiting =>
          have step := tailed_wait g start s journal' tailed' waiting nonempty around fuel outcome ran
          exact ⟨step.1, Or.inl step.2⟩

theorem tailed_catches_up (g : Geometry) (fuel : Nat) (enough : g.count < fuel) (around : Surroundings) (start s : Tail) (journal : Journal)
    (tailed : Tailed g start s journal) (standing : Standing g start s journal) (resident : s.feed.watch.OnResident)
    (reach : Tailing fuel start s) : ∃ final, Tailing fuel start final ∧ CaughtUp start final := by
  generalize left : journal.written - s.place = remaining
  induction remaining using Nat.strong_induction_on generalizing s with
  | h remaining ih =>
      have written := tailed.fed.stored.payloads.1
      have longer := tailed.grown.length_le
      have placed := standing.placed
      by_cases last : s.place + 1 = journal.written
      · refine ⟨s, reach, ?_⟩
        rw [CaughtUp]
        omega
      obtain ⟨outcome, k, ran, _⟩ := stream_passed g s.feed s.feed journal (tailed_feeds g start s journal tailed standing) around fuel
        enough resident
      obtain ⟨tailed', standing', isPlace⟩ := tailed_stream g start s journal tailed standing around fuel enough resident outcome ran
      have goes : s.place < (s.afterStream outcome).place := by
        rw [isPlace, Nat.lt_min]
        omega
      refine ih _ (by omega) (s.afterStream outcome) tailed' standing' ?_ (.stream s around outcome reach (Or.inr resident) ran) rfl
      rw [Watch.OnResident] at resident ⊢
      exact resident.trans (Nat.le_of_lt goes)

structure Filled (around : Surroundings) (session : Session) : Prop where
  queue : ∀ record ∈ session.ext.dbRecords, record.rawData.getD [] ≠ []
  answers : ∀ archive, around.archive = some archive → ∀ streamIds startTime endTime cursorStartTime cursorId limit records,
    archive.queryByTimePagination streamIds startTime endTime cursorStartTime cursorId limit = some records →
      ∀ record ∈ records, record.rawData.getD [] ≠ []

def lastEnd (records : List MseedQueryResult) : NsTime := (records.getLast?.map (·.endTime)).getD NsTime.unset

def LeftArchive (fuel : Nat) (ring : RingParams) (session after : Session) (records : List MseedQueryResult) : Prop :=
  ∃ ext, ext.dbRecords = [] ∧ ext.lastDbEndTime = lastEnd records ∧
    ∃ moved, RingBuffer.after fuel ring session.client.reader ext.lastDbEndTime 0 = some moved ∧
      after = (session.withExt ext).withReader (repositioned moved)

theorem send_records_switch (around : Surroundings) (fuel : Nat) (ring : RingParams) (rounds : Nat) (session : Session)
    (filled : Filled around session) (total : Nat) (sent : List (List UInt8)) (outcome : Outcome)
    (ran : sendRecords around fuel ring rounds session total sent = some outcome) (queued : session.ext.dbRecords ≠ [])
    (left : outcome.session.ext.dbRecords = []) :
    burst around fuel ring rounds session ≠ [] ∧ LeftArchive fuel ring session outcome.session (burst around fuel ring rounds session) := by
  induction rounds generalizing session total sent with
  | zero =>
      rw [← Option.some.inj ran] at left
      exact absurd left queued
  | succ rounds ih =>
      cases send_records_cases around fuel ring rounds session total sent outcome ran with
      | drained empty isOutcome => exact absurd empty queued
      | stopped record records queue empty isOutcome =>
          exact absurd (congrArg (Option.getD · []) empty) (filled.queue record (queue ▸ List.mem_cons_self))
      | sent record records frame next queue bytes moved rest =>
          rw [burst_sent around fuel ring rounds session next record records queue bytes moved]
          refine ⟨List.cons_ne_nil _ _, ?_⟩
          have again (filled' : Filled around next) (queued' : next.ext.dbRecords ≠ []) (same : ∃ ext, next = session.withExt ext) :
              LeftArchive fuel ring session outcome.session (record :: burst around fuel ring rounds next) := by
            obtain ⟨some, ext, drained, ends, result, ranAfter, isSession⟩ := ih next filled' _ _ rest queued'
            obtain ⟨_, rfl⟩ := same
            refine ⟨ext, drained, ?_, result, ranAfter, isSession⟩
            rw [ends, lastEnd, lastEnd, List.getLast?_cons_of_ne_nil some]
          by_cases last : records.isEmpty = true
          · rw [if_pos last] at moved
            have none : records = [] := List.isEmpty_iff.mp last
            cases db_queue_cases around fuel ring _ next moved with
            | inl refill =>
                obtain ⟨first, more, answer, rfl⟩ := refill
                refine again ⟨?_, filled.answers⟩ (List.cons_ne_nil _ _) ⟨_, rfl⟩
                rw [nextBatch, Option.bind_eq_bind, Option.bind_eq_some_iff] at answer
                obtain ⟨archive, isArchive, asked⟩ := answer
                split at asked
                · exact filled.answers archive isArchive _ _ _ _ _ _ _ asked
                · cases asked
            | inr leaves =>
                obtain ⟨result, ranAfter, isNext⟩ := leaves
                have drained : next.ext.dbRecords = [] := by
                  rw [isNext]
                  exact none
                have final : outcome.session = next := by
                  cases rounds with
                  | zero => rw [← Option.some.inj rest]
                  | succ rounds =>
                      rw [sendRecords, drained] at rest
                      rw [← Option.some.inj rest]
                rw [burst_drained around fuel ring rounds next drained]
                exact ⟨(dequeued session record records).ext, none, rfl, result, ranAfter, final.trans isNext⟩
          · rw [if_neg last] at moved
            cases moved
            refine again ⟨fun other member => ?_, filled.answers⟩ (fun empty => last (List.isEmpty_iff.mpr empty)) ⟨_, rfl⟩
            exact filled.queue other (queue ▸ List.mem_cons_of_mem record member)

structure Switches (origin : RingParams) (around : Surroundings) (fuel : Nat) (ring : RingParams) (writes : List (Request × RingPacket))
    (session : Session) (outcome : Outcome) : Prop where
  run : ∃ requests packets, writeAll origin requests = some (ring, packets) ∧ writes = requests.zip packets ∧
    (∀ request ∈ requests, Automatic origin request) ∧ (requests.map (·.clock.value)).Pairwise (· ≤ ·)
  state : session.client.state = .stream
  queued : session.ext.dbRecords ≠ []
  filled : Filled around session
  ran : streamPackets around fuel ring session = some outcome
  left : outcome.session.ext.dbRecords = []

def onRing (ring : RingParams) (session : Session) (writes : List (Request × RingPacket)) (records : List MseedQueryResult) : Tail :=
  ⟨ring, session, writes, handOverPlace ring writes (lastEnd records), []⟩

section

variable (g : Geometry) (ring : RingParams) (writes : List (Request × RingPacket)) (journal : Journal) (fed : Fed g ring writes journal)
  (nonempty : writes ≠ [])

include fed nonempty

omit nonempty in
theorem starts_at (refTime : NsTime) (i : Nat) (write : Request × RingPacket) (isWrite : writes[i]? = some write) :
    refTime.value ≤ (journal.packet i).dataStart.value ↔ decide (refTime.value ≤ write.2.dataStart.value) = true := by
  have below : i < journal.written := fed.stored.payloads.1 ▸ (List.getElem?_eq_some_iff.mp isWrite).1
  obtain ⟨request, isPacket, _⟩ := payloads_at g journal writes fed.stored.payloads i below
  rw [← Option.some.inj (isPacket.symm.trans isWrite), decide_eq_true_iff]

theorem hand_over_latest (refTime : NsTime) (none : journal.written < g.count →
      firstIn (fun i => refTime.value ≤ (journal.packet i).dataStart.value) 0 journal.written = none) :
    handOverPlace ring writes refTime + 1 = writes.length := by
  have positive := List.length_pos_iff.mpr nonempty
  have written := fed.stored.payloads.1
  rw [handOverPlace, fed.stored.maxPackets]
  by_cases filling : writes.length < g.count
  · have index := find_idx_none writes 0 (fun write => refTime.value ≤ write.2.dataStart.value) _
      (starts_at g ring writes journal fed refTime) (Nat.zero_le _) (written ▸ none (written ▸ filling))
    rw [List.drop_zero, Nat.zero_add] at index
    rw [if_pos filling, index]
    omega
  · rw [if_neg filling]
    omega

omit nonempty in
theorem hand_over_found (refTime : NsTime) (filling : journal.written < g.count) (i : Nat)
    (first : firstIn (fun i => refTime.value ≤ (journal.packet i).dataStart.value) 0 journal.written = some i) :
    handOverPlace ring writes refTime = i ∧ i < journal.written := by
  have written := fed.stored.payloads.1
  have below := ((first_in_some _ _ _ i).mp first).2.1
  have index := find_idx_first writes 0 (fun write => refTime.value ≤ write.2.dataStart.value) _ i
    (starts_at g ring writes journal fed refTime) (written ▸ first)
  rw [List.drop_zero, Nat.zero_add] at index
  rw [handOverPlace, fed.stored.maxPackets, if_pos (written ▸ filling), index]
  omega

theorem left_archive_place (fuel : Nat) (enough : g.count < fuel) (session after : Session) (records : List MseedQueryResult)
    (left : LeftArchive fuel ring session after records) (state : session.client.state = .stream) :
    Tailed g (onRing ring after writes records) (onRing ring after writes records) journal ∧
      (Standing g (onRing ring after writes records) (onRing ring after writes records) journal ∧
          (onRing ring after writes records).feed.watch.OnResident ∨
        Waiting (onRing ring after writes records) (onRing ring after writes records)) ∧
      SameFilters session.client.reader after.client.reader := by
  obtain ⟨ext, drained, ends, moved, ranAfter, isAfter⟩ := left
  rw [ends] at ranAfter
  obtain ⟨result, ran, first⟩ := after_first g ring journal fed.stored.keeps fuel enough session.client.reader (lastEnd records)
  obtain rfl := Option.some.inj (ran.symm.trans ranAfter)
  have reader : after.client.reader = repositioned result := by rw [isAfter]; rfl
  have waits (isResult : result = (Constants.ringIdNone, session.client.reader)) (none : journal.written < g.count →
      firstIn (fun i => (lastEnd records).value ≤ (journal.packet i).dataStart.value) 0 journal.written = none) :
      Waiting (onRing ring after writes records) (onRing ring after writes records) ∧
        SameFilters session.client.reader after.client.reader := by
    have isReader : after.client.reader = { session.client.reader with pktOffset := -1, pktId := Constants.ringIdNext } := by
      rw [reader, isResult, repositioned, if_neg fun both => both.1 rfl]
    have negative : (-1 : Int64) < 0 := by decide
    refine ⟨⟨?_, ?_, hand_over_latest g ring writes journal fed nonempty _ none, rfl⟩, ?_⟩
    · show after.client.reader.pktOffset < 0
      rw [isReader]
      exact negative
    · show after.client.reader.pktId = _
      rw [isReader]
    · rw [isReader]
      exact ⟨rfl, rfl, rfl⟩
  have tailed : Tailed g (onRing ring after writes records) (onRing ring after writes records) journal := by
    refine ⟨fed, List.prefix_rfl, same_filters_refl _, ?_, ?_, fun j write _ => ?_⟩
    · show after.client.state = _
      rw [isAfter]
      exact state
    · show after.ext.dbRecords = _
      rw [isAfter]
      exact drained
    · exact iff_of_false List.not_mem_nil fun all => absurd all.2.1 (Nat.not_le_of_lt all.1)
  refine ⟨tailed, ?_⟩
  by_cases filling : journal.written < g.count
  · rw [if_pos filling] at first
    generalize at_result : result = outcome at first
    cases first with
    | missing missing =>
        obtain ⟨waiting, filters⟩ := waits at_result fun _ => missing
        exact ⟨Or.inr waiting, filters⟩
    | found i header found isHeader =>
        obtain ⟨place, below⟩ := hand_over_found g ring writes journal fed (lastEnd records) filling i found
        obtain ⟨request, isWrite, _⟩ := payloads_at g journal writes fed.stored.payloads i below
        have id : header.pktId ≤ Constants.ringIdMaximum := by
          rw [isHeader.pktId]
          exact fed.ids _ (List.mem_of_getElem? isWrite)
        have reserved : ¬ Constants.ringIdError ≤ Constants.ringIdMaximum ∧ ¬ Constants.ringIdNone ≤ Constants.ringIdMaximum := by decide
        have valid : header.pktId ≠ Constants.ringIdNone ∧ header.pktId ≠ Constants.ringIdError :=
          ⟨fun same => reserved.2 (same ▸ id), fun same => reserved.1 (same ▸ id)⟩
        have isReader : after.client.reader = RingBuffer.moveTo session.client.reader (g.offsetAt i) header := by
          rw [reader, at_result, repositioned, if_pos valid]
        refine ⟨Or.inl ⟨⟨?_, ?_, Nat.le_refl _⟩, ?_⟩, ?_⟩
        · show after.client.reader.pktOffset = g.offsetAt (handOverPlace ring writes (lastEnd records))
          rw [isReader, place]
          rfl
        · show handOverPlace ring writes (lastEnd records) < _
          rw [place]
          exact below
        · rw [Watch.OnResident, watch_low g _ journal fed.stored.maxPackets fed.stored.payloads, Journal.low,
            (oldest_filling g.count journal.written filling).1]
          exact Nat.zero_le _
        · rw [isReader]
          exact move_to_filters _ _ header
  · rw [if_neg filling] at first
    obtain ⟨waiting, filters⟩ := waits first fun less => absurd less filling
    exact ⟨Or.inr waiting, filters⟩

end

-- The session goes on in the ring without a gap and without a repetition where the
-- packets behind the hand-over place are those that the archive has not given.
theorem hands_over_iff (g : Geometry) (origin : RingParams) (fresh : Fresh g origin) (fuel : Nat)
    (enough : origin.maxPackets.toNat < fuel) (around : Surroundings) (ring : RingParams) (writes : List (Request × RingPacket))
    (session : Session) (outcome : Outcome) (switches : Switches origin around fuel ring writes session outcome)
    (earlier : List MseedQueryResult) :
    HandsOver fuel session (earlier ++ burst around fuel ring dbBurstLimit session)
        (onRing ring outcome.session writes (earlier ++ burst around fuel ring dbBurstLimit session)) ↔
      Aligned session (earlier ++ burst around fuel ring dbBurstLimit session)
        (onRing ring outcome.session writes (earlier ++ burst around fuel ring dbBurstLimit session))
        (handOverPlace ring writes (lastEnd (earlier ++ burst around fuel ring dbBurstLimit session))) := by
  obtain ⟨requests, packets, wrote, isWrites, automatic, clocks⟩ := switches.run
  rw [fresh.maxPackets] at enough
  have empty : Fed g origin [] Journal.empty :=
    ⟨stored_fresh g origin fresh, ⟨fun _ j _ below => absurd below (Nat.not_lt_zero j), fun i below => absurd below (Nat.not_lt_zero i)⟩,
      fun _ member => absurd member List.not_mem_nil, fun _ member => absurd member List.not_mem_nil⟩
  obtain ⟨journal, fed⟩ := fed_all g requests origin ring packets [] Journal.empty empty automatic clocks
    (fun write member => absurd member List.not_mem_nil) wrote
  rw [List.nil_append, ← isWrites] at fed
  have ran := switches.ran
  rw [streamPackets, if_pos switches.state, if_neg fun none => switches.queued (List.isEmpty_iff.mp none)] at ran
  obtain ⟨sent, left⟩ := send_records_switch around fuel ring dbBurstLimit session switches.filled 0 [] outcome ran switches.queued
    switches.left
  have ends : lastEnd (earlier ++ burst around fuel ring dbBurstLimit session) = lastEnd (burst around fuel ring dbBurstLimit session) := by
    rw [lastEnd, lastEnd, List.getLast?_append_of_ne_nil _ sent]
  have leftAll : LeftArchive fuel ring session outcome.session (earlier ++ burst around fuel ring dbBurstLimit session) := by
    rw [LeftArchive, ends]
    exact left
  generalize earlier ++ burst around fuel ring dbBurstLimit session = records at leftAll
  by_cases nonempty : writes = []
  · subst nonempty
    refine iff_of_true ⟨⟨_, .start, Nat.zero_le _⟩, ?_, ?_⟩ ⟨?_, ?_⟩
    · exact fun s _ _ j write _ isWrite => absurd isWrite.symm (Option.some_ne_none write)
    · exact fun s _ j write isWrite => absurd isWrite.symm (Option.some_ne_none write)
    · exact fun j write _ isWrite => absurd isWrite.symm (Option.some_ne_none write)
    · exact fun j write _ isWrite => absurd isWrite.symm (Option.some_ne_none write)
  obtain ⟨tailed, place, filters⟩ :=
    left_archive_place g ring writes journal fed nonempty fuel enough session outcome.session records leftAll switches.state
  generalize isStart : onRing ring outcome.session writes records = start at tailed place
  have isPlace : handOverPlace ring writes (lastEnd records) = start.place := by rw [← isStart]; rfl
  have isSelected : selected start.reader = selected session.client.reader := by
    rw [← isStart]
    exact selected_same _ _ filters
  have someStart : start.writes ≠ [] := by
    rw [← isStart]
    exact nonempty
  rw [isPlace]
  have runs := tailed_runs g fuel enough start someStart journal tailed (place.imp_left And.left)
  have arrives : ∃ s, Tailing fuel start s ∧ CaughtUp start s := by
    cases place with
    | inl both => exact tailed_catches_up g fuel enough around start start journal tailed both.1 both.2 .start
    | inr waiting => exact ⟨start, .start, Nat.le_of_eq waiting.latest.symm⟩
  constructor
  · intro hands
    obtain ⟨s, reach, caught⟩ := hands.arrives
    obtain ⟨journal', tailed', _⟩ := runs s reach
    refine ⟨fun j write resident isWrite owed => ?_, fun j write behind isWrite chosen copied => ?_⟩
    · exact ((tailed'.delivered j write isWrite).mp (hands.complete s reach caught j write resident isWrite owed)).1
    · have below := (List.getElem?_eq_some_iff.mp isWrite).1
      refine hands.once s reach j write isWrite copied ((tailed'.delivered j write isWrite).mpr ⟨behind, ?_, isSelected ▸ chosen⟩)
      rw [CaughtUp] at caught
      omega
  · intro aligned
    refine ⟨arrives, fun s reach caught j write resident isWrite owed => ?_, fun s reach j write isWrite copied member => ?_⟩
    · obtain ⟨journal', tailed', _⟩ := runs s reach
      have below := (List.getElem?_eq_some_iff.mp isWrite).1
      rw [CaughtUp] at caught
      exact (tailed'.delivered j write isWrite).mpr
        ⟨aligned.ahead j write resident isWrite owed, by omega, isSelected ▸ owed.chosen⟩
    · obtain ⟨journal', tailed', _⟩ := runs s reach
      obtain ⟨behind, _, chosen⟩ := (tailed'.delivered j write isWrite).mp member
      exact aligned.behind j write behind isWrite (isSelected ▸ chosen) copied

def spanAt (start stop : Int64) : Request :=
  ⟨⟨start⟩, ⟨0, Constants.ringIdNone, ⟨start⟩, -1, ['B'], ⟨start⟩, ⟨stop⟩, 15⟩, [77, 83, 3, 0, 0, 0, 0, 0, 0, 0, 0, 0, 0, 0, 0], 15⟩

def rowOfFirst (request : Request) : MseedQueryResult :=
  ⟨1, request.packet.streamId, request.packet.dataStart, request.packet.dataEnd, some request.packetData, 1⟩

def firstArchived (request : Request) : Surroundings :=
  { quiet with archive := some (tableArchive 10000 [rowOfFirst request] [rowOfFirst request]) }

def oneHour : SLExtInfo := { newExtInfo with startTime := ⟨0⟩, endTime := ⟨3600000000000⟩ }

def fetched (request : Request) : Session :=
  (fresh.withExt (preFetch (firstArchived request) oneHour [['%']])).streaming

def sendsFirst (first second : Request) : Option (RingParams × List RingPacket × Outcome) := do
  let (ring, packets) ← writeAll threeSlotRing [first, second]
  let outcome ← streamPackets (firstArchived first) 4 ring (fetched first)
  some (ring, packets, outcome)

theorem span_at_automatic (start stop : Int64) : Automatic threeSlotRing (spanAt start stop) := by
  refine ⟨⟨?_, ?_⟩, rfl, rfl, rfl⟩
  · show ¬ (112 + 15 : UInt32) > 128
    decide
  · show (15 : UInt32).toNat < 2 ^ 31
    decide

theorem fetched_filled (request : Request) (some : request.packetData ≠ []) : Filled (firstArchived request) (fetched request) := by
  have rows (record : MseedQueryResult) (member : record ∈ [rowOfFirst request]) : record.rawData.getD [] ≠ [] := by
    rw [List.mem_singleton.mp member]
    exact some
  refine ⟨fun record member => rows record ?_, fun archive isArchive streamIds startTime endTime cursorStartTime cursorId limit records
    answer record member => rows record ?_⟩
  · have fetch : (preFetch (firstArchived request) oneHour [['%']]).dbRecords ⊆ [rowOfFirst request] := by
      rw [preFetch.eq_def]
      dsimp only [firstArchived]
      split
      · rename_i first others answer
        rw [← Option.some.inj answer]
        exact fun other member => List.mem_of_mem_filter (List.mem_of_mem_take member)
      · exact List.nil_subset _
    exact fetch member
  · cases isArchive
    rw [← Option.some.inj answer] at member
    exact List.mem_of_mem_filter (List.mem_of_mem_take member)

structure FirstSent (first second : Request) (ring : RingParams) (one two : RingPacket) (outcome : Outcome) : Prop where
  switches : Switches threeSlotRing (firstArchived first) 4 ring [(first, one), (second, two)] (fetched first) outcome
  sent : burst (firstArchived first) 4 ring dbBurstLimit (fetched first) = [rowOfFirst first]
  slots : ring.maxPackets = 3
  ids : one.pktId = 1 ∧ two.pktId = 2
  streams : one.streamId = ['B'] ∧ two.streamId = ['B']
  starts : one.dataStart = first.packet.dataStart ∧ two.dataStart = second.packet.dataStart

theorem first_sent (a b c d : Int64) (ordered : a ≤ c) (stored : (sendsFirst (spanAt a b) (spanAt c d)).map (fun result =>
      ((result.2.1.map fun packet => (packet.pktId, packet.streamId, packet.dataStart.value)), result.1.maxPackets,
        result.2.2.session.ext.dbRecords.isEmpty)) = some ([(1, ['B'], a), (2, ['B'], c)], 3, true))
    (sent : (sendsFirst (spanAt a b) (spanAt c d)).map (fun result =>
      burst (firstArchived (spanAt a b)) 4 result.1 dbBurstLimit (fetched (spanAt a b))) = some [rowOfFirst (spanAt a b)]) :
    ∃ ring one two outcome, FirstSent (spanAt a b) (spanAt c d) ring one two outcome := by
  obtain ⟨⟨ring, packets, outcome⟩, ran, same⟩ := Option.map_eq_some_iff.mp stored
  rw [ran, Option.map_some, Option.some.injEq] at sent
  simp only [Prod.mk.injEq] at same
  obtain ⟨isPackets, slots, drained⟩ := same
  simp only [sendsFirst, Option.bind_eq_bind, Option.bind_eq_some_iff, Option.some.injEq, Prod.mk.injEq] at ran
  obtain ⟨⟨ring', packets'⟩, wrote, outcome', streamed, rfl, rfl, rfl⟩ := ran
  obtain ⟨one, others, rfl, isOne, isOthers⟩ := List.map_eq_cons_iff.mp isPackets
  obtain ⟨two, rfl, isTwo⟩ := List.map_eq_singleton_iff.mp isOthers
  simp only [Prod.mk.injEq] at isOne isTwo
  have data : (spanAt a b).packetData ≠ [] := List.cons_ne_nil _ _
  have queued : (fetched (spanAt a b)).ext.dbRecords ≠ [] := by
    intro empty
    rw [burst_drained _ _ _ _ _ empty] at sent
    exact absurd sent.symm (List.cons_ne_nil _ _)
  refine ⟨ring', one, two, outcome', ⟨⟨_, _, wrote, rfl, ?_, ?_⟩, rfl, queued, fetched_filled _ data, streamed,
    List.isEmpty_iff.mp drained⟩,
    sent, slots, ⟨isOne.1, isTwo.1⟩, ⟨isOne.2.1, isTwo.2.1⟩, ⟨?_, ?_⟩⟩
  · intro request member
    cases List.mem_pair.mp member with
    | inl first => exact first ▸ span_at_automatic a b
    | inr second => exact second ▸ span_at_automatic c d
  · exact List.pairwise_pair.mpr ordered
  · exact congrArg NsTime.mk isOne.2.2
  · exact congrArg NsTime.mk isTwo.2.2

theorem two_places (ring : RingParams) (slots : ring.maxPackets = 3) (first second : Request) (one two : RingPacket) (endTime : NsTime) :
    handOverPlace ring [(first, one), (second, two)] endTime = if endTime.value ≤ one.dataStart.value then 0 else 1 := by
  have filling : [(first, one), (second, two)].length < ring.maxPackets.toNat := by
    rw [slots]
    show 2 < (3 : UInt64).toNat
    decide
  rw [handOverPlace, if_pos filling]
  by_cases early : endTime.value ≤ one.dataStart.value
  · rw [if_pos early, List.findIdx_cons, decide_eq_true early]
    rfl
  · rw [if_neg early, List.findIdx_cons, decide_eq_false early]
    exact Nat.min_eq_right (Nat.le_add_left 1 _)

section

variable (first second : Request) (ring : RingParams) (one two : RingPacket) (outcome : Outcome)
  (run : FirstSent first second ring one two outcome)

include run

theorem first_copied (named : first.packet.streamId = ['B']) : Copied [rowOfFirst first] (first, one) :=
  ⟨rowOfFirst first, List.mem_singleton.mpr rfl, run.ids.1.symm, named.trans run.streams.1.symm, rfl⟩

theorem second_not_copied : ¬ Copied [rowOfFirst first] (second, two) := by
  intro copied
  obtain ⟨record, member, pktId, _⟩ := copied
  rw [List.mem_singleton.mp member, run.ids.2] at pktId
  have same : (1 : UInt64) = 2 := pktId
  exact absurd same (by decide)

end

-- Two packets of one instant each. The archive has the first one and the ring goes on
-- with the second one.
theorem instants_handed_over : ∃ ring one two outcome, FirstSent (spanAt 2000 2000) (spanAt 3000 3000) ring one two outcome ∧
    HandsOver 4 (fetched (spanAt 2000 2000)) ([] ++ burst (firstArchived (spanAt 2000 2000)) 4 ring dbBurstLimit
      (fetched (spanAt 2000 2000)))
      (onRing ring outcome.session [(spanAt 2000 2000, one), (spanAt 3000 3000, two)]
        ([] ++ burst (firstArchived (spanAt 2000 2000)) 4 ring dbBurstLimit (fetched (spanAt 2000 2000)))) := by
  obtain ⟨ring, one, two, outcome, run⟩ := first_sent 2000 2000 3000 3000 (by decide) (by decide +kernel) (by decide +kernel)
  refine ⟨ring, one, two, outcome, run, (hands_over_iff threeSlots threeSlotRing three_slots_fresh 4 (by decide) _ ring _ _ outcome
    run.switches []).mpr ?_⟩
  have early : (lastEnd [rowOfFirst (spanAt 2000 2000)]).value ≤ one.dataStart.value := by
    rw [run.starts.1]
    decide
  rw [List.nil_append, run.sent, two_places ring run.slots, if_pos early]
  refine ⟨fun j write _ isWrite owed => Nat.pos_of_ne_zero fun zero => ?_, fun j write behind isWrite _ copied => ?_⟩
  · rw [zero] at isWrite
    cases isWrite
    exact owed.missing (first_copied _ _ ring one two outcome run rfl)
  · have last : j = 1 := by
      have below : j < 2 := (List.getElem?_eq_some_iff.mp isWrite).1
      omega
    rw [last] at isWrite
    cases isWrite
    exact second_not_copied _ _ ring one two outcome run copied

-- Two packets that follow each other. The archive has the first one, and the second one
-- is passed over.
theorem second_packet_lost : ∃ ring one two outcome, FirstSent (spanAt 1000 2000) (spanAt 3000 4000) ring one two outcome ∧
    Copied [rowOfFirst (spanAt 1000 2000)] (spanAt 1000 2000, one) ∧
    Owed (fetched (spanAt 1000 2000)) [rowOfFirst (spanAt 1000 2000)] (spanAt 3000 4000, two) ∧
    ¬ HandsOver 4 (fetched (spanAt 1000 2000)) (burst (firstArchived (spanAt 1000 2000)) 4 ring dbBurstLimit (fetched (spanAt 1000 2000)))
      (onRing ring outcome.session [(spanAt 1000 2000, one), (spanAt 3000 4000, two)]
        (burst (firstArchived (spanAt 1000 2000)) 4 ring dbBurstLimit (fetched (spanAt 1000 2000)))) := by
  obtain ⟨ring, one, two, outcome, run⟩ := first_sent 1000 2000 3000 4000 (by decide) (by decide +kernel) (by decide +kernel)
  have owed : Owed (fetched (spanAt 1000 2000)) [rowOfFirst (spanAt 1000 2000)] (spanAt 3000 4000, two) := by
    refine ⟨rfl, ⟨fun _ => ?_, fun _ => ?_⟩, second_not_copied _ _ ring one two outcome run⟩
    · rw [run.starts.2]
      decide +kernel
    · rw [run.starts.2]
      decide +kernel
  refine ⟨ring, one, two, outcome, run, first_copied _ _ ring one two outcome run rfl, owed, fun hands => ?_⟩
  have late : ¬ (lastEnd [rowOfFirst (spanAt 1000 2000)]).value ≤ one.dataStart.value := by
    rw [run.starts.1]
    decide
  rw [run.sent] at hands
  have caught : CaughtUp (onRing ring outcome.session [(spanAt 1000 2000, one), (spanAt 3000 4000, two)] [rowOfFirst (spanAt 1000 2000)])
      (onRing ring outcome.session [(spanAt 1000 2000, one), (spanAt 3000 4000, two)] [rowOfFirst (spanAt 1000 2000)]) := by
    rw [CaughtUp, onRing, two_places ring run.slots, if_neg late]
    exact Nat.le_refl 2
  have resident : (onRing ring outcome.session [(spanAt 1000 2000, one), (spanAt 3000 4000, two)]
      [rowOfFirst (spanAt 1000 2000)]).feed.watch.low ≤ 1 := by
    show 2 - min ring.maxPackets.toNat 2 ≤ 1
    rw [run.slots]
    decide
  exact absurd (hands.complete _ .start caught 1 _ resident rfl owed) List.not_mem_nil

end RingServer.SeedLink
