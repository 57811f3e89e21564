import RingServer.Protocols.SeedLinkArchive
import RingServer.Protocols.SeedLinkResume
import RingServer.Ring.KeepNext

set_option autoImplicit false

namespace RingServer.SeedLink

open Library

structure Bounded (around : Surroundings) : Prop where
  first : ∀ archive, around.archive = some archive → ∀ streamIds startTime endTime limit records,
    archive.queryByTime streamIds startTime endTime limit = some records → endTime ≠ NsTime.unset →
      ∀ record ∈ records, record.startTime.value ≤ endTime.value
  next : ∀ archive, around.archive = some archive → ∀ streamIds startTime endTime cursorStartTime cursorId limit records,
    archive.queryByTimePagination streamIds startTime endTime cursorStartTime cursorId limit = some records →
      endTime ≠ NsTime.unset → ∀ record ∈ records, record.startTime.value ≤ endTime.value

def handed (fuel : Nat) (ring : RingParams) (session : Session) : Option RingPacket := do
  let (packet, packetData) ← cachedBuffers ring session.ext
  let reading ← RingBuffer.readNext fuel ring session.client.reader packet (some (packetData.map fun _ => 0))
  if reading.code = Constants.ringIdError ∨ reading.code = Constants.ringIdNone then none else some reading.packet

def came (around : Surroundings) (fuel : Nat) (ring : RingParams) (session : Session) : List NsTime :=
  if session.client.state ≠ .stream then []
  else if session.ext.dbRecords.isEmpty then ((handed fuel ring session).map (·.dataStart)).toList
  else (burst around fuel ring dbBurstLimit session).map (·.startTime)

structure Turn where
  endTime : NsTime
  starts : List NsTime
  outcome : Outcome

-- Nothing that starts behind the end time goes out, and it ends the session.
structure Obeys (turn : Turn) : Prop where
  sends : turn.outcome.sent ≠ [] → ∀ start ∈ turn.starts, start.value ≤ turn.endTime.value
  stops : ∀ start ∈ turn.starts, start.value > turn.endTime.value → turn.outcome.code < 0

-- A session from its connection on: writes to the ring, commands and calls of StreamPackets. The archive may change from call to call.
inductive Windowing (g : Geometry) (allowed : Journal → Session → Prop) (heard : Session → List Text → Prop) :
    Journal → RingParams → Session → List Turn → Prop
  | opened (journal : Journal) (ring : RingParams) (keeps : Keeps g ring journal) (client : ClientInfo)
      (unset : client.reader.pktOffset = -1) : Windowing g allowed heard journal ring ⟨client, newExtInfo⟩ []
  | written (journal : Journal) (ring : RingParams) (session : Session) (turns : List Turn)
      (before : Windowing g allowed heard journal ring session turns) (request : Request) (fits : Fits ring request) (next : RingParams)
      (packet : RingPacket) (wrote : writeRequest ring request = some (0, next, packet)) :
      Windowing g allowed heard (journal.record g request) next session turns
  | commanded (journal : Journal) (ring : RingParams) (session : Session) (turns : List Turn)
      (before : Windowing g allowed heard journal ring session turns) (around : Surroundings) (bounded : Bounded around) (fuel : Nat)
      (line : List UInt8) (permits : heard session (splitWords (commandText line))) (outcome : Outcome)
      (ran : handleCommand around fuel ring session line = some outcome) : Windowing g allowed heard journal ring outcome.session turns
  | streamed (journal : Journal) (ring : RingParams) (session : Session) (turns : List Turn)
      (before : Windowing g allowed heard journal ring session turns) (around : Surroundings) (bounded : Bounded around) (fuel : Nat)
      (meets : allowed journal session) (outcome : Outcome) (ran : streamPackets around fuel ring session = some outcome) :
      Windowing g allowed heard journal ring outcome.session (turns ++ [⟨session.ext.endTime, came around fuel ring session, outcome⟩])

-- Without records of the archive, the first packet ahead that the patterns of the
-- session pass starts no later than the end time.
def NextWithin (g : Geometry) (journal : Journal) (session : Session) : Prop :=
  session.ext.dbRecords = [] → session.ext.endTime ≠ NsTime.unset →
    ∀ i, journal.Upcoming g session.client.reader i → (journal.packet i).dataStart.value ≤ session.ext.endTime.value

def KeepsWindow (session : Session) (parts : List Text) : Prop :=
  session.ext.dbRecords ≠ [] → ∀ word startStr endStr behind, parts = word :: startStr :: endStr :: behind →
    toUpperInvariant word = "TIME".toList → parseSeedLinkTime endStr ≠ NsTime.error → parseSeedLinkTime endStr ≠ NsTime.unset →
      session.ext.dbQueryEndTime ≠ NsTime.unset ∧ session.ext.dbQueryEndTime.value ≤ (parseSeedLinkTime endStr).value

def EndsEarly (ext : SLExtInfo) : Prop :=
  ext.endTime ≠ NsTime.unset → ext.dbQueryEndTime ≠ NsTime.unset ∧ ext.dbQueryEndTime.value ≤ ext.endTime.value

structure Early (ext : SLExtInfo) : Prop where
  ends : ext.dbRecords ≠ [] → EndsEarly ext
  records : ext.dbQueryEndTime ≠ NsTime.unset → ∀ record ∈ ext.dbRecords, record.startTime.value ≤ ext.dbQueryEndTime.value

structure Windowed (g : Geometry) (journal : Journal) (session : Session) : Prop where
  placed : Placed g journal session.client.reader
  early : Early session.ext
  waiting : session.client.state ≠ .stream → session.ext.dbRecords = []

theorem early_drained (ext : SLExtInfo) (drained : ext.dbRecords = []) : Early ext :=
  ⟨fun queued => absurd drained queued, fun _ _ member => absurd (drained ▸ member) List.not_mem_nil⟩

theorem early_within (ext : SLExtInfo) (early : Early ext) (set : ext.endTime ≠ NsTime.unset) (record : MseedQueryResult)
    (member : record ∈ ext.dbRecords) : record.startTime.value ≤ ext.endTime.value := by
  have ends := early.ends (List.ne_nil_of_mem member) set
  exact Int64.le_trans (early.records ends.1 record member) ends.2

theorem pre_fetch_early (around : Surroundings) (bounded : Bounded around) (ext : SLExtInfo) (early : Early ext)
    (streamIds : List Text) : Early (preFetch around ext streamIds) := by
  rw [preFetch.eq_def]
  cases isArchive : around.archive with
  | none => exact early
  | some archive =>
      dsimp only
      split
      · rename_i record records answer
        refine ⟨fun _ set => ?_, fun set other member => bounded.first archive isArchive _ _ _ _ _ answer set other member⟩
        have ends : dbEnd around ext = ext.endTime := by rw [dbEnd, if_neg set]
        exact ⟨ends ▸ set, Int64.le_of_eq (congrArg NsTime.value ends)⟩
      · exact ⟨early.ends, early.records⟩

theorem end_archive_early (around : Surroundings) (bounded : Bounded around) (pktId : UInt64) (ext : SLExtInfo)
    (early : Early ext) : Early (endArchive around pktId ext) := by
  rw [endArchive]
  dsimp only
  have starts : Early (if ext.startTime = NsTime.unset ∧ pktId = Constants.ringIdEarliest then
      { ext with startTime := around.weekAgo } else ext) := by
    split
    · exact ⟨early.ends, early.records⟩
    · exact early
  generalize (if ext.startTime = NsTime.unset ∧ pktId = Constants.ringIdEarliest then { ext with startTime := around.weekAgo }
    else ext) = started at starts ⊢
  split
  · have fetched := pre_fetch_early around bounded started starts (archivePatterns started.selectedStations)
    exact ⟨fetched.ends, fetched.records⟩
  · exact starts

theorem early_end (ext : SLExtInfo) (early : Early ext) (endTime : NsTime)
    (later : ext.dbRecords ≠ [] → endTime ≠ NsTime.unset → endTime = ext.endTime ∨
      ext.dbQueryEndTime ≠ NsTime.unset ∧ ext.dbQueryEndTime.value ≤ endTime.value) (startTime : NsTime) :
    Early { ext with startTime := startTime, endTime := endTime } := by
  refine ⟨fun queued set => ?_, early.records⟩
  cases later queued set with
  | inl same =>
      cases same
      exact early.ends queued set
  | inr both => exact both

section

variable (g : Geometry) (journal : Journal) (ring : RingParams) (keeps : Keeps g ring journal) (around : Surroundings)
  (bounded : Bounded around) (fuel : Nat) (session : Session) (windowed : Windowed g journal session)

include keeps bounded windowed

theorem handle_time_windowed (parts : List Text) (time : ∀ word arguments, parts = word :: arguments →
    toUpperInvariant word = "TIME".toList)
    (permits : KeepsWindow session parts) (outcome : Outcome) (ran : handleTime around fuel ring session parts = some outcome) :
    Windowed g journal outcome.session := by
  rw [handleTime.eq_def] at ran
  split at ran
  · rename_i word startStr behind
    dsimp only at ran
    by_cases bad : parseSeedLinkTime startStr = NsTime.error ∨ behind.head?.elim NsTime.unset parseSeedLinkTime = NsTime.error
    · rw [if_pos bad] at ran
      rw [← Option.some.inj ran]
      exact windowed
    rw [if_neg bad] at ran
    have named (queued : session.ext.dbRecords ≠ []) (set : behind.head?.elim NsTime.unset parseSeedLinkTime ≠ NsTime.unset) :
        session.ext.dbQueryEndTime ≠ NsTime.unset ∧
          session.ext.dbQueryEndTime.value ≤ (behind.head?.elim NsTime.unset parseSeedLinkTime).value := by
      cases behind with
      | nil => exact absurd rfl set
      | cons endStr behind =>
          exact permits queued word startStr endStr behind rfl (time word _ rfl) (fun error => bad (Or.inr error)) set
    by_cases mode : session.ext.inStationMode = true
    · rw [if_pos mode] at ran
      rw [← Option.some.inj ran]
      refine ⟨windowed.placed, early_end session.ext windowed.early _ (fun queued set => ?_) _, windowed.waiting⟩
      split
      · rename_i requested
        exact Or.inr (named queued requested)
      · rename_i unnamed
        rw [if_neg unnamed] at set
        split at set
        · exact absurd rfl set
        · rename_i stays
          exact Or.inl (if_neg stays)
    rw [if_neg mode, Option.bind_eq_bind, Option.bind_eq_some_iff] at ran
    obtain ⟨moved, ranAfter, ran⟩ := ran
    rw [← Option.some.inj ran]
    have sought := after_kept g ring journal keeps fuel session.client.reader _ moved ranAfter
    refine ⟨(sought_placed g journal _ _ moved sought windowed.placed).1, ?_, fun streams => absurd rfl streams⟩
    refine pre_fetch_early around bounded _ (early_end session.ext windowed.early _ (fun queued set => ?_) _) [['%']]
    split
    · rename_i requested
      exact Or.inr (named queued requested)
    · exact Or.inl rfl
  · rw [← Option.some.inj ran]
    exact windowed

theorem handle_end_windowed (outcome : Outcome) (ran : handleEnd around fuel ring session = some outcome) :
    Windowed g journal outcome.session := by
  rw [handleEnd] at ran
  by_cases streams : session.client.state = .stream
  · rw [if_pos streams] at ran
    rw [← Option.some.inj ran]
    exact windowed
  rw [if_neg streams] at ran
  simp only [Option.bind_eq_bind, Option.bind_eq_some_iff, Option.some.injEq] at ran
  obtain ⟨⟨found, positioned⟩, ranId, moved, ranTime, rfl⟩ := ran
  have byId := (position_by_id_startable g journal fuel ring keeps session.client.reader found positioned ranId windowed.placed).1
  have byTime := (position_by_time_startable g journal fuel ring keeps session.ext found moved positioned ranTime byId).1
  have sameOffset := (match_stations_place around session.ext moved).1
  refine ⟨placed_offset g journal _ _ ((next_for_none_offset _).trans sameOffset) byTime, ?_, fun waits => absurd rfl waits⟩
  exact end_archive_early around bounded _ session.ext windowed.early

omit keeps bounded in
theorem touched_windowed (new : Session) (touched : Touched session new) : Windowed g journal new := by
  have same := touched_same_place session new touched
  obtain ⟨-, currentStation, inStationMode, selectedStations, protoMajor, protoMinor, isExt⟩ := touched
  refine ⟨placed_offset g journal _ _ same.pktOffset windowed.placed, ?_, fun waits => ?_⟩
  · rw [isExt]
    exact ⟨windowed.early.ends, windowed.early.records⟩
  · exact same.dbRecords.trans (windowed.waiting fun streams => waits (same.state.trans streams))

omit keeps bounded in
theorem named_windowed (pktId : UInt64) : Windowed g journal (session.withReader { session.client.reader with pktId := pktId }) :=
  ⟨windowed.placed, windowed.early, windowed.waiting⟩

omit keeps bounded in
theorem streaming_windowed : Windowed g journal session.streaming :=
  ⟨windowed.placed, windowed.early, fun waits => absurd rfl waits⟩

theorem handle_command_windowed (line : List UInt8) (permits : KeepsWindow session (splitWords (commandText line))) (outcome : Outcome)
    (ran : handleCommand around fuel ring session line = some outcome) : Windowed g journal outcome.session := by
  rw [handleCommand.eq_def] at ran
  cases words : splitWords (commandText line) with
  | nil =>
      rw [words] at ran
      rw [← Option.some.inj ran]
      exact windowed
  | cons word arguments =>
      rw [words] at ran permits
      dsimp only at ran
      by_cases data : toUpperInvariant word = "DATA".toList ∨ toUpperInvariant word = "FETCH".toList
      · rw [if_pos data] at ran
        rw [← Option.some.inj ran, handleData]
        dsimp only
        have named := named_windowed g journal session windowed (dataPktId session.ext.protoMajor ring (word :: arguments)[1]?)
        split
        · exact named
        · exact streaming_windowed g journal _ named
      rw [if_neg data] at ran
      by_cases time : toUpperInvariant word = "TIME".toList
      · rw [if_pos time] at ran
        refine handle_time_windowed g journal ring keeps around bounded fuel session windowed _ (fun first behind same => ?_) permits
          outcome ran
        rw [← (List.cons.inj same).1]
        exact time
      rw [if_neg time] at ran
      by_cases stream : toUpperInvariant word = "STREAM".toList
      · rw [if_pos stream] at ran
        rw [← Option.some.inj ran]
        exact streaming_windowed g journal _ (named_windowed g journal session windowed Constants.ringIdEarliest)
      rw [if_neg stream] at ran
      by_cases done : toUpperInvariant word = "END".toList ∨ toUpperInvariant word = "ENDFETCH".toList
      · rw [if_pos done] at ran
        exact handle_end_windowed g journal ring keeps around bounded fuel session windowed outcome ran
      · rw [if_neg done] at ran
        exact touched_windowed g journal session windowed outcome.session (handle_request_touched around ring session _ _ _ outcome ran)

omit windowed in
theorem db_queue_windowed (streams : session.client.state = .stream) (placed : Placed g journal session.client.reader)
    (drained : session.ext.dbRecords = []) (ends : EndsEarly session.ext) (next : Session)
    (ran : handleDbQueueExhausted around fuel ring session = some next) :
    Windowed g journal next ∧ next.ext.endTime = session.ext.endTime ∧ next.client.state = .stream := by
  rcases db_queue_cases around fuel ring session next ran with ⟨record, records, answer, rfl⟩ | ⟨result, ranAfter, rfl⟩
  · rw [nextBatch, Option.bind_eq_bind, Option.bind_eq_some_iff] at answer
    obtain ⟨archive, isArchive, asked⟩ := answer
    refine ⟨⟨placed, ⟨fun _ => ends, fun set other member => ?_⟩, fun waits => absurd streams waits⟩, rfl, streams⟩
    split at asked
    · exact bounded.next archive isArchive _ _ _ _ _ _ _ asked set other member
    · cases asked
  · have sought := after_kept g ring journal keeps fuel session.client.reader _ result ranAfter
    by_cases found : result.1 ≠ Constants.ringIdNone ∧ result.1 ≠ Constants.ringIdError
    · rw [repositioned, if_pos found]
      exact ⟨⟨(sought_placed g journal _ _ result sought placed).1, early_drained _ drained, fun _ => drained⟩, rfl, streams⟩
    · rw [repositioned, if_neg found]
      have negative : (-1 : Int64) < 0 := by decide
      generalize Constants.ringIdNext = pktId
      exact ⟨⟨Or.inl negative, early_drained _ drained, fun _ => drained⟩, rfl, streams⟩

omit windowed in
theorem send_records_windowed (rounds : Nat) (session : Session) (streams : session.client.state = .stream)
    (windowed : Windowed g journal session) (total : Nat) (sent : List (List UInt8)) (outcome : Outcome)
    (ran : sendRecords around fuel ring rounds session total sent = some outcome) :
    Windowed g journal outcome.session ∧
      (session.ext.endTime ≠ NsTime.unset →
        ∀ record ∈ burst around fuel ring rounds session, record.startTime.value ≤ session.ext.endTime.value) ∧
      outcome.sent.length = sent.length + (burst around fuel ring rounds session).length := by
  induction rounds generalizing session total sent with
  | zero =>
      rw [← Option.some.inj ran]
      exact ⟨windowed, fun _ _ none => absurd none List.not_mem_nil, rfl⟩
  | succ rounds ih =>
      cases send_records_cases around fuel ring rounds session total sent outcome ran with
      | drained empty isOutcome =>
          rw [burst_drained around fuel ring (rounds + 1) session empty, isOutcome]
          exact ⟨windowed, fun _ _ none => absurd none List.not_mem_nil, rfl⟩
      | stopped record records queue empty isOutcome =>
          rw [burst_stopped around fuel ring (rounds + 1) session record records queue empty, isOutcome]
          refine ⟨⟨windowed.placed, ⟨fun _ => ?_, fun set other member => ?_⟩, fun waits => absurd streams waits⟩,
            fun _ _ none => absurd none List.not_mem_nil, rfl⟩
          · exact windowed.early.ends (queue ▸ List.cons_ne_nil record records)
          · exact windowed.early.records set other (queue ▸ List.mem_cons_of_mem record member)
      | sent record records frame next queue bytes moved rest =>
          have ends : EndsEarly session.ext := windowed.early.ends (queue ▸ List.cons_ne_nil record records)
          have first (set : session.ext.endTime ≠ NsTime.unset) : record.startTime.value ≤ session.ext.endTime.value :=
            early_within session.ext windowed.early set record (queue ▸ List.mem_cons_self)
          have moved' : Windowed g journal next ∧ next.ext.endTime = session.ext.endTime ∧ next.client.state = .stream := by
            by_cases last : records.isEmpty = true
            · rw [if_pos last] at moved
              exact db_queue_windowed g journal ring keeps around bounded fuel (dequeued session record records) streams windowed.placed
                (List.isEmpty_iff.mp last) ends next moved
            · rw [if_neg last] at moved
              cases moved
              refine ⟨⟨windowed.placed, ⟨fun _ => ends, fun set other member => ?_⟩, fun waits => absurd streams waits⟩, rfl, streams⟩
              exact windowed.early.records set other (queue ▸ List.mem_cons_of_mem record member)
          obtain ⟨final, within, lengths⟩ := ih next moved'.2.2 moved'.1 _ _ rest
          rw [burst_sent around fuel ring rounds session next record records queue bytes moved]
          refine ⟨final, fun set other member => ?_, ?_⟩
          · cases List.mem_cons.mp member with
            | inl same => exact same ▸ first set
            | inr behind => exact moved'.2.1 ▸ within (moved'.2.1 ▸ set) other behind
          · rw [lengths, List.length_append, List.length_singleton, List.length_cons]
            omega

omit bounded windowed in
theorem stream_packet_windowed (placed : Placed g journal session.client.reader) (drained : session.ext.dbRecords = []) (outcome : Outcome)
    (ran : streamPacket around fuel ring session = some outcome) :
    Placed g journal outcome.session.client.reader ∧ outcome.session.ext.dbRecords = [] ∧
      outcome.sent.length ≤ (handed fuel ring session).toList.length ∧
      ∀ packet, handed fuel ring session = some packet →
        ∃ i, journal.Upcoming g session.client.reader i ∧ packet.dataStart = (journal.packet i).dataStart := by
  simp only [streamPacket, Option.bind_eq_bind, Option.bind_eq_some_iff] at ran
  obtain ⟨⟨packet, packetData⟩, isCached, reading, isReading, ran⟩ := ran
  have moved := (read_next_kept g ring journal keeps packet _ fuel session.client.reader reading placed isReading).2.1
  have comes := read_next_comes g ring journal keeps packet _ fuel session.client.reader reading placed isReading
  have isHanded : handed fuel ring session =
      if reading.code = Constants.ringIdError ∨ reading.code = Constants.ringIdNone then none else some reading.packet := by
    simp only [handed, isCached, isReading, Option.bind_eq_bind, Option.bind_some]
  by_cases isError : reading.code = Constants.ringIdError
  · rw [if_pos (Or.inl isError)] at isHanded
    rw [if_pos isError] at ran
    rw [← Option.some.inj ran, isHanded]
    exact ⟨moved, drained, Nat.le_refl 0, fun other isOther => absurd isOther (Option.some_ne_none other).symm⟩
  rw [if_neg isError] at ran
  by_cases isNone : reading.code = Constants.ringIdNone
  · rw [if_pos (Or.inr isNone)] at isHanded
    rw [if_pos isNone] at ran
    rw [← Option.some.inj ran, isHanded]
    exact ⟨moved, drained, Nat.le_refl 0, fun other isOther => absurd isOther (Option.some_ne_none other).symm⟩
  rw [if_neg isNone] at ran
  rw [if_neg (not_or.mpr ⟨isError, isNone⟩)] at isHanded
  obtain ⟨i, upcoming, isPacket⟩ := comes.resolve_left (not_or.mpr ⟨isNone, isError⟩)
  have ahead (other : RingPacket) (isOther : handed fuel ring session = some other) :
      ∃ i, journal.Upcoming g session.client.reader i ∧ other.dataStart = (journal.packet i).dataStart := by
    rw [isHanded] at isOther
    cases isOther
    exact ⟨i, upcoming, by rw [isPacket.fields]⟩
  by_cases empty : reading.packet.dataSize = 0
  · rw [if_pos empty] at ran
    rw [← Option.some.inj ran]
    exact ⟨moved, drained, Nat.zero_le _, ahead⟩
  rw [if_neg empty] at ran
  dsimp only at ran
  split at ran
  · rw [← Option.some.inj ran]
    exact ⟨moved, drained, Nat.zero_le _, ahead⟩
  · rw [← Option.some.inj ran]
    refine ⟨moved, drained, ?_, ahead⟩
    rw [isHanded]
    exact Nat.le_refl 1

theorem stream_packets_windowed (within : NextWithin g journal session) (outcome : Outcome)
    (ran : streamPackets around fuel ring session = some outcome) :
    Windowed g journal outcome.session ∧ outcome.sent.length ≤ (came around fuel ring session).length ∧
      (session.ext.endTime ≠ NsTime.unset →
        ∀ start ∈ came around fuel ring session, start.value ≤ session.ext.endTime.value) := by
  rw [streamPackets] at ran
  rw [came]
  by_cases streams : session.client.state = .stream
  · rw [if_pos streams] at ran
    rw [if_neg (not_not.mpr streams)]
    by_cases drained : session.ext.dbRecords = []
    · rw [drained, List.isEmpty_nil, if_pos rfl] at ran
      rw [drained, List.isEmpty_nil, if_pos rfl]
      obtain ⟨moved, left, lengths, ahead⟩ :=
        stream_packet_windowed g journal ring keeps around fuel session windowed.placed drained outcome ran
      refine ⟨⟨moved, early_drained _ left, fun _ => left⟩, ?_, fun set start member => ?_⟩
      · rw [Option.toList_map, List.length_map]
        exact lengths
      · obtain ⟨packet, isPacket, rfl⟩ := Option.mem_map.mp (Option.mem_toList.mp member)
        obtain ⟨i, upcoming, same⟩ := ahead packet isPacket
        rw [same]
        exact within drained set i upcoming
    · have queued : ¬ session.ext.dbRecords.isEmpty = true := fun empty => drained (List.isEmpty_iff.mp empty)
      rw [if_neg queued] at ran
      rw [if_neg queued]
      obtain ⟨final, early, lengths⟩ := send_records_windowed g journal ring keeps around bounded fuel dbBurstLimit session streams
        windowed 0 [] outcome ran
      refine ⟨final, ?_, fun set start member => ?_⟩
      · rw [lengths, List.length_map, List.length_nil, Nat.zero_add]
      · obtain ⟨record, isRecord, rfl⟩ := List.mem_map.mp member
        exact early set record isRecord
  · rw [if_neg streams] at ran
    rw [if_pos streams, ← Option.some.inj ran]
    exact ⟨windowed, Nat.le_refl 0, fun _ _ none => absurd none List.not_mem_nil⟩

end

theorem windowing_windowed (g : Geometry) (journal : Journal) (ring : RingParams) (session : Session) (turns : List Turn)
    (run : Windowing g (NextWithin g) KeepsWindow journal ring session turns) :
    Keeps g ring journal ∧ Windowed g journal session ∧ ∀ turn ∈ turns, turn.outcome.sent.length ≤ turn.starts.length ∧
      (turn.endTime ≠ NsTime.unset → ∀ start ∈ turn.starts, start.value ≤ turn.endTime.value) := by
  induction run with
  | opened journal ring keeps client unset =>
      refine ⟨keeps, ⟨Or.inl ?_, early_drained _ rfl, fun _ => rfl⟩, fun _ none => absurd none List.not_mem_nil⟩
      show client.reader.pktOffset < 0
      rw [unset]
      decide
  | written journal ring session turns before request fits next packet wrote ih =>
      obtain ⟨keeps, windowed, all⟩ := ih
      obtain ⟨ring', stored, _, kept⟩ := write_keeps g ring journal keeps request fits
      have same : ring' = next := congrArg (·.2.1) (Option.some.inj (stored.symm.trans wrote))
      refine ⟨same ▸ kept, ⟨?_, windowed.early, windowed.waiting⟩, all⟩
      exact windowed.placed.imp_right fun placed =>
        placed.elim fun i both => ⟨i, Nat.lt_succ_of_lt both.1, both.2⟩
  | commanded journal ring session turns before around bounded fuel line permits outcome ran ih =>
      obtain ⟨keeps, windowed, all⟩ := ih
      exact ⟨keeps, handle_command_windowed g journal ring keeps around bounded fuel session windowed line permits outcome ran, all⟩
  | streamed journal ring session turns before around bounded fuel meets outcome ran ih =>
      obtain ⟨keeps, windowed, all⟩ := ih
      obtain ⟨final, lengths, within⟩ :=
        stream_packets_windowed g journal ring keeps around bounded fuel session windowed meets outcome ran
      refine ⟨keeps, final, fun turn member => ?_⟩
      cases List.mem_append.mp member with
      | inl old => exact all turn old
      | inr new =>
          rw [List.mem_singleton.mp new]
          exact ⟨lengths, within⟩

theorem end_time_obeyed (g : Geometry) (journal : Journal) (ring : RingParams) (session : Session) (turns : List Turn)
    (run : Windowing g (NextWithin g) KeepsWindow journal ring session turns) (turn : Turn) (member : turn ∈ turns)
    (requested : turn.endTime ≠ NsTime.unset) : Obeys turn ∧ turn.outcome.sent.length ≤ turn.starts.length := by
  obtain ⟨lengths, within⟩ := (windowing_windowed g journal ring session turns run).2.2 turn member
  refine ⟨⟨fun _ => within requested, fun start isStart late => ?_⟩, lengths⟩
  exact absurd (Int64.lt_of_lt_of_le late (within requested start isStart)) Int64.lt_irrefl

def ms3At (clock : NsTime) : Request :=
  ⟨clock, ⟨0, Constants.ringIdNone, clock, -1, ['B'], clock, clock, 15⟩, [77, 83, 3, 0, 0, 0, 0, 0, 0, 0, 0, 0, 0, 0, 0], 15⟩

def firstDay : List UInt8 := encodeASCII "TIME 1970,1,1 1970,1,2".toList

def dayTurn (clock : NsTime) : Option (RingParams × Session × Turn) := do
  let (ring, _) ← writeAll threeSlotRing [ms3At clock, ms3At clock]
  let timed ← handleCommand quiet 4 ring fresh firstDay
  let outcome ← streamPackets quiet 4 ring timed.session
  some (ring, timed.session, ⟨timed.session.ext.endTime, came quiet 4 ring timed.session, outcome⟩)

def dayJournal (clock : NsTime) : Journal := (Journal.empty.record threeSlots (ms3At clock)).record threeSlots (ms3At clock)

theorem quiet_bounded : Bounded quiet := ⟨fun _ isArchive => absurd isArchive.symm (Option.some_ne_none _),
  fun _ isArchive => absurd isArchive.symm (Option.some_ne_none _)⟩

theorem ms3_at_fits (ring : RingParams) (pktSize : ring.pktSize = 128) (clock : NsTime) : Fits ring (ms3At clock) := by
  refine ⟨?_, ?_⟩
  · rw [pktSize]
    show ¬ (112 + 15 : UInt32) > 128
    decide
  · show (15 : UInt32).toNat < 2 ^ 31
    decide

theorem day_windowing (allowed : Journal → Session → Prop) (heard : Session → List Text → Prop)
    (permits : heard fresh (splitWords (commandText firstDay))) (clock : NsTime) (ring : RingParams) (session : Session) (turn : Turn)
    (ran : dayTurn clock = some (ring, session, turn)) (meets : allowed (dayJournal clock) session) :
    Windowing threeSlots allowed heard (dayJournal clock) ring turn.outcome.session [turn] := by
  simp only [dayTurn, Option.bind_eq_bind, Option.bind_eq_some_iff, Option.some.injEq, Prod.mk.injEq] at ran
  obtain ⟨⟨ring', packets⟩, wrote, timed, ranTime, outcome, streamed, rfl, rfl, rfl⟩ := ran
  have keeps := fresh_keeps threeSlots threeSlotRing three_slots_fresh
  obtain ⟨one, first, setup, keeps'⟩ := write_keeps threeSlots threeSlotRing _ keeps (ms3At clock) (ms3_at_fits _ rfl clock)
  have fits := ms3_at_fits one setup.pktSize clock
  obtain ⟨two, second, _, _⟩ := write_keeps threeSlots one _ keeps' (ms3At clock) fits
  have same : two = ring' := by
    simp only [writeAll, first, second, Option.map_some, Option.some.injEq] at wrote
    exact congrArg Prod.fst wrote
  cases same
  have opened : Windowing threeSlots allowed heard Journal.empty threeSlotRing fresh [] := .opened _ _ keeps _ rfl
  have written : Windowing threeSlots allowed heard (dayJournal clock) ring' fresh [] :=
    .written _ _ _ _ (.written _ _ _ _ opened _ (ms3_at_fits _ rfl clock) one _ first) _ fits ring' _ second
  exact .streamed _ _ _ _ (.commanded _ _ _ _ written quiet quiet_bounded 4 firstDay permits timed ranTime) quiet quiet_bounded 4 meets
    outcome streamed

theorem first_day_obeyed : ∃ ring session turn, dayTurn ⟨5⟩ = some (ring, session, turn) ∧ Obeys turn ∧
    turn.outcome.sent.length ≤ turn.starts.length := by
  have computed : (dayTurn ⟨5⟩).map (fun result => (result.2.1.ext.endTime.value, result.2.2.endTime.value)) =
      some (86400000000000, 86400000000000) := by
    decide +kernel
  obtain ⟨⟨ring, session, turn⟩, ran, same⟩ := Option.map_eq_some_iff.mp computed
  obtain ⟨requested, endTime⟩ := Prod.mk.inj same
  refine ⟨ring, session, turn, ran, end_time_obeyed threeSlots _ ring _ [turn] (day_windowing (NextWithin threeSlots) KeepsWindow
    (fun queued => absurd rfl queued) ⟨5⟩ ring session turn ran ?_) turn List.mem_cons_self fun unset => ?_⟩
  · intro _ _ i upcoming
    obtain ⟨s, _, _, comes⟩ := upcoming
    obtain ⟨_, below, _⟩ := (first_in_some _ _ _ i).mp comes
    have start : ((dayJournal ⟨5⟩).packet i).dataStart.value = 5 := by
      have either : i = 0 ∨ i = 1 := by
        have two : i < 2 := below
        omega
      rcases either with rfl | rfl
      · rfl
      · rfl
    rw [start, show session.ext.endTime.value = 86400000000000 from requested]
    decide
  · have value : turn.endTime.value = NsTime.unset.value := congrArg NsTime.value unset
    rw [show turn.endTime.value = 86400000000000 from endTime] at value
    exact absurd value (by decide)

-- A packet of the year 2001 is sent to a client that asked for the first day of 1970.
theorem late_packet_sent : ∃ ring session turn, dayTurn ⟨1000000000000000000⟩ = some (ring, session, turn) ∧
    Windowing threeSlots (fun _ _ => True) (fun _ _ => True) (dayJournal ⟨1000000000000000000⟩) ring turn.outcome.session [turn] ∧
    turn.endTime.value = 86400000000000 ∧ turn.starts = [⟨1000000000000000000⟩] ∧ turn.outcome.sent.length = 1 ∧
    turn.outcome.code = 23 ∧ ¬ Obeys turn := by
  have computed : (dayTurn ⟨1000000000000000000⟩).map (fun result => (result.2.2.endTime.value, result.2.2.starts.map (·.value),
      result.2.2.outcome.sent.length, result.2.2.outcome.code)) = some (86400000000000, [1000000000000000000], 1, 23) := by decide +kernel
  obtain ⟨⟨ring, session, turn⟩, ran, same⟩ := Option.map_eq_some_iff.mp computed
  simp only [Prod.mk.injEq] at same
  obtain ⟨endTime, starts, sent, code⟩ := same
  obtain ⟨⟨start⟩, isStarts, isStart⟩ := List.map_eq_singleton_iff.mp starts
  cases isStart
  refine ⟨ring, session, turn, ran, day_windowing _ _ trivial _ ring session turn ran trivial, endTime, isStarts, sent, code, fun obeys =>
    ?_⟩
  have within := obeys.sends (List.ne_nil_of_length_eq_add_one sent) _ (isStarts ▸ List.mem_cons_self)
  rw [endTime] at within
  exact absurd within (by decide)

end RingServer.SeedLink
