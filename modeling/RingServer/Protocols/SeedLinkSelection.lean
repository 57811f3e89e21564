import RingServer.Protocols.SeedLinkWindow
import RingServer.Protocols.StreamRegex

set_option autoImplicit false

namespace RingServer.SeedLink

open Library

def stationOf (line : List UInt8) : Option Text :=
  match splitWords (commandText line) with
  | word :: sta :: behind => if toUpperInvariant word = "STATION".toList then some (behind.head?.getD ['*'] ++ '_' :: sta) else none
  | _ => none

def NamesMatch (line : List UInt8) : Prop :=
  ∃ word behind, splitWords (commandText line) = word :: behind ∧ toUpperInvariant word = "MATCH".toList

def enlist (stations : List Text) : Option Text → List Text
  | some staid => if stations.contains staid then stations else stations ++ [staid]
  | none => stations

-- A session on its way to END. Nothing is streamed yet, and the ring and all that is
-- around the session but the regular expressions may change from line to line.
inductive Selecting (engine : Engine) : Session → List Text → Prop where
  | opened (client : ClientInfo) (waits : client.state ≠ .stream) : Selecting engine ⟨client, newExtInfo⟩ []
  | answered (session : Session) (stations : List Text) (before : Selecting engine session stations) (around : Surroundings)
      (same : around.engine = engine) (fuel : Nat) (ring : RingParams) (line : List UInt8) (outcome : Outcome)
      (ran : handleCommand around fuel ring session line = some outcome) (waits : outcome.session.client.state ≠ .stream) :
      Selecting engine outcome.session (stations ++ (stationOf line).toList)

-- A session that streams, with the packets of the ring that StreamPackets has got since
-- its start. No line is MATCH.
inductive Streaming (start : Session) : Session → List RingPacket → Prop where
  | started : Streaming start start []
  | answered (session : Session) (packets : List RingPacket) (before : Streaming start session packets) (around : Surroundings)
      (fuel : Nat) (ring : RingParams) (line : List UInt8) (other : ¬ NamesMatch line) (outcome : Outcome)
      (ran : handleCommand around fuel ring session line = some outcome) : Streaming start outcome.session packets
  | streamed (session : Session) (packets : List RingPacket) (before : Streaming start session packets) (around : Surroundings)
      (fuel : Nat) (ring : RingParams) (outcome : Outcome) (ran : streamPackets around fuel ring session = some outcome) :
      Streaming start outcome.session (packets ++ if session.ext.dbRecords.isEmpty then (handed fuel ring session).toList else [])

inductive Answer (around : Surroundings) (fuel : Nat) (ring : RingParams) (session : Session) (line : List UInt8) (outcome : Outcome) :
    Prop where
  | blank (words : splitWords (commandText line) = []) (same : outcome = silent session)
  | data (word : Text) (behind : List Text) (words : splitWords (commandText line) = word :: behind)
      (isData : toUpperInvariant word = "DATA".toList ∨ toUpperInvariant word = "FETCH".toList)
      (same : outcome = handleData ring session (word :: behind))
  | time (word : Text) (behind : List Text) (words : splitWords (commandText line) = word :: behind)
      (isTime : toUpperInvariant word = "TIME".toList) (ran : handleTime around fuel ring session (word :: behind) = some outcome)
  | stream (word : Text) (behind : List Text) (words : splitWords (commandText line) = word :: behind)
      (isStream : toUpperInvariant word = "STREAM".toList) (same : outcome = sendResponse (session.withReader
        { session.client.reader with pktId := Constants.ringIdEarliest }).streaming "OK".toList)
  | ends (word : Text) (behind : List Text) (words : splitWords (commandText line) = word :: behind)
      (isEnd : toUpperInvariant word = "END".toList ∨ toUpperInvariant word = "ENDFETCH".toList)
      (ran : handleEnd around fuel ring session = some outcome)
  | request (word : Text) (behind : List Text) (words : splitWords (commandText line) = word :: behind)
      (noEnd : ¬ (toUpperInvariant word = "END".toList ∨ toUpperInvariant word = "ENDFETCH".toList))
      (ran : handleRequest around ring session (commandText line) (toUpperInvariant word) (word :: behind) = some outcome)

inductive Reply (around : Surroundings) (session : Session) (cmd command : Text) (parts : List Text) (outcome : Outcome) : Prop where
  | same (isSession : outcome.session = session)
  | protocol (major minor : Int)
      (isSession : outcome.session = session.withExt { session.ext with protoMajor := major, protoMinor := minor })
  | station (isStation : command = "STATION".toList) (same : outcome = handleStation around session parts)
  | select (isSelect : command = "SELECT".toList) (same : outcome = handleSelect around session cmd)
  | pattern (matching reject limit : Option (Text → Bool))
      (keeps : command ≠ "MATCH".toList → matching = session.client.reader.matching)
      (isSession : outcome.session = session.withReader
        { session.client.reader with matching := matching, reject := reject, limit := limit })

theorem answer_cases (around : Surroundings) (fuel : Nat) (ring : RingParams) (session : Session) (line : List UInt8) (outcome : Outcome)
    (ran : handleCommand around fuel ring session line = some outcome) : Answer around fuel ring session line outcome := by
  rw [handleCommand.eq_def] at ran
  cases words : splitWords (commandText line) with
  | nil =>
      rw [words] at ran
      exact .blank words (Option.some.inj ran).symm
  | cons word behind =>
      rw [words] at ran
      dsimp only at ran
      by_cases isData : toUpperInvariant word = "DATA".toList ∨ toUpperInvariant word = "FETCH".toList
      · rw [if_pos isData] at ran
        exact .data word behind words isData (Option.some.inj ran).symm
      rw [if_neg isData] at ran
      by_cases isTime : toUpperInvariant word = "TIME".toList
      · rw [if_pos isTime] at ran
        exact .time word behind words isTime ran
      rw [if_neg isTime] at ran
      by_cases isStream : toUpperInvariant word = "STREAM".toList
      · rw [if_pos isStream] at ran
        exact .stream word behind words isStream (Option.some.inj ran).symm
      rw [if_neg isStream] at ran
      by_cases isEnd : toUpperInvariant word = "END".toList ∨ toUpperInvariant word = "ENDFETCH".toList
      · rw [if_pos isEnd] at ran
        exact .ends word behind words isEnd ran
      · rw [if_neg isEnd] at ran
        exact .request word behind words isEnd ran

section

variable (around : Surroundings) (session : Session)

theorem handle_pattern_reply (set : RingReader → Option (Text → Bool) → RingReader) (cmd command : Text) (parts : List Text)
    (sets : ∀ reader code, ∃ matching reject limit, (command ≠ "MATCH".toList → matching = reader.matching) ∧
      set reader code = { reader with matching := matching, reject := reject, limit := limit }) :
    Reply around session cmd command parts (handlePattern set around session cmd) := by
  rw [handlePattern]
  cases argument cmd with
  | none => exact .same rfl
  | some pattern =>
      obtain ⟨matching, reject, limit, keeps, isSet⟩ := sets session.client.reader (RingBuffer.updatePattern around.engine pattern).2
      exact .pattern matching reject limit keeps (congrArg session.withReader isSet)

theorem handle_sl_proto_reply (cmd command : Text) (parts : List Text) :
    Reply around session cmd command parts (handleSlProto session parts) := by
  rw [handleSlProto]
  dsimp only
  split
  · split
    · exact .protocol _ _ rfl
    · exact .same rfl
  · exact .same rfl

theorem reply_cases (ring : RingParams) (cmd command : Text) (parts : List Text) (outcome : Outcome)
    (ran : handleRequest around ring session cmd command parts = some outcome) : Reply around session cmd command parts outcome := by
  rw [handleRequest] at ran
  by_cases hello : command = "HELLO".toList ∨ command = "ID".toList
  · rw [if_pos hello] at ran
    cases ran
    exact .same rfl
  rw [if_neg hello] at ran
  by_cases info : command = "INFO".toList
  · rw [if_pos info] at ran
    exact .same (handle_info_touched around ring session parts outcome ran)
  rw [if_neg info] at ran
  by_cases cat : command = "CAT".toList
  · rw [if_pos cat] at ran
    exact .same (send_catalog_touched around ring session outcome ran)
  rw [if_neg cat] at ran
  by_cases accepted : command = "CAPABILITIES".toList ∨ command = "USERAGENT".toList ∨ command = "BATCH".toList
  · rw [if_pos accepted] at ran
    cases ran
    exact .same rfl
  rw [if_neg accepted] at ran
  by_cases slproto : command = "SLPROTO".toList
  · rw [if_pos slproto] at ran
    cases ran
    exact handle_sl_proto_reply around session cmd command parts
  rw [if_neg slproto] at ran
  by_cases station : command = "STATION".toList
  · rw [if_pos station] at ran
    exact .station station (Option.some.inj ran).symm
  rw [if_neg station] at ran
  by_cases select : command = "SELECT".toList
  · rw [if_pos select] at ran
    exact .select select (Option.some.inj ran).symm
  rw [if_neg select] at ran
  by_cases matching : command = "MATCH".toList ∧ 1 < parts.length
  · rw [if_pos matching] at ran
    cases ran
    exact handle_pattern_reply around session (fun reader code => { reader with matching := code }) cmd command parts
      fun _ _ => ⟨_, _, _, fun other => absurd matching.1 other, rfl⟩
  rw [if_neg matching] at ran
  by_cases reject : command = "REJECT".toList ∧ 1 < parts.length
  · rw [if_pos reject] at ran
    cases ran
    exact handle_pattern_reply around session (fun reader code => { reader with reject := code }) cmd command parts
      fun _ _ => ⟨_, _, _, fun _ => rfl, rfl⟩
  rw [if_neg reject] at ran
  by_cases limit : command = "LINT".toList ∧ 1 < parts.length
  · rw [if_pos limit] at ran
    cases ran
    exact handle_pattern_reply around session (fun reader code => { reader with limit := code }) cmd command parts
      fun _ _ => ⟨_, _, _, fun _ => rfl, rfl⟩
  rw [if_neg limit] at ran
  by_cases bye : command = "BYE".toList
  · rw [if_pos bye] at ran
    cases ran
    exact .same rfl
  · rw [if_neg bye] at ran
    cases ran
    exact .same rfl

theorem request_station (ring : RingParams) (cmd : Text) (parts : List Text) :
    handleRequest around ring session cmd "STATION".toList parts = some (handleStation around session parts) := by
  rw [handleRequest, if_neg (by decide), if_neg (by decide), if_neg (by decide), if_neg (by decide), if_neg (by decide), if_pos rfl]

theorem request_select (ring : RingParams) (cmd : Text) (parts : List Text) :
    handleRequest around ring session cmd "SELECT".toList parts = some (handleSelect around session cmd) := by
  rw [handleRequest, if_neg (by decide), if_neg (by decide), if_neg (by decide), if_neg (by decide), if_neg (by decide),
    if_neg (by decide), if_pos rfl]

theorem handle_select_kept (cmd : Text) : (handleSelect around session cmd).session.ext = session.ext ∧
    (handleSelect around session cmd).session.client.state = session.client.state ∧
    (session.client.state = .stream → (handleSelect around session cmd).session.client.reader = session.client.reader) := by
  rw [handleSelect]
  cases argument cmd with
  | none => exact ⟨rfl, rfl, fun _ => rfl⟩
  | some selector =>
      dsimp only
      by_cases empty : selector.isEmpty = true
      · rw [if_pos empty]
        exact ⟨rfl, rfl, fun _ => rfl⟩
      rw [if_neg empty]
      cases convertV3Selector selector with
      | none => exact ⟨rfl, rfl, fun _ => rfl⟩
      | some converted => exact ⟨rfl, rfl, fun streams => if_pos streams⟩

theorem handle_station_kept (parts : List Text) (streams : session.client.state = .stream) :
    (handleStation around session parts).session.client = session.client := by
  rw [handleStation.eq_def]
  split
  · simp only [if_pos streams]
    rfl
  · rfl

variable (fuel : Nat) (ring : RingParams)

theorem pre_fetch_stations (ext : SLExtInfo) (streamIds : List Text) :
    (preFetch around ext streamIds).selectedStations = ext.selectedStations := by
  rw [preFetch]
  split
  · rfl
  · split <;> rfl

theorem end_archive_stations (pktId : UInt64) (ext : SLExtInfo) : (endArchive around pktId ext).selectedStations = ext.selectedStations := by
  rw [endArchive]
  by_cases auto : ext.startTime = NsTime.unset ∧ pktId = Constants.ringIdEarliest
  · simp only [if_pos auto]
    split
    · exact pre_fetch_stations around _ _
    · rfl
  · simp only [if_neg auto]
    split
    · exact pre_fetch_stations around _ _
    · rfl

theorem handle_time_kept (parts : List Text) (outcome : Outcome) (ran : handleTime around fuel ring session parts = some outcome) :
    outcome.session.ext.selectedStations = session.ext.selectedStations ∧
      (session.client.state = .stream → outcome.session.client.state = .stream) ∧
      outcome.session.client.reader.matching = session.client.reader.matching := by
  have unchanged (reply : Text) : (sendResponse session reply).session.ext.selectedStations = session.ext.selectedStations ∧
      (session.client.state = .stream → (sendResponse session reply).session.client.state = .stream) ∧
      (sendResponse session reply).session.client.reader.matching = session.client.reader.matching := ⟨rfl, id, rfl⟩
  rw [handleTime.eq_def] at ran
  split at ran
  · dsimp only at ran
    split at ran
    · cases ran
      exact unchanged _
    split at ran
    · cases ran
      exact ⟨rfl, id, rfl⟩
    · rw [Option.bind_eq_bind, Option.bind_eq_some_iff] at ran
      obtain ⟨moved, searched, ran⟩ := ran
      cases ran
      exact ⟨pre_fetch_stations around _ _, fun _ => rfl, (after_filters _ _ _ _ _ _ searched).matching⟩
  · cases ran
    exact unchanged _

theorem handle_end_kept (outcome : Outcome) (ran : handleEnd around fuel ring session = some outcome) :
    outcome.session.client.state = .stream ∧ outcome.session.ext.selectedStations = session.ext.selectedStations ∧
      (session.client.state = .stream → outcome.session = session) ∧
      (session.client.state ≠ .stream → session.ext.selectedStations ≠ [] → outcome.session.client.reader.matching =
        (RingBuffer.updatePattern around.engine (buildMultiStationRegex session.ext.selectedStations)).2) := by
  rw [handleEnd] at ran
  by_cases streams : session.client.state = .stream
  · rw [if_pos streams] at ran
    cases ran
    exact ⟨streams, rfl, fun _ => rfl, fun waits => absurd streams waits⟩
  rw [if_neg streams, Option.bind_eq_bind, Option.bind_eq_some_iff] at ran
  obtain ⟨⟨placed, positioned⟩, _, ran⟩ := ran
  rw [Option.bind_eq_bind, Option.bind_eq_some_iff] at ran
  obtain ⟨timed, _, ran⟩ := ran
  cases ran
  refine ⟨rfl, end_archive_stations around _ _, fun streaming => absurd streaming streams, fun _ stations => ?_⟩
  have some' : ¬ session.ext.selectedStations.isEmpty = true := fun empty => stations (List.isEmpty_iff.mp empty)
  have set : (matchStations around session.ext timed).matching =
      (RingBuffer.updatePattern around.engine (buildMultiStationRegex session.ext.selectedStations)).2 := by
    rw [matchStations, if_neg some', setMatch]
  rw [← set]
  change (nextForNone (matchStations around session.ext timed)).matching = _
  rw [nextForNone]
  split <;> rfl

theorem end_handled (line : List UInt8) (ends : EndsStations line) :
    handleCommand around fuel ring session line = handleEnd around fuel ring session := by
  obtain ⟨word, behind, words, isEnd⟩ := ends
  have other : toUpperInvariant word ≠ "DATA".toList ∧ toUpperInvariant word ≠ "FETCH".toList ∧
      toUpperInvariant word ≠ "TIME".toList ∧ toUpperInvariant word ≠ "STREAM".toList := by
    rcases isEnd with isEnd | isEnd <;> rw [isEnd] <;> decide
  rw [handleCommand.eq_def, words]
  dsimp only
  rw [if_neg (not_or.mpr ⟨other.1, other.2.1⟩), if_neg other.2.2.1, if_neg other.2.2.2, if_pos isEnd]

theorem station_of_other (line : List UInt8) (word : Text) (behind : List Text) (words : splitWords (commandText line) = word :: behind)
    (other : toUpperInvariant word ≠ "STATION".toList) : stationOf line = none := by
  rw [stationOf, words]
  cases behind with
  | nil => rfl
  | cons sta behind => exact if_neg other

theorem handle_data_kept (parts : List Text) :
    (handleData ring session parts).session.ext = session.ext ∧
      (session.client.state = .stream → (handleData ring session parts).session.client.state = .stream) ∧
      (handleData ring session parts).session.client.reader.matching = session.client.reader.matching := by
  rw [handleData]
  dsimp only
  split
  · exact ⟨rfl, id, rfl⟩
  · exact ⟨rfl, fun _ => rfl, rfl⟩

theorem command_stations (line : List UInt8) (outcome : Outcome) (ran : handleCommand around fuel ring session line = some outcome) :
    outcome.session.ext.selectedStations = enlist session.ext.selectedStations (stationOf line) := by
  cases answer_cases around fuel ring session line outcome ran with
  | blank words same =>
      rw [same, stationOf, words]
      rfl
  | data word behind words isData same =>
      rw [station_of_other line word behind words (by rcases isData with is | is <;> rw [is] <;> decide), same,
        (handle_data_kept session ring _).1]
      rfl
  | time word behind words isTime ran =>
      rw [station_of_other line word behind words (by rw [isTime]; decide)]
      exact (handle_time_kept around session fuel ring _ outcome ran).1
  | stream word behind words isStream same =>
      rw [station_of_other line word behind words (by rw [isStream]; decide), same]
      rfl
  | ends word behind words isEnd ran =>
      rw [station_of_other line word behind words (by rcases isEnd with is | is <;> rw [is] <;> decide)]
      exact (handle_end_kept around session fuel ring outcome ran).2.1
  | request word behind words _ ran =>
      by_cases station : toUpperInvariant word = "STATION".toList
      · have handled : outcome = handleStation around session (word :: behind) := by
          rw [station, request_station] at ran
          exact (Option.some.inj ran).symm
        rw [handled, stationOf, words]
        cases behind with
        | nil => rfl
        | cons sta behind =>
            dsimp only
            rw [if_pos station]
            exact if_congr List.contains_iff_mem.symm rfl rfl
      rw [station_of_other line word behind words station]
      cases reply_cases around session ring _ _ _ outcome ran with
      | same isSession => rw [isSession]; rfl
      | protocol major minor isSession => rw [isSession]; rfl
      | station isStation same => exact absurd isStation station
      | select isSelect same => rw [same, (handle_select_kept around session _).1]; rfl
      | pattern matching reject limit keeps isSession => rw [isSession]; rfl

theorem streamed_reply (reader : RingReader) (reply : Text) :
    (sendResponse (session.withReader reader).streaming reply).session.client.state = .stream ∧
      (sendResponse (session.withReader reader).streaming reply).session.client.reader.matching = reader.matching := ⟨rfl, rfl⟩

theorem command_matching (line : List UInt8) (other : ¬ NamesMatch line) (outcome : Outcome)
    (ran : handleCommand around fuel ring session line = some outcome) (streams : session.client.state = .stream) :
    outcome.session.client.state = .stream ∧ outcome.session.client.reader.matching = session.client.reader.matching := by
  cases answer_cases around fuel ring session line outcome ran with
  | blank words same =>
      rw [same]
      exact ⟨streams, rfl⟩
  | data word behind words isData same =>
      rw [same]
      exact ⟨(handle_data_kept session ring _).2.1 streams, (handle_data_kept session ring _).2.2⟩
  | time word behind words isTime ran =>
      have kept := handle_time_kept around session fuel ring _ outcome ran
      exact ⟨kept.2.1 streams, kept.2.2⟩
  | stream word behind words isStream same =>
      rw [same]
      exact streamed_reply session _ _
  | ends word behind words isEnd ran =>
      rw [(handle_end_kept around session fuel ring outcome ran).2.2.1 streams]
      exact ⟨streams, rfl⟩
  | request word behind words _ ran =>
      cases reply_cases around session ring _ _ _ outcome ran with
      | same isSession =>
          rw [isSession]
          exact ⟨streams, rfl⟩
      | protocol major minor isSession =>
          rw [isSession]
          exact ⟨streams, rfl⟩
      | station isStation same =>
          rw [same, handle_station_kept around session _ streams]
          exact ⟨streams, rfl⟩
      | select isSelect same =>
          have kept := handle_select_kept around session (commandText line)
          rw [same]
          exact ⟨kept.2.1.trans streams, by rw [kept.2.2 streams]⟩
      | pattern matching reject limit keeps isSession =>
          rw [isSession]
          exact ⟨streams, keeps fun isMatch => other ⟨word, behind, words, isMatch⟩⟩

end

section

variable (around : Surroundings) (fuel : Nat) (ring : RingParams)

theorem handed_passes (session : Session) (code : Text → Bool) (isCode : session.client.reader.matching = some code)
    (packet : RingPacket) (got : packet ∈ (handed fuel ring session).toList) : code packet.streamId = true := by
  rw [Option.mem_toList, handed, Option.bind_eq_bind, Option.bind_eq_some_iff] at got
  obtain ⟨⟨_, _⟩, _, got⟩ := got
  rw [Option.bind_eq_bind, Option.bind_eq_some_iff] at got
  obtain ⟨reading, ran, got⟩ := got
  split at got
  · cases got
  · rename_i plain
    obtain ⟨notError, notNone⟩ := not_or.mp plain
    have pass := read_next_passes _ _ _ _ _ _ ran notError notNone
    rw [RingBuffer.passes, isCode, Bool.and_eq_true, Bool.and_eq_true] at pass
    cases got
    exact pass.1.2

theorem repositioned_matching (moved : UInt64 × RingReader) : (repositioned moved).matching = moved.2.matching := by
  rw [repositioned]
  split <;> rfl

theorem db_queue_matching (session next : Session) (ran : handleDbQueueExhausted around fuel ring session = some next) :
    next.client.state = session.client.state ∧ next.client.reader.matching = session.client.reader.matching := by
  rcases db_queue_cases around fuel ring session next ran with ⟨record, records, _, rfl⟩ | ⟨moved, searched, rfl⟩
  · exact ⟨rfl, rfl⟩
  · exact ⟨rfl, (repositioned_matching moved).trans (after_filters _ _ _ _ _ _ searched).matching⟩

theorem send_records_matching (rounds : Nat) (session : Session) (total : Nat) (sent : List (List UInt8)) (outcome : Outcome)
    (ran : sendRecords around fuel ring rounds session total sent = some outcome) :
    outcome.session.client.state = session.client.state ∧
      outcome.session.client.reader.matching = session.client.reader.matching := by
  induction rounds generalizing session total sent with
  | zero =>
      rw [sendRecords] at ran
      rw [← Option.some.inj ran]
      exact ⟨rfl, rfl⟩
  | succ rounds ih =>
      cases send_records_cases around fuel ring rounds session total sent outcome ran with
      | drained empty isOutcome =>
          rw [isOutcome]
          exact ⟨rfl, rfl⟩
      | stopped record records queue empty isOutcome =>
          rw [isOutcome]
          exact ⟨rfl, rfl⟩
      | sent record records frame next queue bytes moved rest =>
          obtain ⟨state, matching⟩ := ih next _ _ rest
          have here : next.client.state = session.client.state ∧ next.client.reader.matching = session.client.reader.matching := by
            split at moved
            · have kept := db_queue_matching around fuel ring _ next moved
              exact kept
            · cases moved
              exact ⟨rfl, rfl⟩
          exact ⟨state.trans here.1, matching.trans here.2⟩

theorem stream_packets_matching (session : Session) (outcome : Outcome)
    (ran : streamPackets around fuel ring session = some outcome) :
    outcome.session.client.state = session.client.state ∧
      outcome.session.client.reader.matching = session.client.reader.matching := by
  rw [streamPackets] at ran
  split at ran
  · split at ran
    · rw [streamPacket, Option.bind_eq_bind, Option.bind_eq_some_iff] at ran
      obtain ⟨⟨_, _⟩, _, ran⟩ := ran
      rw [Option.bind_eq_bind, Option.bind_eq_some_iff] at ran
      obtain ⟨reading, read, ran⟩ := ran
      have filters := read_next_filters _ _ _ _ _ _ read
      dsimp only at ran
      split at ran
      · cases ran
        exact ⟨rfl, filters.matching⟩
      split at ran
      · cases ran
        exact ⟨rfl, filters.matching⟩
      split at ran
      · cases ran
        exact ⟨rfl, filters.matching⟩
      split at ran
      · cases ran
        exact ⟨rfl, filters.matching⟩
      · cases ran
        exact ⟨rfl, filters.matching⟩
    · exact send_records_matching around fuel ring _ session _ _ outcome ran
  · cases ran
    exact ⟨rfl, rfl⟩

end

theorem streaming_passes (start : Session) (streams : start.client.state = .stream) (code : Text → Bool)
    (isCode : start.client.reader.matching = some code) (session : Session) (packets : List RingPacket)
    (run : Streaming start session packets) : session.client.state = .stream ∧ session.client.reader.matching = some code ∧
      ∀ packet ∈ packets, code packet.streamId = true := by
  induction run with
  | started => exact ⟨streams, isCode, fun packet none => nomatch none⟩
  | answered session packets before around fuel ring line other outcome ran ih =>
      obtain ⟨state, matching, passed⟩ := ih
      have kept := command_matching around session fuel ring line other outcome ran state
      exact ⟨kept.1, kept.2.trans matching, passed⟩
  | streamed session packets before around fuel ring outcome ran ih =>
      obtain ⟨state, matching, passed⟩ := ih
      have kept := stream_packets_matching around fuel ring session outcome ran
      refine ⟨kept.1.trans state, kept.2.trans matching, fun packet isMember => ?_⟩
      rw [List.mem_append] at isMember
      cases isMember with
      | inl earlier => exact passed packet earlier
      | inr now =>
          split at now
          · exact handed_passes fuel ring session code matching packet now
          · exact nomatch now

theorem mem_enlist (stations : List Text) (added : Option Text) (staid : Text) :
    staid ∈ enlist stations added ↔ staid ∈ stations ∨ staid ∈ added.toList := by
  cases added with
  | none =>
      rw [enlist, Option.toList_none]
      exact (or_iff_left List.not_mem_nil).symm
  | some new =>
      rw [enlist, Option.toList_some]
      split
      · rename_i known
        rw [List.mem_singleton]
        constructor
        · exact fun isMember => .inl isMember
        · intro sides
          exact sides.elim id fun same => same ▸ List.contains_iff_mem.mp known
      · exact List.mem_append

theorem selecting_stations (engine : Engine) (session : Session) (stations : List Text) (selecting : Selecting engine session stations) :
    session.client.state ≠ .stream ∧ ∀ staid, staid ∈ session.ext.selectedStations ↔ staid ∈ stations := by
  induction selecting with
  | opened client waits => exact ⟨waits, fun staid => Iff.rfl⟩
  | answered session stations before around same fuel ring line outcome ran waits ih =>
      refine ⟨waits, fun staid => ?_⟩
      rw [command_stations around session fuel ring line outcome ran, mem_enlist, List.mem_append, ih.2 staid]

-- Whatever the client asks for on its way to END and behind it, MATCH apart, it gets the
-- packets of its stations and no others.
theorem stations_served (engine : Engine) (speaks : Speaks engine) (session : Session) (stations : List Text)
    (selecting : Selecting engine session stations) (present : stations ≠ []) (plain : ∀ staid ∈ stations, Plain staid)
    (around : Surroundings) (same : around.engine = engine) (fuel : Nat) (ring : RingParams) (line : List UInt8)
    (ends : EndsStations line) (outcome : Outcome) (ran : handleCommand around fuel ring session line = some outcome)
    (final : Session) (packets : List RingPacket) (run : Streaming outcome.session final packets) :
    final.client.state = .stream ∧
      (∃ code, final.client.reader.matching = some code ∧ ∀ id, code id = true ↔ ∃ staid ∈ stations, Picks staid id) ∧
      ∀ packet ∈ packets, ∃ staid ∈ stations, Picks staid packet.streamId := by
  obtain ⟨waits, members⟩ := selecting_stations engine session stations selecting
  rw [end_handled around session fuel ring line ends] at ran
  obtain ⟨streams, _, _, set⟩ := handle_end_kept around session fuel ring outcome ran
  have present' : session.ext.selectedStations ≠ [] := by
    obtain ⟨staid, isMember⟩ := List.exists_mem_of_ne_nil stations present
    exact List.ne_nil_of_mem ((members staid).mpr isMember)
  obtain ⟨code, compiled, means⟩ := stations_compiled engine speaks session.ext.selectedStations present'
    fun staid isMember => plain staid ((members staid).mp isMember)
  have isCode : outcome.session.client.reader.matching = some code := by rw [set waits present', same, compiled]
  have picks (id : Text) : code id = true ↔ ∃ staid ∈ stations, Picks staid id := by simp only [means, members]
  obtain ⟨state, matching, passed⟩ := streaming_passes outcome.session streams code isCode final packets run
  exact ⟨state, ⟨code, matching, picks⟩, fun packet isMember => (picks _).mp (passed packet isMember)⟩

-- The regular expressions that Regex.parse reads, and no others.
def readAround : Surroundings := { quiet with engine := readEngine }

def answerOf (ring : RingParams) (session : Session) (line : Text) : Session :=
  ((handleCommand readAround 109 ring session (encodeASCII line)).map Outcome.session).getD session

theorem answer_selecting (ring : RingParams) (session : Session) (stations : List Text) (before : Selecting readEngine session stations)
    (line : Text) (answers : (handleCommand readAround 109 ring session (encodeASCII line)).isSome = true)
    (waits : (answerOf ring session line).client.state ≠ .stream) :
    Selecting readEngine (answerOf ring session line) (stations ++ (stationOf (encodeASCII line)).toList) := by
  obtain ⟨outcome, ran⟩ := Option.isSome_iff_exists.mp answers
  rw [answerOf, ran] at waits ⊢
  exact .answered session stations before readAround rfl 109 ring (encodeASCII line) outcome ran waits

def turnOf (ring : RingParams) (session : Session) : Session :=
  ((streamPackets readAround 109 ring session).map Outcome.session).getD session

theorem turn_streaming (ring : RingParams) (start session : Session) (packets : List RingPacket) (before : Streaming start session packets)
    (drained : session.ext.dbRecords.isEmpty = true) (turns : (streamPackets readAround 109 ring session).isSome = true) :
    Streaming start (turnOf ring session) (packets ++ (handed 109 ring session).toList) := by
  obtain ⟨outcome, ran⟩ := Option.isSome_iff_exists.mp turns
  have step := Streaming.streamed session packets before readAround 109 ring outcome ran
  rw [if_pos drained] at step
  rw [turnOf, ran]
  exact step

def threeStreams : List Request :=
  [byteRequest ⟨5⟩ "FDSN:IU_COLA_00_B_H_Z/MSEED".toList 7, byteRequest ⟨6⟩ "FDSN:IU_ANTO_00_L_H_Z/MSEED".toList 8,
    byteRequest ⟨7⟩ "FDSN:IU_ANMO_00_B_H_Z/MSEED".toList 9]

def streamsRing : RingParams := writtenRing fourSlotRing threeStreams

def twoStations : Session := answerOf fourSlotRing (answerOf fourSlotRing fresh "STATION ANMO IU".toList) "STATION C* IU".toList

def ended : Session := answerOf fourSlotRing twoStations "END".toList

theorem two_stations_selecting : Selecting readEngine twoStations ["IU_ANMO".toList, "IU_C*".toList] := by
  have first := answer_selecting fourSlotRing fresh [] (.opened DataLink.newClient (by decide)) "STATION ANMO IU".toList (by decide +kernel)
    (by decide +kernel)
  have second := answer_selecting fourSlotRing _ _ first "STATION C* IU".toList (by decide +kernel) (by decide +kernel)
  have named : (stationOf (encodeASCII "STATION ANMO IU".toList)).toList = ["IU_ANMO".toList] ∧
      (stationOf (encodeASCII "STATION C* IU".toList)).toList = ["IU_C*".toList] := by
    decide +kernel
  rwa [named.1, named.2] at second

def waiting : Session := turnOf fourSlotRing ended

def servedOnce : Session := turnOf streamsRing waiting

def servedPackets : List RingPacket := (handed 109 streamsRing waiting).toList ++ (handed 109 streamsRing servedOnce).toList

theorem two_stations_streaming : Streaming ended (turnOf streamsRing servedOnce) servedPackets := by
  have first := turn_streaming fourSlotRing ended ended [] .started (by decide +kernel) (by decide +kernel)
  have none : (handed 109 fourSlotRing ended).toList = [] := by decide +kernel
  rw [none] at first
  have second := turn_streaming streamsRing ended waiting _ first (by decide +kernel) (by decide +kernel)
  have third := turn_streaming streamsRing ended servedOnce _ second (by decide +kernel) (by decide +kernel)
  rw [List.append_nil, List.nil_append] at third
  exact third

theorem stations_served_two_stations :
    servedPackets.map RingPacket.streamId = ["FDSN:IU_COLA_00_B_H_Z/MSEED".toList, "FDSN:IU_ANMO_00_B_H_Z/MSEED".toList] ∧
      (turnOf streamsRing servedOnce).client.state = .stream ∧
      (∃ code, (turnOf streamsRing servedOnce).client.reader.matching = some code ∧
        ∀ id, code id = true ↔ ∃ staid ∈ ["IU_ANMO".toList, "IU_C*".toList], Picks staid id) ∧
      ∀ packet ∈ servedPackets, ∃ staid ∈ ["IU_ANMO".toList, "IU_C*".toList], Picks staid packet.streamId := by
  have word : splitWords (commandText (encodeASCII "END".toList)) = ["END".toList] := by decide +kernel
  have ends : EndsStations (encodeASCII "END".toList) := ⟨_, _, word, .inl (by decide)⟩
  have answers : (handleCommand readAround 109 fourSlotRing twoStations (encodeASCII "END".toList)).isSome = true := by decide +kernel
  obtain ⟨outcome, ran⟩ := Option.isSome_iff_exists.mp answers
  have same : ended = outcome.session := by rw [ended, answerOf, ran, Option.map_some, Option.getD_some]
  have streaming := two_stations_streaming
  rw [same] at streaming
  exact ⟨by decide +kernel, stations_served readEngine read_engine_speaks twoStations ["IU_ANMO".toList, "IU_C*".toList]
    two_stations_selecting (List.cons_ne_nil _ _) (by decide +kernel) readAround rfl 109 fourSlotRing (encodeASCII "END".toList) ends outcome ran
    (turnOf streamsRing servedOnce) servedPackets streaming⟩

def selectorOf (line : List UInt8) : Option Text :=
  match splitWords (commandText line) with
  | word :: _ =>
      if toUpperInvariant word = "SELECT".toList then
        ((argument (commandText line)).filter fun selector => ¬ selector.isEmpty).bind convertV3Selector
      else none
  | [] => none

def choiceAfter (session : Session) (choice : Option (Option Text × Option Text)) (line : List UInt8) :
    Option (Option Text × Option Text) :=
  match stationOf line, selectorOf line with
  | some staid, _ => some (some staid, none)
  | none, some selector => some (session.ext.currentStation, some selector)
  | none, none => choice

inductive Choosing (engine : Engine) : Session → Option (Option Text × Option Text) → Prop where
  | opened (client : ClientInfo) (waits : client.state ≠ .stream) (unset : client.reader.matching = none) :
      Choosing engine ⟨client, newExtInfo⟩ none
  | answered (session : Session) (choice : Option (Option Text × Option Text)) (before : Choosing engine session choice)
      (around : Surroundings) (same : around.engine = engine) (fuel : Nat) (ring : RingParams) (line : List UInt8)
      (other : ¬ NamesMatch line) (outcome : Outcome) (ran : handleCommand around fuel ring session line = some outcome)
      (waits : outcome.session.client.state ≠ .stream) : Choosing engine outcome.session (choiceAfter session choice line)

def patternOf (engine : Engine) (choice : Option (Option Text × Option Text)) : Option (Text → Bool) :=
  choice.bind fun chosen => (RingBuffer.updatePattern engine (buildStreamRegex chosen.1 chosen.2)).2

section

variable (around : Surroundings) (session : Session) (fuel : Nat) (ring : RingParams)

theorem selector_of_other (line : List UInt8) (word : Text) (behind : List Text) (words : splitWords (commandText line) = word :: behind)
    (other : toUpperInvariant word ≠ "SELECT".toList) : selectorOf line = none := by
  rw [selectorOf, words]
  exact if_neg other

theorem unnamed (choice : Option (Option Text × Option Text)) (line : List UInt8) (noStation : stationOf line = none)
    (noSelector : selectorOf line = none) : choiceAfter session choice line = choice := by
  rw [choiceAfter, noStation, noSelector]

theorem word_unnamed (choice : Option (Option Text × Option Text)) (line : List UInt8) (word : Text) (behind : List Text)
    (words : splitWords (commandText line) = word :: behind) (noStation : toUpperInvariant word ≠ "STATION".toList)
    (noSelect : toUpperInvariant word ≠ "SELECT".toList) : choiceAfter session choice line = choice :=
  unnamed session choice line (station_of_other line word behind words noStation) (selector_of_other line word behind words noSelect)

theorem answer_unnamed (choice : Option (Option Text × Option Text)) (line : List UInt8) (outcome : Outcome)
    (ran : handleCommand around fuel ring session line = some outcome) : choiceAfter session choice line = choice ∨
      ∃ word behind, splitWords (commandText line) = word :: behind ∧
        handleRequest around ring session (commandText line) (toUpperInvariant word) (word :: behind) = some outcome := by
  cases answer_cases around fuel ring session line outcome ran with
  | blank words same =>
      have noStation : stationOf line = none := by rw [stationOf, words]
      have noSelector : selectorOf line = none := by rw [selectorOf, words]
      exact .inl (unnamed session choice line noStation noSelector)
  | data word behind words isData same =>
      refine .inl (word_unnamed session choice line word behind words ?_ ?_)
      · rcases isData with is | is <;> rw [is] <;> decide
      · rcases isData with is | is <;> rw [is] <;> decide
  | time word behind words isTime ran =>
      exact .inl (word_unnamed session choice line word behind words (by rw [isTime]; decide) (by rw [isTime]; decide))
  | stream word behind words isStream same =>
      exact .inl (word_unnamed session choice line word behind words (by rw [isStream]; decide) (by rw [isStream]; decide))
  | ends word behind words isEnd ran =>
      refine .inl (word_unnamed session choice line word behind words ?_ ?_)
      · rcases isEnd with is | is <;> rw [is] <;> decide
      · rcases isEnd with is | is <;> rw [is] <;> decide
  | request word behind words _ ran => exact .inr ⟨word, behind, words, ran⟩

theorem select_chooses (line : List UInt8) (word : Text) (behind : List Text) (words : splitWords (commandText line) = word :: behind)
    (isSelect : toUpperInvariant word = "SELECT".toList) (waits : session.client.state ≠ .stream)
    (choice : Option (Option Text × Option Text)) (chosen : session.client.reader.matching = patternOf around.engine choice) :
    (handleSelect around session (commandText line)).session.client.reader.matching =
      patternOf around.engine (choiceAfter session choice line) := by
  have noStation : stationOf line = none := station_of_other line word behind words (by rw [isSelect]; decide)
  have selected : selectorOf line =
      ((argument (commandText line)).filter fun selector => ¬ selector.isEmpty).bind convertV3Selector := by
    rw [selectorOf, words]
    exact if_pos isSelect
  rw [choiceAfter, noStation, selected, handleSelect]
  cases argument (commandText line) with
  | none => exact chosen
  | some selector =>
      by_cases empty : selector.isEmpty = true
      · dsimp only
        rw [if_pos empty, Option.filter_some, if_neg (by rw [empty]; decide)]
        exact chosen
      dsimp only
      rw [if_neg empty, Option.filter_some, if_pos (decide_eq_true empty), Option.bind_some]
      cases convertV3Selector selector with
      | none => exact chosen
      | some converted => exact congrArg RingReader.matching (if_neg waits)

theorem station_chooses (line : List UInt8) (word : Text) (behind : List Text) (words : splitWords (commandText line) = word :: behind)
    (isStation : toUpperInvariant word = "STATION".toList) (waits : session.client.state ≠ .stream)
    (choice : Option (Option Text × Option Text)) (chosen : session.client.reader.matching = patternOf around.engine choice) :
    (handleStation around session (word :: behind)).session.client.reader.matching =
      patternOf around.engine (choiceAfter session choice line) := by
  cases behind with
  | nil =>
      have noStation : stationOf line = none := by rw [stationOf, words]
      rw [unnamed session choice line noStation (selector_of_other line word [] words (by rw [isStation]; decide))]
      exact chosen
  | cons sta behind =>
      have named : stationOf line = some (behind.head?.getD ['*'] ++ '_' :: sta) := by
        rw [stationOf, words]
        exact if_pos isStation
      rw [choiceAfter, named]
      exact congrArg RingReader.matching (if_neg waits)

theorem request_chooses (line : List UInt8) (other : ¬ NamesMatch line) (word : Text) (behind : List Text)
    (words : splitWords (commandText line) = word :: behind) (outcome : Outcome)
    (ran : handleRequest around ring session (commandText line) (toUpperInvariant word) (word :: behind) = some outcome)
    (waits : session.client.state ≠ .stream) (choice : Option (Option Text × Option Text))
    (chosen : session.client.reader.matching = patternOf around.engine choice) :
    outcome.session.client.reader.matching = patternOf around.engine (choiceAfter session choice line) := by
  by_cases isStation : toUpperInvariant word = "STATION".toList
  · rw [isStation, request_station] at ran
    rw [← Option.some.inj ran]
    exact station_chooses around session line word behind words isStation waits choice chosen
  by_cases isSelect : toUpperInvariant word = "SELECT".toList
  · rw [isSelect, request_select] at ran
    rw [← Option.some.inj ran]
    exact select_chooses around session line word behind words isSelect waits choice chosen
  rw [word_unnamed session choice line word behind words isStation isSelect]
  cases reply_cases around session ring _ _ _ outcome ran with
  | same isSession =>
      rw [isSession]
      exact chosen
  | protocol major minor isSession =>
      rw [isSession]
      exact chosen
  | station named same => exact absurd named isStation
  | select named same => exact absurd named isSelect
  | pattern matching reject limit keeps isSession =>
      rw [isSession]
      exact (keeps fun isMatch => other ⟨word, behind, words, isMatch⟩).trans chosen

theorem command_chooses (line : List UInt8) (other : ¬ NamesMatch line) (noEnd : ¬ EndsStations line) (outcome : Outcome)
    (ran : handleCommand around fuel ring session line = some outcome) (waits : session.client.state ≠ .stream)
    (choice : Option (Option Text × Option Text)) (chosen : session.client.reader.matching = patternOf around.engine choice) :
    outcome.session.client.reader.matching = patternOf around.engine (choiceAfter session choice line) := by
  rcases answer_unnamed around session fuel ring choice line outcome ran with named | ⟨word, behind, words, ran⟩
  · rw [named, ← chosen]
    cases answer_cases around fuel ring session line outcome ran with
    | blank words same => rw [same]; rfl
    | data word behind words isData same =>
        rw [same]
        exact (handle_data_kept session ring _).2.2
    | time word behind words isTime ran => exact (handle_time_kept around session fuel ring _ outcome ran).2.2
    | stream word behind words isStream same =>
        rw [same]
        exact (streamed_reply session _ _).2
    | ends word behind words isEnd ran => exact absurd ⟨word, behind, words, isEnd⟩ noEnd
    | request word behind words _ ran =>
        have now := request_chooses around session ring line other word behind words outcome ran waits choice chosen
        rwa [named, ← chosen] at now
  · exact request_chooses around session ring line other word behind words outcome ran waits choice chosen

theorem choosing_pattern (engine : Engine) (choice : Option (Option Text × Option Text)) (choosing : Choosing engine session choice) :
    session.client.state ≠ .stream ∧ session.client.reader.matching = patternOf engine choice := by
  induction choosing with
  | opened client waits unset => exact ⟨waits, unset⟩
  | answered session choice before around same fuel ring line other outcome ran waits ih =>
      have noEnd : ¬ EndsStations line := by
        intro ends
        rw [end_handled around session fuel ring line ends] at ran
        exact waits (handle_end_kept around session fuel ring outcome ran).1
      refine ⟨waits, ?_⟩
      rw [← same] at ih ⊢
      exact command_chooses around session fuel ring line other noEnd outcome ran ih.1 choice ih.2

-- A session that streams without END gets the packets of the station and selector named
-- last: those of no station are of any, and a sign in front of the selector counts for
-- nothing.
theorem selector_served (engine : Engine) (speaks : Speaks engine) (staid selector : Option Text)
    (choosing : Choosing engine session (some (staid, selector))) (plainStation : Plain (staid.getD ['*']))
    (plainChannel : Plain (selector.elim ['*'] positive)) (same : around.engine = engine) (line : List UInt8)
    (noEnd : ¬ EndsStations line) (other : ¬ NamesMatch line) (outcome : Outcome)
    (ran : handleCommand around fuel ring session line = some outcome) (streams : outcome.session.client.state = .stream)
    (final : Session) (packets : List RingPacket) (run : Streaming outcome.session final packets) :
    (∃ code, final.client.reader.matching = some code ∧
      ∀ id, code id = true ↔ Names (staid.getD ['*']) (selector.elim ['*'] positive) id) ∧
      ∀ packet ∈ packets, Names (staid.getD ['*']) (selector.elim ['*'] positive) packet.streamId := by
  obtain ⟨waits, chosen⟩ := choosing_pattern session engine _ choosing
  have stays : choiceAfter session (some (staid, selector)) line = some (staid, selector) := by
    rcases answer_unnamed around session fuel ring (some (staid, selector)) line outcome ran with named | ⟨word, behind, words, ran⟩
    · exact named
    · exact absurd ((handle_request_place around ring session _ _ _ outcome ran).state.symm.trans streams) waits
  obtain ⟨code, compiled, means⟩ := stream_compiled engine speaks staid selector plainStation plainChannel
  have isCode : outcome.session.client.reader.matching = some code := by
    rw [command_chooses around session fuel ring line other noEnd outcome ran waits _ (same ▸ chosen), stays, patternOf, Option.bind_some,
      same, compiled]
  obtain ⟨_, matching, passed⟩ := streaming_passes outcome.session streams code isCode final packets run
  exact ⟨⟨code, matching, means⟩, fun packet isMember => (means _).mp (passed packet isMember)⟩

end

theorem select_handled (around : Surroundings) (fuel : Nat) (ring : RingParams) (session : Session) (line : List UInt8)
    (arguments : List Text) (words : splitWords (commandText line) = "SELECT".toList :: arguments) :
    handleCommand around fuel ring session line = some (handleSelect around session (commandText line)) := by
  have command : toUpperInvariant "SELECT".toList = "SELECT".toList := by decide +kernel
  rw [handleCommand.eq_def, words]
  dsimp only
  rw [command, if_neg (by decide), if_neg (by decide), if_neg (by decide), if_neg (by decide), request_select]

def bhzLine : List UInt8 := encodeASCII "SELECT BHZ".toList

def bhz : Session := (handleSelect readAround fresh (commandText bhzLine)).session

theorem bhz_choosing : Choosing readEngine bhz (some (none, some "??_B_H_Z".toList)) := by
  have words : splitWords (commandText bhzLine) = ["SELECT".toList, "BHZ".toList] := by decide +kernel
  have command : toUpperInvariant "SELECT".toList = "SELECT".toList := by decide +kernel
  have chosen : choiceAfter fresh none bhzLine = some (none, some "??_B_H_Z".toList) := by decide +kernel
  have other : ¬ NamesMatch bhzLine := by
    rintro ⟨word, behind, same, isMatch⟩
    rw [words] at same
    rw [← (List.cons.inj same).1, command] at isMatch
    revert isMatch
    decide
  have step := Choosing.answered fresh none (.opened DataLink.newClient (by decide) rfl) readAround rfl 1 twoSlotRing bhzLine other _
    (select_handled readAround 1 twoSlotRing fresh bhzLine _ words) (by decide +kernel)
  rwa [chosen] at step

def started : Session := answerOf fourSlotRing bhz "DATA".toList

def startedOnce : Session := turnOf streamsRing (turnOf fourSlotRing started)

def bhzPackets : List RingPacket :=
  (handed 109 streamsRing (turnOf fourSlotRing started)).toList ++ (handed 109 streamsRing startedOnce).toList

theorem bhz_streaming : Streaming started (turnOf streamsRing startedOnce) bhzPackets := by
  have first := turn_streaming fourSlotRing started started [] .started (by decide +kernel) (by decide +kernel)
  have none : (handed 109 fourSlotRing started).toList = [] := by decide +kernel
  rw [none] at first
  have second := turn_streaming streamsRing started _ _ first (by decide +kernel) (by decide +kernel)
  have third := turn_streaming streamsRing started startedOnce _ second (by decide +kernel) (by decide +kernel)
  rw [List.append_nil, List.nil_append] at third
  exact third

theorem selector_served_three_letters :
    bhzPackets.map RingPacket.streamId = ["FDSN:IU_COLA_00_B_H_Z/MSEED".toList, "FDSN:IU_ANMO_00_B_H_Z/MSEED".toList] ∧
      (∃ code, (turnOf streamsRing startedOnce).client.reader.matching = some code ∧
        ∀ id, code id = true ↔ Names ['*'] "??_B_H_Z".toList id) ∧
      ∀ packet ∈ bhzPackets, Names ['*'] "??_B_H_Z".toList packet.streamId := by
  have words : splitWords (commandText (encodeASCII "DATA".toList)) = ["DATA".toList] := by decide +kernel
  have command : toUpperInvariant "DATA".toList = "DATA".toList := by decide +kernel
  have other (name : Text) (apart : "DATA".toList ≠ name) (word : Text) (behind : List Text)
      (same : splitWords (commandText (encodeASCII "DATA".toList)) = word :: behind) : toUpperInvariant word ≠ name := by
    rw [words] at same
    rw [← (List.cons.inj same).1, command]
    exact apart
  have noEnd : ¬ EndsStations (encodeASCII "DATA".toList) := by
    rintro ⟨word, behind, same, isEnd | isEnd⟩
    · exact other _ (by decide) word behind same isEnd
    · exact other _ (by decide) word behind same isEnd
  have noMatch : ¬ NamesMatch (encodeASCII "DATA".toList) := by
    rintro ⟨word, behind, same, isMatch⟩
    exact other _ (by decide) word behind same isMatch
  have answers : (handleCommand readAround 109 fourSlotRing bhz (encodeASCII "DATA".toList)).isSome = true := by decide +kernel
  obtain ⟨outcome, ran⟩ := Option.isSome_iff_exists.mp answers
  have same : started = outcome.session := by rw [started, answerOf, ran, Option.map_some, Option.getD_some]
  have streams : started.client.state = .stream := by decide +kernel
  have streaming := bhz_streaming
  rw [same] at streaming streams
  exact ⟨by decide +kernel, selector_served readAround bhz 109 fourSlotRing readEngine read_engine_speaks none
    (some "??_B_H_Z".toList) bhz_choosing (by decide) (by decide) rfl (encodeASCII "DATA".toList) noEnd noMatch outcome ran streams
    (turnOf streamsRing startedOnce) bhzPackets streaming⟩

end RingServer.SeedLink
