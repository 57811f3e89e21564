import RingServer.Protocols.DataLinkRoundTrip
import RingServer.Protocols.StreamRegex

set_option autoImplicit false

namespace RingServer.DataLink

open Library

def expression (engine : Engine) (parts : List Text) (received : Option (List UInt8)) : Option Text :=
  match parts with
  | _ :: sizeStr :: _ =>
      (tryParseInt sizeStr).bind fun size => if size = 0 then some [] else received.map engine.decodeUTF8
  | _ => none

structure Selection where
  matching : Text
  reject : Text

def Selection.after (engine : Engine) (selection : Selection) (parts : List Text) (received : Option (List UInt8)) : Selection :=
  let command := parts.head?.map toUpperInvariant
  if command = some "MATCH".toList then { selection with matching := (expression engine parts received).getD selection.matching }
  else if command = some "REJECT".toList then { selection with reject := (expression engine parts received).getD selection.reject }
  else selection

def patternOf (engine : Engine) (text : Text) : Option (Text → Bool) := (RingBuffer.updatePattern engine text).2

structure InForce (engine : Engine) (selection : Selection) (reader : RingReader) : Prop where
  matching : reader.matching = patternOf engine selection.matching
  reject : reader.reject = patternOf engine selection.reject

def Selection.admits (engine : Engine) (limit : Option (Text → Bool)) (selection : Selection) (streamId : Text) : Bool :=
  limit.all (· streamId) && (patternOf engine selection.matching).all (· streamId) &&
    !(patternOf engine selection.reject).any (· streamId)

def IsPacket (reply : Reply) : Prop := "PACKET ".toList <+: reply.header

-- A session, with what it selects and the replies it has got, each with the selection it
-- was sent under. The ring may be any at each step.
inductive Subscribed (engine : Engine) (fuel : Nat) (first : ClientInfo) : ClientInfo → Selection → List (Selection × Reply) → Prop
  | opened : Subscribed engine fuel first first ⟨[], []⟩ []
  | frame (client : ClientInfo) (selection : Selection) (log : List (Selection × Reply)) (header : List UInt8)
      (before : Subscribed engine fuel first client selection log) :
      Subscribed engine fuel first { client with dlCommand := storeCommand client.dlCommand header } selection log
  | command (clock : NsTime) (ring : RingParams) (client : ClientInfo) (selection : Selection) (log : List (Selection × Reply))
      (outcome : Outcome) (before : Subscribed engine fuel first client selection log)
      (handled : handleCommand engine fuel clock ring client = .returns outcome) :
      Subscribed engine fuel first outcome.client (selection.after engine (readCommand client.dlCommand).parts none)
        (log ++ outcome.sent.map fun reply => (selection, reply))
  | payload (clock : NsTime) (ring : RingParams) (client : ClientInfo) (selection : Selection) (log : List (Selection × Reply))
      (size : Nat) (next : List UInt8 → Option Outcome) (lost outcome : Outcome) (bytes : List UInt8)
      (before : Subscribed engine fuel first client selection log)
      (handled : handleCommand engine fuel clock ring client = .receives size next lost) (long : bytes.length = size)
      (ran : next bytes = some outcome) :
      Subscribed engine fuel first outcome.client (selection.after engine (readCommand client.dlCommand).parts (some bytes))
        (log ++ outcome.sent.map fun reply => (selection, reply))
  | stream (ring : RingParams) (client : ClientInfo) (selection : Selection) (log : List (Selection × Reply))
      (cachedPacket : RingPacket) (outcome : Outcome) (before : Subscribed engine fuel first client selection log)
      (ran : streamPackets fuel ring client cachedPacket = some outcome) :
      Subscribed engine fuel first outcome.client selection (log ++ outcome.sent.map fun reply => (selection, reply))

def Quiet (outcome : Outcome) : Prop := ∀ reply ∈ outcome.sent, ¬ IsPacket reply

def Passed (reader : RingReader) (reply : Reply) : Prop :=
  IsPacket reply → ∃ packet data, packetReply packet data = some reply ∧ RingBuffer.passes reader packet.streamId = true

structure Serves (client : ClientInfo) (outcome : Outcome) : Prop where
  filters : SameFilters client.reader outcome.client.reader
  passed : ∀ reply ∈ outcome.sent, Passed client.reader reply

structure Chooses (engine : Engine) (client : ClientInfo) (received : Option (List UInt8)) (outcome : Outcome) : Prop where
  limit : outcome.client.reader.limit = client.reader.limit
  selection : ∀ selection, InForce engine selection client.reader →
    InForce engine (selection.after engine (readCommand client.dlCommand).parts received) outcome.client.reader
  passed : ∀ reply ∈ outcome.sent, Passed client.reader reply

section

variable (engine : Engine) (fuel : Nat) (clock : NsTime) (ring : RingParams) (client : ClientInfo)

theorem packet_head (reply : Reply) (isPacket : IsPacket reply) : reply.header.head? = some 'P' := by
  obtain ⟨rest, same⟩ := isPacket
  rw [← same]
  rfl

theorem return_send_serves (reply : Reply) (passed : Passed client.reader reply) : Serves client (returnSend ring client reply) := by
  rw [returnSend]
  split
  · exact ⟨same_filters_refl _, fun other isReply => (List.mem_singleton.mp isReply) ▸ passed⟩
  · exact ⟨same_filters_refl _, fun _ isReply => absurd isReply List.not_mem_nil⟩

theorem plain_passed (reader : RingReader) (reply : Reply) (plain : reply.header.head? ≠ some 'P') : Passed reader reply :=
  fun isPacket => absurd (packet_head reply isPacket) plain

theorem reply_serves (reply : Reply) (plain : reply.header.head? ≠ some 'P') : Serves client (returnSend ring client reply) :=
  return_send_serves ring client reply (plain_passed client.reader reply plain)

theorem return_send_quiet (reply : Reply) (plain : reply.header.head? ≠ some 'P') : Quiet (returnSend ring client reply) := by
  rw [returnSend]
  split
  · exact fun other isReply isPacket => plain ((List.mem_singleton.mp isReply) ▸ packet_head other isPacket)
  · exact fun _ isReply => absurd isReply List.not_mem_nil

theorem refuse_quiet (reply : Reply) (plain : reply.header.head? ≠ some 'P') : Quiet (refuse ring client reply) :=
  return_send_quiet ring client reply plain

theorem error_plain : "ERROR".toList.head? ≠ some 'P' := by decide

theorem error_serves (message : Text) : Serves client (refuse ring client (errorReply message)) :=
  ⟨same_filters_refl _, (reply_serves ring client (errorReply message) error_plain).passed⟩

theorem sized_error_serves (message : Text) : Serves client (refuse ring client (sizedErrorReply message)) :=
  ⟨same_filters_refl _, (reply_serves ring client (sizedErrorReply message) error_plain).passed⟩

theorem silent_serves (code : Int) : Serves client ⟨code, ring, client, []⟩ :=
  ⟨same_filters_refl _, fun _ isReply => absurd isReply List.not_mem_nil⟩

theorem serves_with_reader (reader : RingReader) (same : SameFilters client.reader reader) (outcome : Outcome)
    (serves : Serves { client with reader := reader } outcome) : Serves client outcome := by
  refine ⟨same_filters_trans _ _ _ same serves.filters, fun reply isReply isPacket => ?_⟩
  obtain ⟨packet, data, isPacketReply, passes⟩ := serves.passed reply isReply isPacket
  refine ⟨packet, data, isPacketReply, ?_⟩
  rw [RingBuffer.passes, same.limit, same.matching, same.reject] at passes
  exact passes

theorem positioned_serves (result : UInt64 × RingReader) (same : SameFilters client.reader result.2) :
    Serves client (positioned ring client result) := by
  apply serves_with_reader client result.2 same
  rw [positioned]
  split
  · exact error_serves ring _ _
  split
  · exact error_serves ring _ _
  · exact reply_serves ring _ _ (show "OK".toList.head? ≠ some 'P' from by decide)

theorem handle_position_serves (parts : List Text) (outcome : Outcome)
    (ran : handlePosition fuel ring client parts = some outcome) : Serves client outcome := by
  have error (message : Text) (same : some (refuse ring client (errorReply message)) = some outcome) : Serves client outcome := by
    rw [← Option.some.inj same]
    exact error_serves ring client message
  have moved (search : Option (UInt64 × RingReader)) (found : search.map (positioned ring client) = some outcome)
      (same : ∀ result, search = some result → SameFilters client.reader result.2) : Serves client outcome := by
    obtain ⟨result, isResult, rfl⟩ := Option.map_eq_some_iff.mp found
    exact positioned_serves ring client result (same result isResult)
  rw [handlePosition.eq_def] at ran
  split at ran
  · rename_i word subcmd valueStr behind
    by_cases many : 1 < behind.length
    · rw [if_pos many] at ran
      exact error _ ran
    rw [if_neg many] at ran
    by_cases set : toUpperInvariant subcmd = "SET".toList
    · rw [if_pos set] at ran
      dsimp only at ran
      split at ran
      · exact error _ ran
      · exact moved _ ran fun result searched => position_filters _ _ _ _ _ _ searched
    rw [if_neg set] at ran
    by_cases after : toUpperInvariant subcmd = "AFTER".toList ∨ toUpperInvariant subcmd = "AFTERREV".toList
    · rw [if_pos after] at ran
      cases time : tryParseLong valueStr with
      | none =>
          rw [time] at ran
          exact error _ ran
      | some ht =>
          rw [time] at ran
          dsimp only at ran
          cases limit : client.timeWinLimit with
          | whole =>
              rw [limit] at ran
              dsimp only at ran
              by_cases rev : toUpperInvariant subcmd = "AFTERREV".toList
              · rw [if_pos rev] at ran
                exact moved _ ran fun result searched => after_rev_filters _ _ _ _ _ _ searched
              · rw [if_neg rev] at ran
                exact moved _ ran fun result searched => after_filters _ _ _ _ _ _ searched
          | part packets =>
              rw [limit] at ran
              exact moved _ ran fun result searched => after_rev_filters _ _ _ _ _ _ searched
          | invalid =>
              rw [limit] at ran
              exact error _ ran
    · rw [if_neg after] at ran
      exact error _ ran
  · exact error _ ran

theorem reading_passed (packet : RingPacket) (data : Option (List UInt8)) (reading : RingBuffer.Reading)
    (read : RingBuffer.readNext fuel ring client.reader packet data = some reading) (notError : reading.code ≠ Constants.ringIdError)
    (notNone : reading.code ≠ Constants.ringIdNone) (reply : Reply)
    (isReply : packetReply reading.packet (reading.data.getD []) = some reply) : Passed client.reader reply :=
  fun _ => ⟨reading.packet, _, isReply, read_next_passes _ _ _ _ _ _ read notError notNone⟩

theorem passed_with_reader (reader : RingReader) (same : SameFilters client.reader reader) (reply : Reply)
    (passed : Passed client.reader reply) : Passed reader reply := by
  intro isPacket
  obtain ⟨packet, data, isReply, passes⟩ := passed isPacket
  refine ⟨packet, data, isReply, ?_⟩
  rw [RingBuffer.passes, same.limit, same.matching, same.reject]
  exact passes

theorem handle_read_serves (parts : List Text) (outcome : Outcome) (ran : handleRead fuel ring client parts = some outcome) :
    Serves client outcome := by
  rw [handleRead.eq_def] at ran
  split at ran
  · split at ran
    · cases ran
      exact silent_serves ring client (-1)
    · simp only [Option.bind_eq_bind, Option.bind_eq_some_iff] at ran
      obtain ⟨db, _, reading, read, ran⟩ := ran
      have filters := read_next_filters _ _ _ _ _ _ read
      apply serves_with_reader client reading.reader filters
      by_cases error : reading.code = Constants.ringIdError
      · rw [if_pos error] at ran
        cases ran
        exact error_serves ring _ _
      · by_cases missing : reading.code = Constants.ringIdNone
        · rw [if_neg error, if_pos missing] at ran
          cases ran
          exact error_serves ring _ _
        · rw [if_neg error, if_neg missing, Option.bind_eq_some_iff] at ran
          obtain ⟨reply, isReply, ran⟩ := ran
          cases ran
          have passed := reading_passed fuel ring client _ _ reading read error missing reply isReply
          exact return_send_serves ring _ reply (passed_with_reader client reading.reader filters reply passed)
  · cases ran
    exact error_serves ring client _

theorem handle_info_serves (parts : List Text) (outcome : Outcome) (ran : handleInfo engine ring client parts = some outcome) :
    Serves client outcome := by
  have document (type : Text) (data : List UInt8) :
      Serves client (returnSend ring client ⟨"INFO ".toList ++ type, some data, 0, false, true⟩) :=
    reply_serves ring client _ (show some 'I' ≠ some 'P' from by decide)
  rw [handleInfo.eq_def] at ran
  split at ran
  · dsimp only at ran
    split at ran
    · obtain ⟨listed, _, rfl⟩ := Option.map_eq_some_iff.mp ran
      exact document _ _
    split at ran
    · cases ran
      exact document _ _
    split at ran
    · split at ran
      · cases ran
        exact document _ _
      · cases ran
        exact sized_error_serves ring client _
    · cases ran
      exact sized_error_serves ring client _
  · cases ran
    exact silent_serves ring client (-1)

theorem store_packet_serves (flags : Text) (packet : RingPacket) (db : List UInt8) (outcome : Outcome)
    (ran : storePacket clock ring client flags packet db = some outcome) : Serves client outcome := by
  simp only [storePacket, Option.bind_eq_bind, Option.bind_eq_some_iff] at ran
  obtain ⟨⟨rv, ring', stored⟩, _, ran⟩ := ran
  dsimp only at ran
  split at ran
  · cases ran
    exact sized_error_serves ring' client _
  split at ran
  · cases ran
    exact reply_serves ring' client _ (show "OK".toList.head? ≠ some 'P' from by decide)
  · cases ran
    exact silent_serves ring' client 0

theorem handle_write_serves (parts : List Text) : (handleWrite clock ring client parts).Leaves fun _ => Serves client := by
  rw [handleWrite.eq_def]
  split
  · split
    · exact sized_error_serves ring client _
    split
    · dsimp only
      split
      · exact sized_error_serves ring client _
      split
      · exact sized_error_serves ring client _
      split
      · trivial
      · exact ⟨silent_serves ring client (-1), fun db outcome _ ran => store_packet_serves clock ring client _ _ db outcome ran⟩
    · exact sized_error_serves ring client _
  · exact sized_error_serves ring client _

theorem return_send_client (reply : Reply) : (returnSend ring client reply).client = client := by
  rw [returnSend]
  split <;> rfl

theorem selected_quiet (word : Text) (outcome : Outcome) (ran : selected ring client word = some outcome) :
    outcome.client = client ∧ Quiet outcome := by
  rw [selected, Option.bind_eq_bind, Option.bind_eq_some_iff] at ran
  obtain ⟨streams, _, ran⟩ := ran
  cases ran
  exact ⟨return_send_client ring client _, return_send_quiet ring client _ (show "OK".toList.head? ≠ some 'P' from by decide)⟩

structure Sets (set : RingReader → Option (Text → Bool) → RingReader) (parts : List Text) (received : Option (List UInt8))
    (outcome : Outcome) : Prop where
  reader : outcome.client.reader =
    (expression engine parts received).elim client.reader fun text => set client.reader (patternOf engine text)
  quiet : Quiet outcome

theorem handle_pattern_sets (word : Text) (set : RingReader → Option (Text → Bool) → RingReader) (parts : List Text) :
    (handlePattern word set engine ring client parts).Leaves (Sets engine client set parts) := by
  have silent : Quiet ⟨-1, ring, client, []⟩ := fun _ isReply => absurd isReply List.not_mem_nil
  have unset (first sizeStr : Text) (behind : List Text) (size : Int) (isSize : tryParseInt sizeStr = some size) (some : size ≠ 0) :
      expression engine (first :: sizeStr :: behind) none = none := by
    rw [expression, isSize]
    exact if_neg some
  rw [handlePattern.eq_def]
  split
  · rename_i first sizeStr behind
    split
    · rename_i noSize
      exact ⟨by rw [expression, noSize]; rfl, silent⟩
    · rename_i size isSize
      by_cases none : size = 0
      · rw [if_pos none]
        refine leaves_of_option _ _ fun outcome ran => ?_
        obtain ⟨same, quiet⟩ := selected_quiet ring _ word outcome ran
        refine ⟨?_, quiet⟩
        rw [same, expression, isSize, Option.bind_some, if_pos none]
        rfl
      rw [if_neg none]
      by_cases large : maxRegexLen < size
      · rw [if_pos large]
        exact ⟨by rw [unset first sizeStr behind size isSize none]; rfl, refuse_quiet ring client _ error_plain⟩
      rw [if_neg large]
      by_cases negative : size < 0
      · rw [if_pos negative]
        trivial
      rw [if_neg negative]
      refine ⟨⟨by rw [unset first sizeStr behind size isSize none]; rfl, silent⟩, fun bytes outcome _ ran => ?_⟩
      have asked : expression engine (first :: sizeStr :: behind) (some bytes) = some (engine.decodeUTF8 bytes) := by
        rw [expression, isSize]
        exact if_neg none
      dsimp only at ran
      split at ran
      · obtain ⟨same, quiet⟩ := selected_quiet ring _ word outcome ran
        exact ⟨by rw [same, asked]; rfl, quiet⟩
      · cases ran
        exact ⟨by rw [asked]; rfl, refuse_quiet ring _ _ error_plain⟩
  · rename_i few
    refine ⟨?_, silent⟩
    have nothing : expression engine parts none = none := by
      rw [expression.eq_def]
      split
      · rename_i first sizeStr behind
        exact absurd rfl (few first sizeStr behind)
      · rfl
    rw [nothing]
    rfl

theorem serves_chooses (received : Option (List UInt8)) (outcome : Outcome) (serves : Serves client outcome)
    (noMatch : (readCommand client.dlCommand).parts.head?.map toUpperInvariant ≠ some "MATCH".toList)
    (noReject : (readCommand client.dlCommand).parts.head?.map toUpperInvariant ≠ some "REJECT".toList) :
    Chooses engine client received outcome := by
  refine ⟨serves.filters.limit, fun selection inForce => ?_, serves.passed⟩
  rw [Selection.after]
  rw [if_neg noMatch, if_neg noReject]
  exact ⟨serves.filters.matching.trans inForce.matching, serves.filters.reject.trans inForce.reject⟩

theorem matches_chooses (received : Option (List UInt8)) (outcome : Outcome)
    (isMatch : (readCommand client.dlCommand).parts.head?.map toUpperInvariant = some "MATCH".toList)
    (sets : Sets engine client (fun reader code => { reader with matching := code }) (readCommand client.dlCommand).parts received outcome) :
    Chooses engine client received outcome := by
  have passed : ∀ reply ∈ outcome.sent, Passed client.reader reply := fun reply isReply isPacket =>
    absurd isPacket (sets.quiet reply isReply)
  have reader := sets.reader
  cases asked : expression engine (readCommand client.dlCommand).parts received with
  | none =>
      rw [asked, Option.elim_none] at reader
      refine ⟨by rw [reader], fun selection inForce => ?_, passed⟩
      rw [Selection.after]
      rw [if_pos isMatch, asked, reader]
      exact inForce
  | some text =>
      rw [asked, Option.elim_some] at reader
      refine ⟨by rw [reader], fun selection inForce => ?_, passed⟩
      rw [Selection.after]
      rw [if_pos isMatch, asked, reader]
      exact ⟨rfl, inForce.reject⟩

theorem rejects_chooses (received : Option (List UInt8)) (outcome : Outcome)
    (isReject : (readCommand client.dlCommand).parts.head?.map toUpperInvariant = some "REJECT".toList)
    (sets : Sets engine client (fun reader code => { reader with reject := code }) (readCommand client.dlCommand).parts received outcome) :
    Chooses engine client received outcome := by
  have passed : ∀ reply ∈ outcome.sent, Passed client.reader reply := fun reply isReply isPacket =>
    absurd isPacket (sets.quiet reply isReply)
  have noMatch : (readCommand client.dlCommand).parts.head?.map toUpperInvariant ≠ some "MATCH".toList := by
    rw [isReject]
    decide
  have reader := sets.reader
  cases asked : expression engine (readCommand client.dlCommand).parts received with
  | none =>
      rw [asked, Option.elim_none] at reader
      refine ⟨by rw [reader], fun selection inForce => ?_, passed⟩
      rw [Selection.after]
      rw [if_neg noMatch, if_pos isReject, asked, reader]
      exact inForce
  | some text =>
      rw [asked, Option.elim_some] at reader
      refine ⟨by rw [reader], fun selection inForce => ?_, passed⟩
      rw [Selection.after]
      rw [if_neg noMatch, if_pos isReject, asked, reader]
      exact ⟨inForce.matching, rfl⟩

theorem handle_negotiation_chooses (command : Text) (parts : List Text) (isParts : (readCommand client.dlCommand).parts = parts)
    (isCommand : parts.head?.map toUpperInvariant = some command) :
    (handleNegotiation engine fuel ring client command parts).Leaves (Chooses engine client) := by
  have other (noMatch : command ≠ "MATCH".toList) (noReject : command ≠ "REJECT".toList) (outcome : Outcome)
      (serves : Serves client outcome) : Chooses engine client none outcome := by
    refine serves_chooses engine client none outcome serves ?_ ?_ <;> rw [isParts, isCommand] <;> intro same
    · exact noMatch (Option.some.inj same)
    · exact noReject (Option.some.inj same)
  rw [handleNegotiation]
  split
  · rename_i isId
    exact other (by rw [isId]; decide) (by rw [isId]; decide) _
      (reply_serves ring client _ (show some 'I' ≠ some 'P' from by decide))
  split
  · rename_i isPosition
    exact leaves_of_option _ _ fun outcome ran =>
      other (by rw [isPosition]; decide) (by rw [isPosition]; decide) outcome (handle_position_serves fuel ring client parts outcome ran)
  split
  · rename_i isMatch
    rw [handleMatch]
    refine leaves_mono _ _ (fun received outcome sets => ?_) _ (handle_pattern_sets engine ring client _ _ parts)
    exact matches_chooses engine client received outcome (by rw [isParts, isCommand, isMatch]) (isParts.symm ▸ sets)
  split
  · rename_i isReject
    rw [handleReject]
    refine leaves_mono _ _ (fun received outcome sets => ?_) _ (handle_pattern_sets engine ring client _ _ parts)
    exact rejects_chooses engine client received outcome (by rw [isParts, isCommand, isReject]) (isParts.symm ▸ sets)
  split
  · rename_i noMatch noReject _
    exact other noMatch noReject _ (silent_serves ring client 1)
  · rename_i noMatch noReject _
    exact other noMatch noReject _ (error_serves ring client _)

theorem handle_command_chooses : (handleCommand engine fuel clock ring client).Leaves (Chooses engine client) := by
  rw [handleCommand.eq_def]
  cases isParts : (readCommand client.dlCommand).parts with
  | nil =>
      refine serves_chooses engine client none _ (silent_serves ring client 0) ?_ ?_ <;> rw [isParts] <;> exact fun same => by cases same
  | cons word arguments =>
      have named : (readCommand client.dlCommand).parts.head?.map toUpperInvariant = some (toUpperInvariant word) := by
        rw [isParts]
        rfl
      have other (name : Text) (apart : name ≠ "MATCH".toList ∧ name ≠ "REJECT".toList) (isName : toUpperInvariant word = name)
          (received : Option (List UInt8)) (outcome : Outcome) (serves : Serves client outcome) :
          Chooses engine client received outcome := by
        refine serves_chooses engine client received outcome serves ?_ ?_ <;> rw [named, isName] <;> intro same
        · exact apart.1 (Option.some.inj same)
        · exact apart.2 (Option.some.inj same)
      dsimp only
      split
      · rename_i isWrite
        split
        · exact leaves_mono _ _ (fun received outcome => other _ (by decide) isWrite received outcome) _
            (handle_write_serves clock ring client (word :: arguments))
        · exact other _ (by decide) isWrite none _ (error_serves ring client _)
      split
      · rename_i isInfo
        exact leaves_of_option _ _ fun outcome ran =>
          other _ (by decide) isInfo none outcome (handle_info_serves engine ring client _ outcome ran)
      split
      · rename_i isRead
        refine leaves_of_option _ _ fun outcome ran => other _ (by decide) isRead none outcome ?_
        have serves := handle_read_serves fuel ring _ _ outcome ran
        exact ⟨serves.filters, serves.passed⟩
      split
      · rename_i isStream
        refine other _ (by decide) isStream none _ ⟨?_, fun _ isReply => absurd isReply List.not_mem_nil⟩
        dsimp only
        split
        · exact ⟨rfl, rfl, rfl⟩
        · exact same_filters_refl _
      split
      · rename_i isEnd
        refine other _ (by decide) isEnd none _ ⟨same_filters_refl _, fun reply isReply => ?_⟩
        rw [List.mem_singleton.mp isReply]
        exact plain_passed _ _ (show "ENDSTREAM".toList.head? ≠ some 'P' from by decide)
      · by_cases isId : toUpperInvariant word = "ID".toList
        · rw [if_pos isId]
          exact handle_negotiation_chooses engine fuel ring client _ _ isParts rfl
        · rw [if_neg isId]
          have chooses := handle_negotiation_chooses engine fuel ring { client with state := .command } _ _ isParts rfl
          exact leaves_mono _ _ (fun received outcome chosen => ⟨chosen.limit, chosen.selection, chosen.passed⟩) _ chooses

theorem stream_from_serves (rounds : Nat) (packet : RingPacket) (sent : List Reply)
    (passed : ∀ reply ∈ sent, Passed client.reader reply) (outcome : Outcome)
    (ran : streamFrom fuel ring rounds client packet sent = some outcome) : Serves client outcome := by
  induction rounds generalizing client packet sent with
  | zero =>
      cases ran
      exact ⟨same_filters_refl _, passed⟩
  | succ rounds ih =>
      simp only [streamFrom, Option.bind_eq_bind, Option.bind_eq_some_iff] at ran
      obtain ⟨packetData, _, reading, read, ran⟩ := ran
      have filters := read_next_filters _ _ _ _ _ _ read
      have kept : ∀ reply ∈ sent, Passed reading.reader reply := fun reply isReply =>
        passed_with_reader client reading.reader filters reply (passed reply isReply)
      by_cases error : reading.code = Constants.ringIdError
      · rw [if_pos error] at ran
        cases ran
        exact ⟨filters, passed⟩
      rw [if_neg error] at ran
      by_cases missing : reading.code = Constants.ringIdNone
      · rw [if_pos missing] at ran
        cases ran
        exact ⟨filters, passed⟩
      rw [if_neg missing, Option.bind_eq_some_iff] at ran
      obtain ⟨reply, isReply, ran⟩ := ran
      split at ran
      · refine serves_with_reader client reading.reader filters outcome (ih _ _ _ (fun other member => ?_) ran)
        rcases List.mem_append.mp member with before | new
        · exact kept other before
        · rw [List.mem_singleton.mp new]
          exact passed_with_reader client reading.reader filters reply (reading_passed fuel ring client _ _ reading read error missing reply isReply)
      · cases ran
        exact ⟨filters, passed⟩

theorem stream_packets_serves (cachedPacket : RingPacket) (outcome : Outcome)
    (ran : streamPackets fuel ring client cachedPacket = some outcome) : Serves client outcome := by
  rw [streamPackets] at ran
  split at ran
  · exact stream_from_serves fuel ring client 10 cachedPacket [] (fun _ isReply => absurd isReply List.not_mem_nil) outcome ran
  · cases ran
    exact silent_serves ring client 0

end

-- A PACKET in the log is of a stream that the limit and the selection it was sent under admit.
def Admitted (engine : Engine) (limit : Option (Text → Bool)) (entry : Selection × Reply) : Prop :=
  IsPacket entry.2 → ∃ packet data, packetReply packet data = some entry.2 ∧ entry.1.admits engine limit packet.streamId = true

theorem passed_admitted (engine : Engine) (limit : Option (Text → Bool)) (selection : Selection) (reader : RingReader)
    (isLimit : reader.limit = limit) (inForce : InForce engine selection reader) (reply : Reply) (passed : Passed reader reply) :
    Admitted engine limit (selection, reply) := by
  intro isPacket
  obtain ⟨packet, data, isReply, passes⟩ := passed isPacket
  refine ⟨packet, data, isReply, ?_⟩
  rw [RingBuffer.passes, isLimit, inForce.matching, inForce.reject] at passes
  exact passes

theorem log_admitted (engine : Engine) (limit : Option (Text → Bool)) (log : List (Selection × Reply)) (selection : Selection)
    (sent : List Reply) (before : ∀ entry ∈ log, Admitted engine limit entry)
    (now : ∀ reply ∈ sent, Admitted engine limit (selection, reply)) :
    ∀ entry ∈ log ++ sent.map fun reply => (selection, reply), Admitted engine limit entry := by
  intro entry isEntry
  rcases List.mem_append.mp isEntry with old | new
  · exact before entry old
  · obtain ⟨reply, isReply, rfl⟩ := List.mem_map.mp new
    exact now reply isReply

-- The limit never changes, the patterns are those that were asked for last, and no packet
-- is sent that they do not admit.
theorem selection_served (engine : Engine) (fuel : Nat) (first client : ClientInfo) (selection : Selection)
    (log : List (Selection × Reply)) (run : Subscribed engine fuel first client selection log) (noMatch : first.reader.matching = none)
    (noReject : first.reader.reject = none) :
    client.reader.limit = first.reader.limit ∧ InForce engine selection client.reader ∧
      ∀ entry ∈ log, Admitted engine first.reader.limit entry := by
  induction run with
  | opened => exact ⟨rfl, ⟨noMatch, noReject⟩, fun entry isEntry => absurd isEntry List.not_mem_nil⟩
  | frame client selection log header before ih => exact ih
  | command clock ring client selection log outcome before handled ih =>
      obtain ⟨limit, inForce, admitted⟩ := ih
      have chooses := handle_command_chooses engine fuel clock ring client
      rw [handled] at chooses
      exact ⟨chooses.limit.trans limit, chooses.selection selection inForce, log_admitted engine _ log selection _ admitted
        fun reply isReply => passed_admitted engine _ selection client.reader limit inForce reply (chooses.passed reply isReply)⟩
  | payload clock ring client selection log size next lost outcome bytes before handled long ran ih =>
      obtain ⟨limit, inForce, admitted⟩ := ih
      have leaves := handle_command_chooses engine fuel clock ring client
      rw [handled] at leaves
      have chooses := leaves.2 bytes outcome long ran
      exact ⟨chooses.limit.trans limit, chooses.selection selection inForce, log_admitted engine _ log selection _ admitted
        fun reply isReply => passed_admitted engine _ selection client.reader limit inForce reply (chooses.passed reply isReply)⟩
  | stream ring client selection log cachedPacket outcome before ran ih =>
      obtain ⟨limit, inForce, admitted⟩ := ih
      have serves := stream_packets_serves fuel ring client cachedPacket outcome ran
      exact ⟨serves.filters.limit.trans limit,
        ⟨serves.filters.matching.trans inForce.matching, serves.filters.reject.trans inForce.reject⟩,
        log_admitted engine _ log selection _ admitted fun reply isReply =>
          passed_admitted engine _ selection client.reader limit inForce reply (serves.passed reply isReply)⟩

theorem subscribed_performs (engine : Engine) (fuel : Nat) (first client : ClientInfo) (selection : Selection)
    (log : List (Selection × Reply)) (before : Subscribed engine fuel first client selection log) (clock : NsTime) (ring : RingParams)
    (payload : List UInt8) (whole : ∀ size next lost, handleCommand engine fuel clock ring client = .receives size next lost →
      payload.length = size) (outcome : Outcome) (ran : perform engine fuel ring ⟨clock, client, payload⟩ = some outcome) :
    ∃ after, Subscribed engine fuel first outcome.client after (log ++ outcome.sent.map fun reply => (selection, reply)) := by
  rw [perform] at ran
  dsimp only at ran
  cases handled : handleCommand engine fuel clock ring client with
  | throws =>
      rw [handled] at ran
      cases ran
  | returns result =>
      rw [handled] at ran
      cases ran
      exact ⟨_, .command clock ring client selection log outcome before handled⟩
  | receives size next lost =>
      have long := whole size next lost handled
      rw [handled] at ran
      dsimp only at ran
      rw [if_pos long] at ran
      exact ⟨_, .payload clock ring client selection log size next lost outcome payload before handled long ran⟩

def oneByteRing : RingParams := ringAfter plainEngine 1 twoSlotRing (writing "WRITE A 0 0 A 1".toList)

def asking (client : ClientInfo) (header : Text) : ClientInfo :=
  { client with dlCommand := storeCommand client.dlCommand (encodeASCII header) }

def asksFor (client : ClientInfo) (header : Text) (payload : List UInt8) : Option Outcome :=
  perform SeedLink.readEngine 3 oneByteRing ⟨⟨5⟩, asking client header, payload⟩

theorem one_stream_asked : ((asksFor streaming "MATCH 1".toList [65]).bind fun chosen =>
      (asksFor chosen.client "READ 1".toList []).map fun read => (chosen.sent ++ read.sent).map (·.header)) =
    some ["OK".toList, "PACKET A 1 0 0 0 1".toList] := by
  decide +kernel

def awaited : Handling → Option Nat
  | .receives size _ _ => some size
  | _ => none

theorem selection_served_one_stream : ∃ (client : ClientInfo) (selection : Selection) (log : List (Selection × Reply)),
    log.map (·.2.header) = ["OK".toList, "PACKET A 1 0 0 0 1".toList] ∧ client.reader.limit = none ∧
      InForce SeedLink.readEngine selection client.reader ∧ ∀ entry ∈ log, Admitted SeedLink.readEngine none entry := by
  obtain ⟨chosen, ran, rest⟩ := Option.bind_eq_some_iff.mp one_stream_asked
  obtain ⟨read, ran', headers⟩ := Option.map_eq_some_iff.mp rest
  have one : awaited (handleCommand SeedLink.readEngine 3 ⟨5⟩ oneByteRing (asking streaming "MATCH 1".toList)) = some 1 := by
    decide +kernel
  have none : (asksFor streaming "MATCH 1".toList [65]).bind (fun chosen => awaited (handleCommand SeedLink.readEngine 3 ⟨5⟩ oneByteRing
      (asking chosen.client "READ 1".toList))) = none := by
    decide +kernel
  obtain ⟨selection, matched⟩ := subscribed_performs SeedLink.readEngine 3 streaming _ _ _
    (.frame streaming ⟨[], []⟩ [] (encodeASCII "MATCH 1".toList) .opened) ⟨5⟩ oneByteRing [65]
    (fun size next lost handled => by
      have waits := congrArg awaited handled
      exact Option.some.inj (one.symm.trans waits)) chosen ran
  obtain ⟨after, subscribed⟩ := subscribed_performs SeedLink.readEngine 3 streaming _ _ _
    (.frame chosen.client selection _ (encodeASCII "READ 1".toList) matched) ⟨5⟩ oneByteRing []
    (fun size next lost handled => by
      rw [ran, Option.bind_some] at none
      have waits := congrArg awaited handled
      cases none.symm.trans waits) read ran'
  obtain ⟨limit, inForce, admitted⟩ := selection_served SeedLink.readEngine 3 streaming read.client after _ subscribed rfl rfl
  refine ⟨read.client, after, _, ?_, limit, inForce, admitted⟩
  rw [← headers]
  simp only [List.nil_append, List.map_append, List.map_map, Function.comp_def]

end RingServer.DataLink
