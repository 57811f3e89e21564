import RingServer.Protocols.DataLinkProtocol
import RingServer.Ring.Filters

set_option autoImplicit false

namespace RingServer.DataLink

inductive Emitted : Reply → Prop
  | error (message : Text) (some : message ≠ []) : Emitted (errorReply message)
  | sizedError (message : Text) : Emitted (sizedErrorReply message)
  | ok (data : Option (List UInt8)) (value : UInt64) : Emitted ⟨"OK".toList, data, value, true, true⟩
  | info (type : Text) (known : type ∈ ["STATUS".toList, "STREAMS".toList, "CONNECTIONS".toList]) (data : List UInt8) :
      Emitted ⟨"INFO ".toList ++ type, some data, 0, false, true⟩
  | id (ring : RingParams) (client : ClientInfo) : Emitted (idReply ring client)
  | endStream : Emitted ⟨"ENDSTREAM".toList, none, 0, false, false⟩
  | packet (packet : RingPacket) (data : List UInt8) (reply : Reply) (isReply : packetReply packet data = some reply) : Emitted reply

def Sends (replies : List Reply) : Prop := ∀ reply ∈ replies, Emitted reply ∧ (sendPacket reply).isSome = true

-- What every outcome of a handler has, where P says what it may do to the ring and
-- the filters for the payload it has read.
def Handling.Leaves (P : Option (List UInt8) → Outcome → Prop) : Handling → Prop
  | .throws => True
  | .returns outcome => P none outcome
  | .receives size next lost => P none lost ∧ ∀ bytes outcome, bytes.length = size → next bytes = some outcome → P (some bytes) outcome

structure Moves (ring : RingParams) (client : ClientInfo) (outcome : Outcome) : Prop where
  ring : outcome.ring = ring
  dlCommand : outcome.client.dlCommand = client.dlCommand
  writePerm : outcome.client.writePerm = client.writePerm
  trusted : outcome.client.trusted = client.trusted
  timeWinLimit : outcome.client.timeWinLimit = client.timeWinLimit
  limit : outcome.client.reader.limit = client.reader.limit
  sent : Sends outcome.sent

theorem leaves_of_option (P : Option (List UInt8) → Outcome → Prop) (result : Option Outcome)
    (holds : ∀ outcome, result = some outcome → P none outcome) : (Handling.ofOption result).Leaves P := by
  cases result with
  | none => trivial
  | some outcome => exact holds outcome rfl

theorem leaves_mono (P Q : Option (List UInt8) → Outcome → Prop) (weaker : ∀ received outcome, P received outcome → Q received outcome)
    (handling : Handling) (leaves : handling.Leaves P) : handling.Leaves Q := by
  cases handling with
  | throws => trivial
  | returns outcome => exact weaker none outcome leaves
  | receives size next lost =>
      exact ⟨weaker none lost leaves.1, fun bytes outcome long ran => weaker (some bytes) outcome (leaves.2 bytes outcome long ran)⟩

variable (engine : Engine) (fuel : Nat) (clock : NsTime) (ring : RingParams) (client : ClientInfo)

theorem sends_nil : Sends [] := fun _ member => absurd member List.not_mem_nil

theorem silent_moves (code : Int) : Moves ring client ⟨code, ring, client, []⟩ :=
  ⟨rfl, rfl, rfl, rfl, rfl, rfl, sends_nil⟩

theorem return_send_moves (reply : Reply) (emitted : Emitted reply) : Moves ring client (returnSend ring client reply) := by
  rw [returnSend]
  by_cases fits : (sendPacket reply).isSome
  · rw [if_pos fits]
    exact ⟨rfl, rfl, rfl, rfl, rfl, rfl, fun _ member => List.mem_singleton.mp member ▸ ⟨emitted, fits⟩⟩
  · rw [if_neg fits]
    exact silent_moves ring client (-1)

theorem refuse_moves (reply : Reply) (emitted : Emitted reply) : Moves ring client (refuse ring client reply) :=
  ⟨rfl, rfl, rfl, rfl, rfl, rfl, (return_send_moves ring client reply emitted).sent⟩

theorem moves_with_reader (reader : RingReader) (limit : reader.limit = client.reader.limit) (outcome : Outcome)
    (moves : Moves ring { client with reader := reader } outcome) : Moves ring client outcome :=
  ⟨moves.ring, moves.dlCommand, moves.writePerm, moves.trusted, moves.timeWinLimit, moves.limit.trans limit, moves.sent⟩

theorem positioned_moves (result : UInt64 × RingReader) (same : SameFilters client.reader result.2) :
    Moves ring client (positioned ring client result) := by
  apply moves_with_reader ring client result.2 same.limit
  rw [positioned]
  by_cases error : result.1 = Constants.ringIdError
  · rw [if_pos error]
    exact refuse_moves ring _ _ (.error _ (by decide))
  · by_cases missing : result.1 = Constants.ringIdNone
    · rw [if_neg error, if_pos missing]
      exact refuse_moves ring _ _ (.error _ (by decide))
    · rw [if_neg error, if_neg missing]
      exact return_send_moves ring _ _ (.ok _ _)

theorem handle_position_moves (parts : List Text) (outcome : Outcome)
    (ran : handlePosition fuel ring client parts = some outcome) : Moves ring client outcome := by
  have error (message : Text) (some : message ≠ []) := refuse_moves ring client (errorReply message) (.error message some)
  rw [handlePosition.eq_def] at ran
  split at ran
  · rename_i word subcmd valueStr behind
    by_cases many : 1 < behind.length
    · rw [if_pos many] at ran
      cases ran
      exact error _ (by decide)
    rw [if_neg many] at ran
    by_cases set : toUpperInvariant subcmd = "SET".toList
    · rw [if_pos set] at ran
      dsimp only at ran
      split at ran
      · cases ran
        exact error _ (by decide)
      · obtain ⟨result, moved, rfl⟩ := Option.map_eq_some_iff.mp ran
        exact positioned_moves ring client result (position_filters _ _ _ _ _ _ moved)
    rw [if_neg set] at ran
    by_cases after : toUpperInvariant subcmd = "AFTER".toList ∨ toUpperInvariant subcmd = "AFTERREV".toList
    · rw [if_pos after] at ran
      cases time : tryParseLong valueStr with
      | none =>
          rw [time] at ran
          cases ran
          exact error _ (by decide)
      | some ht =>
          rw [time] at ran
          dsimp only at ran
          cases limit : client.timeWinLimit with
          | whole =>
              rw [limit] at ran
              dsimp only at ran
              by_cases rev : toUpperInvariant subcmd = "AFTERREV".toList
              · rw [if_pos rev] at ran
                obtain ⟨result, moved, rfl⟩ := Option.map_eq_some_iff.mp ran
                exact positioned_moves ring client result (after_rev_filters _ _ _ _ _ _ moved)
              · rw [if_neg rev] at ran
                obtain ⟨result, moved, rfl⟩ := Option.map_eq_some_iff.mp ran
                exact positioned_moves ring client result (after_filters _ _ _ _ _ _ moved)
          | part packets =>
              rw [limit] at ran
              obtain ⟨result, moved, rfl⟩ := Option.map_eq_some_iff.mp ran
              exact positioned_moves ring client result (after_rev_filters _ _ _ _ _ _ moved)
          | invalid =>
              rw [limit] at ran
              cases ran
              exact error _ (by decide)
    · rw [if_neg after] at ran
      cases ran
      exact error _ (by decide)
  · cases ran
    exact error _ (by decide)

theorem selected_moves (word : Text) (outcome : Outcome) (ran : selected ring client word = some outcome) :
    Moves ring client outcome := by
  rw [selected, Option.bind_eq_bind, Option.bind_eq_some_iff] at ran
  obtain ⟨streams, _, ran⟩ := ran
  cases ran
  exact return_send_moves ring client _ (.ok _ _)

theorem handle_pattern_moves (word : Text) (set : RingReader → Option (Text → Bool) → RingReader)
    (limit : ∀ reader code, (set reader code).limit = reader.limit) (parts : List Text) :
    (handlePattern word set engine ring client parts).Leaves fun _ => Moves ring client := by
  rw [handlePattern.eq_def]
  split
  · split
    · exact silent_moves ring client (-1)
    · rename_i size _
      by_cases none : size = 0
      · rw [if_pos none]
        exact leaves_of_option _ _ fun outcome ran =>
          moves_with_reader ring client _ (limit _ _) outcome (selected_moves ring _ word outcome ran)
      · rw [if_neg none]
        by_cases large : maxRegexLen < size
        · rw [if_pos large]
          exact refuse_moves ring client _ (.sizedError _)
        · rw [if_neg large]
          by_cases negative : size < 0
          · rw [if_pos negative]
            trivial
          · rw [if_neg negative]
            refine ⟨silent_moves ring client (-1), fun regexBytes outcome _ ran => ?_⟩
            dsimp only at ran
            apply moves_with_reader ring client _ (limit client.reader (RingBuffer.updatePattern engine (engine.decodeUTF8 regexBytes)).2)
            by_cases compiled : (RingBuffer.updatePattern engine (engine.decodeUTF8 regexBytes)).1 = true
            · rw [if_pos compiled] at ran
              exact selected_moves ring _ word outcome ran
            · rw [if_neg compiled] at ran
              cases ran
              exact refuse_moves ring _ _ (.error _ (by simp))
  · exact silent_moves ring client (-1)

theorem handle_read_moves (parts : List Text) (outcome : Outcome) (ran : handleRead fuel ring client parts = some outcome) :
    Moves ring client outcome := by
  rw [handleRead.eq_def] at ran
  split at ran
  · split at ran
    · cases ran
      exact silent_moves ring client (-1)
    · simp only [Option.bind_eq_bind, Option.bind_eq_some_iff] at ran
      obtain ⟨db, _, reading, read, ran⟩ := ran
      apply moves_with_reader ring client reading.reader (read_next_filters _ _ _ _ _ _ read).limit
      by_cases error : reading.code = Constants.ringIdError
      · rw [if_pos error] at ran
        cases ran
        exact refuse_moves ring _ _ (.error _ (by decide))
      · by_cases missing : reading.code = Constants.ringIdNone
        · rw [if_neg error, if_pos missing] at ran
          cases ran
          exact refuse_moves ring _ _ (.error _ (by decide))
        · rw [if_neg error, if_neg missing, Option.bind_eq_some_iff] at ran
          obtain ⟨reply, isReply, ran⟩ := ran
          cases ran
          exact return_send_moves ring _ reply (.packet _ _ reply isReply)
  · cases ran
    exact refuse_moves ring client _ (.error _ (by decide))

theorem handle_info_moves (parts : List Text) (outcome : Outcome) (ran : handleInfo engine ring client parts = some outcome) :
    Moves ring client outcome := by
  rw [handleInfo.eq_def] at ran
  split at ran
  · rename_i word level behind
    dsimp only at ran
    by_cases streams : toUpperInvariant level = "STREAMS".toList
    · rw [if_pos streams] at ran
      obtain ⟨listed, _, rfl⟩ := Option.map_eq_some_iff.mp ran
      exact return_send_moves ring client _ (.info _ (by rw [streams]; decide) _)
    rw [if_neg streams] at ran
    by_cases status : toUpperInvariant level = "STATUS".toList
    · rw [if_pos status] at ran
      cases ran
      exact return_send_moves ring client _ (.info _ (by rw [status]; decide) _)
    rw [if_neg status] at ran
    by_cases connections : toUpperInvariant level = "CONNECTIONS".toList
    · rw [if_pos connections] at ran
      by_cases trusted : client.trusted = true
      · rw [if_pos trusted] at ran
        cases ran
        exact return_send_moves ring client _ (.info _ (by rw [connections]; decide) _)
      · rw [if_neg trusted] at ran
        cases ran
        exact refuse_moves ring client _ (.sizedError _)
    · rw [if_neg connections] at ran
      cases ran
      exact refuse_moves ring client _ (.sizedError _)
  · cases ran
    exact silent_moves ring client (-1)

theorem handle_negotiation_moves (command : Text) (parts : List Text) :
    (handleNegotiation engine fuel ring client command parts).Leaves fun _ => Moves ring client := by
  rw [handleNegotiation]
  split
  · exact return_send_moves ring client _ (.id ring client)
  split
  · exact leaves_of_option _ _ (handle_position_moves fuel ring client parts)
  split
  · rw [handleMatch]
    apply handle_pattern_moves
    exact fun _ _ => rfl
  split
  · rw [handleReject]
    apply handle_pattern_moves
    exact fun _ _ => rfl
  split
  · exact silent_moves ring client 1
  · exact refuse_moves ring client _ (.error _ (by decide))

theorem stream_from_moves (rounds : Nat) (packet : RingPacket) (sent : List Reply) (emitted : Sends sent)
    (outcome : Outcome) (ran : streamFrom fuel ring rounds client packet sent = some outcome) : Moves ring client outcome := by
  induction rounds generalizing client packet sent with
  | zero =>
      cases ran
      exact ⟨rfl, rfl, rfl, rfl, rfl, rfl, emitted⟩
  | succ rounds ih =>
      simp only [streamFrom, Option.bind_eq_bind, Option.bind_eq_some_iff] at ran
      obtain ⟨packetData, _, reading, read, ran⟩ := ran
      apply moves_with_reader ring client reading.reader (read_next_filters _ _ _ _ _ _ read).limit
      by_cases error : reading.code = Constants.ringIdError
      · rw [if_pos error] at ran
        cases ran
        exact ⟨rfl, rfl, rfl, rfl, rfl, rfl, emitted⟩
      rw [if_neg error] at ran
      by_cases missing : reading.code = Constants.ringIdNone
      · rw [if_pos missing] at ran
        cases ran
        exact ⟨rfl, rfl, rfl, rfl, rfl, rfl, emitted⟩
      rw [if_neg missing, Option.bind_eq_some_iff] at ran
      obtain ⟨reply, isReply, ran⟩ := ran
      by_cases fits : (sendPacket reply).isSome = true
      · rw [if_pos fits] at ran
        refine ih _ _ _ (fun other member => ?_) ran
        rw [List.mem_append, List.mem_singleton] at member
        cases member with
        | inl before => exact emitted other before
        | inr same => exact same ▸ ⟨.packet _ _ reply isReply, fits⟩
      · rw [if_neg fits] at ran
        cases ran
        exact ⟨rfl, rfl, rfl, rfl, rfl, rfl, emitted⟩

theorem stream_packets_moves (cachedPacket : RingPacket) (outcome : Outcome)
    (ran : streamPackets fuel ring client cachedPacket = some outcome) : Moves ring client outcome := by
  rw [streamPackets] at ran
  by_cases streaming : client.state = .stream
  · rw [if_pos streaming] at ran
    exact stream_from_moves fuel ring client 10 cachedPacket [] sends_nil outcome ran
  · rw [if_neg streaming] at ran
    cases ran
    exact silent_moves ring client 0

structure Asks (parts : List Text) (packet : RingPacket) (db : List UInt8) : Prop where
  limit : client.reader.limit.all (· packet.streamId) = true
  fits : ¬ 112 + packet.dataSize > ring.pktSize
  array : packet.dataSize.toNat ≤ RingBuffer.maxArrayLength
  payload : db.length = packet.dataSize.toNat
  blank : packet = ⟨0, packet.pktId, ⟨0⟩, 0, packet.streamId, packet.dataStart, packet.dataEnd, packet.dataSize⟩
  request : ∃ word streamId startStr endStr flags sizeStr behind,
    parts = word :: streamId :: startStr :: endStr :: flags :: sizeStr :: behind ∧
    packet.pktId = requestedId flags behind.head? ∧ packet.streamId = canonicalStreamId streamId ∧
    streamId.length ≤ Constants.maxStreamId - 1 ∧ (tryParseLong startStr).map microseconds = some packet.dataStart ∧
    (tryParseLong endStr).map microseconds = some packet.dataEnd ∧ tryParseUInt sizeStr = some packet.dataSize

def IsWrite (client : ClientInfo) : Prop :=
  (readCommand client.dlCommand).parts.head?.map toUpperInvariant = some "WRITE".toList

-- What one command does: it leaves the ring alone, or it is a WRITE of a client
-- with write permission.
inductive Does (received : Option (List UInt8)) (outcome : Outcome) : Prop
  | moves (moves : Moves ring client outcome)
  | writes (packet stored : RingPacket) (db : List UInt8) (payload : received = some db) (command : IsWrite client)
    (perm : client.writePerm = true)
      (asks : Asks ring client (readCommand client.dlCommand).parts packet db)
      (wrote : RingBuffer.write clock ring packet db packet.dataSize = some (0, outcome.ring, stored))
      (kept : outcome.client = client) (sent : Sends outcome.sent)

theorem store_packet_does (flags : Text) (packet : RingPacket) (db : List UInt8) (outcome : Outcome)
    (command : IsWrite client) (perm : client.writePerm = true) (asks : Asks ring client (readCommand client.dlCommand).parts packet db)
    (ran : storePacket clock ring client flags packet db = some outcome) : Does clock ring client (some db) outcome := by
  simp only [storePacket, Option.bind_eq_bind, Option.bind_eq_some_iff] at ran
  obtain ⟨⟨rv, ring', stored⟩, wrote, ran⟩ := ran
  have success : rv = 0 := by
    rw [RingBuffer.write, if_neg asks.fits, Option.map_eq_some_iff] at wrote
    obtain ⟨_, _, same⟩ := wrote
    exact (congrArg Prod.fst same).symm
  subst success
  dsimp only at ran
  rw [if_neg (fun different => different rfl)] at ran
  by_cases acknowledge : 'A' ∈ flags
  · rw [if_pos acknowledge] at ran
    cases ran
    have moves := return_send_moves ring' client ⟨"OK".toList, none, stored.pktId, true, true⟩ (.ok none stored.pktId)
    have kept : (returnSend ring' client ⟨"OK".toList, none, stored.pktId, true, true⟩).client = client := by
      rw [returnSend]
      split <;> rfl
    exact .writes packet stored db rfl command perm asks (moves.ring.symm ▸ wrote) kept moves.sent
  · rw [if_neg acknowledge] at ran
    cases ran
    exact .writes packet stored db rfl command perm asks wrote rfl sends_nil

theorem handle_write_does (command : IsWrite client) (perm : client.writePerm = true) :
    (handleWrite clock ring client (readCommand client.dlCommand).parts).Leaves (Does clock ring client) := by
  have refused (message : Text) : Does clock ring client none (refuse ring client (sizedErrorReply message)) :=
    .moves (refuse_moves ring client _ (.sizedError message))
  rw [handleWrite.eq_def]
  split
  · rename_i word streamId startStr endStr flags sizeStr behind isParts
    by_cases long : Constants.maxStreamId - 1 < streamId.length
    · rw [if_pos long]
      exact refused _
    rw [if_neg long]
    split
    · rename_i dsHt deHt dSize isStart isEnd isSize
      dsimp only
      by_cases limit : ¬ client.reader.limit.all (· (canonicalStreamId streamId)) = true
      · rw [if_pos limit]
        exact refused _
      rw [if_neg limit]
      by_cases large : 112 + dSize > ring.pktSize
      · rw [if_pos large]
        exact refused _
      rw [if_neg large]
      by_cases array : RingBuffer.maxArrayLength < dSize.toNat
      · rw [if_pos array]
        trivial
      rw [if_neg array]
      refine ⟨.moves (silent_moves ring client (-1)), fun db outcome payload ran => ?_⟩
      refine store_packet_does clock ring client flags _ db outcome command perm
        ⟨not_not.mp limit, large, not_lt.mp array, payload, rfl, ?_⟩ ran
      exact ⟨word, streamId, startStr, endStr, flags, sizeStr, behind, isParts, rfl, rfl, not_lt.mp long,
        by rw [isStart]; rfl, by rw [isEnd]; rfl, isSize⟩
    · exact refused _
  · exact refused _

theorem handle_command_does : (handleCommand engine fuel clock ring client).Leaves (Does clock ring client) := by
  rw [handleCommand.eq_def]
  cases isParts : (readCommand client.dlCommand).parts with
  | nil => exact .moves (silent_moves ring client 0)
  | cons word arguments =>
      have toCommand : ∀ received outcome, Moves ring { client with state := .command } outcome → Does clock ring client received outcome :=
        fun _ outcome moves => .moves ⟨moves.ring, moves.dlCommand, moves.writePerm, moves.trusted, moves.timeWinLimit, moves.limit,
          moves.sent⟩
      dsimp only
      split
      · rename_i isCommand
        by_cases perm : client.writePerm = true
        · have command : IsWrite client := by rw [IsWrite, isParts, List.head?_cons, Option.map_some, isCommand]
          rw [if_pos perm, ← isParts]
          exact handle_write_does clock ring client command perm
        · rw [if_neg perm]
          exact .moves (refuse_moves ring client _ (.error _ (by decide)))
      split
      · exact leaves_of_option _ _ fun outcome ran => .moves (handle_info_moves engine ring client _ outcome ran)
      split
      · exact leaves_of_option _ _ fun outcome ran => toCommand none outcome (handle_read_moves fuel ring _ _ outcome ran)
      split
      · refine .moves ⟨rfl, rfl, rfl, rfl, rfl, ?_, sends_nil⟩
        dsimp only
        split <;> rfl
      split
      · exact .moves ⟨rfl, rfl, rfl, rfl, rfl, rfl, fun _ member => List.mem_singleton.mp member ▸ ⟨.endStream, by decide⟩⟩
      · by_cases isId : toUpperInvariant word = "ID".toList
        · rw [if_pos isId]
          exact leaves_mono _ _ (fun _ outcome moves => .moves moves) _ (handle_negotiation_moves engine fuel ring client _ _)
        · rw [if_neg isId]
          exact leaves_mono _ _ toCommand _ (handle_negotiation_moves engine fuel ring _ _ _)

end RingServer.DataLink
