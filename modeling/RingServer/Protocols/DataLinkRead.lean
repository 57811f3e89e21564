import RingServer.Protocols.DataLinkRoundTrip
import RingServer.Ring.KeepSentinel
import RingServer.Ring.ScanEnds

set_option autoImplicit false

namespace RingServer.DataLink

open Library

structure ReadHit (ring : RingParams) (reader : RingReader) (pktId : UInt64) (offset : Int64) (pkt : RingPacket) : Prop where
  held : HeldAt ring offset
  isRead : RingBuffer.readPacketAtOffset ring offset = some pkt
  named : pkt.pktId = pktId
  allowed : reader.limit.all (· pkt.streamId) = true

def NoHit (ring : RingParams) (reader : RingReader) (pktId : UInt64) : Prop :=
  ∀ offset pkt, ¬ ReadHit ring reader pktId offset pkt

def slotReply (pkt : RingPacket) (payload : List UInt8) : Reply := ⟨packetHeader pkt, some (pkt.serialize ++ payload), 0, false, false⟩

-- READ replies with the packet that it names and leaves the reader on it, or replies
-- with an error when there is none.
def ReadObeys (engine : Engine) (fuel : Nat) (clock : NsTime) (ring : RingParams) (client : ClientInfo) (pktId : UInt64) : Prop :=
  (∃ offset pkt payload outcome, ReadHit ring client.reader pktId offset pkt ∧
    RingBuffer.spanAt ring (RingBuffer.bufOffset ring offset + 112) pkt.dataSize.toNat = some payload ∧
    handleCommand engine fuel clock ring client = .returns outcome ∧ outcome.sent = [slotReply pkt payload] ∧
    outcome.client.reader = RingBuffer.moveTo client.reader offset pkt) ∨
  (NoHit ring client.reader pktId ∧ ∃ outcome message, handleCommand engine fuel clock ring client = .returns outcome ∧
    outcome.sent = [errorReply message])

-- The packet that is due to the reader is the one that READ names. An ID that stands for
-- none or for an error is taken for one.
def ReadsDue (ring : RingParams) (reader : RingReader) (pktId : UInt64) : Prop :=
  112 ≤ ring.pktSize.toNat ∧ match nextDue ring reader with
    | .item found =>
        if found.2.pktId = Constants.ringIdNone ∨ found.2.pktId = Constants.ringIdError then
          NoHit ring reader pktId ∧
            (RingBuffer.copyData ring found.1 found.2.dataSize (some (List.replicate (packetSize ring).toNat 0))).isSome = true
        else HeldAt ring found.1 ∧ found.2.pktId = pktId ∧ found.2.dataSize.toNat + 112 ≤ ring.pktSize.toNat
    | .nothing => NoHit ring reader pktId
    | .never => False

theorem decimal_length (n k : Nat) (positive : 0 < k) (small : n < 10 ^ k) : (decimal n).length ≤ k :=
  (Nat.length_toDigits_le_iff (by decide) positive).mpr small

theorem decimal_int64_length (value : Int64) : (decimalInt value.toInt).length ≤ 20 := by
  have low := value.le_toInt
  have high := value.toInt_lt
  have digits : (decimal value.toInt.natAbs).length ≤ 19 := decimal_length _ 19 (by decide) (by omega)
  rw [decimalInt]
  by_cases negative : value.toInt < 0
  · rw [if_pos negative, List.length_cons]
    omega
  · rw [if_neg negative]
    omega

theorem words_fit (streamId id time first last size : Text) (stream : streamId.length ≤ 60) (ids : id.length ≤ 20)
    (times : time.length ≤ 20) (firsts : first.length ≤ 20) (lasts : last.length ≤ 20) (sizes : size.length ≤ 10) :
    ("PACKET ".toList ++ streamId ++ ' ' :: (id ++ ' ' :: (time ++ ' ' :: (first ++ ' ' :: (last ++ ' ' :: size))))).length ≤ 255 := by
  have word : "PACKET ".toList.length = 7 := rfl
  simp only [List.length_append, List.length_cons, word]
  omega

theorem packet_header_fits (pkt : RingPacket) (short : pkt.streamId.length ≤ 60) (payload : List UInt8) :
    (sendPacket (slotReply pkt payload)).isSome = true := by
  have id : (showId pkt.pktId).length ≤ 20 := by
    have bound := pkt.pktId.toNat_lt
    exact decimal_length _ 20 (by decide) (by omega)
  have size : (decimal pkt.dataSize.toNat).length ≤ 10 := by
    have bound := pkt.dataSize.toNat_lt
    exact decimal_length _ 10 (by decide) (by omega)
  have time := decimal_int64_length (pkt.pktTime.value / 1000)
  have first := decimal_int64_length (pkt.dataStart.value / 1000)
  have last := decimal_int64_length (pkt.dataEnd.value / 1000)
  have text (header : Text) (data : Option (List UInt8)) : (Reply.mk header data 0 false false).headerText = header := rfl
  have long : (packetHeader pkt).length ≤ 255 := words_fit _ _ _ _ _ _ short id time first last size
  have fits : ¬ 255 < (encodeASCII (packetHeader pkt)).length := by
    intro beyond
    rw [encode_length] at beyond
    exact absurd long (not_le.mpr beyond)
  rw [sendPacket, slotReply, text, if_neg fits]
  rfl

theorem read_stream_id_length (ring : RingParams) (offset : Int64) (pkt : RingPacket)
    (isRead : RingBuffer.readPacketAtOffset ring offset = some pkt) : pkt.streamId.length ≤ 60 := by
  rw [RingBuffer.readPacketAtOffset] at isRead
  by_cases negative : offset < 0
  · rw [if_pos negative] at isRead
    cases isRead
  rw [if_neg negative] at isRead
  by_cases outside : (ring.dataBuffer.length : Int) < (RingBuffer.bufOffset ring offset + 112).toInt
  · rw [if_pos outside] at isRead
    cases isRead
  rw [if_neg outside] at isRead
  obtain ⟨bytes, _, rfl⟩ := Option.map_eq_some_iff.mp isRead
  have shorter := (List.takeWhile_sublist (fun c => decide (c ≠ Char.ofNat 0))
    (l := decodeASCII ((bytes.drop 32).take Constants.maxStreamId))).length_le
  rw [decodeASCII, List.length_map, List.length_take] at shorter
  exact shorter.trans (Nat.min_le_left _ _)

theorem error_sent (ring : RingParams) (client : ClientInfo) (message : Text) :
    (refuse ring client (errorReply message)).sent = [errorReply message] := by
  have fits : (sendPacket (errorReply message)).isSome = true := by
    have text : (errorReply message).headerText = "ERROR".toList := rfl
    rw [sendPacket, text, if_neg (by decide)]
    rfl
  rw [refuse, returnSend, if_pos fits]

theorem slot_reply_ne_error (pkt : RingPacket) (payload : List UInt8) (message : Text) : slotReply pkt payload ≠ errorReply message := by
  intro same
  have first := congrArg (fun reply => reply.header.head?) same
  have packet : (slotReply pkt payload).header.head? = some 'P' := rfl
  have error : (errorReply message).header.head? = some 'E' := rfl
  rw [packet, error] at first
  cases first

inductive ReadCommand (client : ClientInfo) (pktId : UInt64) : Prop where
  | words (word idStr : Text) (behind : List Text) (isParts : (readCommand client.dlCommand).parts = word :: idStr :: behind)
      (isRead : toUpperInvariant word = "READ".toList) (isId : tryParseULong idStr = some pktId) : ReadCommand client pktId

def answerReading (ring : RingParams) (client : ClientInfo) (reading : RingBuffer.Reading) : Option Outcome :=
  let client := { client with reader := reading.reader }
  if reading.code = Constants.ringIdError then some (refuse ring client (errorReply "Error reading packet from ring".toList))
  else if reading.code = Constants.ringIdNone then some (refuse ring client (errorReply "Packet not found".toList))
  else (packetReply reading.packet (reading.data.getD [])).bind fun reply => some (returnSend ring client reply)

theorem read_command_reads (engine : Engine) (fuel : Nat) (clock : NsTime) (ring : RingParams) (client : ClientInfo) (pktId : UInt64)
    (isCommand : ReadCommand client pktId) : handleCommand engine fuel clock ring client = .ofOption
      ((newData ring).bind fun db => (RingBuffer.readNext fuel ring client.reader newPacket (some db)).bind
        (answerReading ring { client with state := .command })) := by
  obtain ⟨word, idStr, behind, isParts, isRead, isId⟩ := isCommand
  have notWrite : ¬ "READ".toList = "WRITE".toList := by decide
  have notInfo : ¬ "READ".toList = "INFO".toList := by decide
  rw [handleCommand, isParts]
  dsimp only
  rw [isRead, if_neg notWrite, if_neg notInfo, if_pos rfl, handleRead]
  simp only [isId]
  rfl

section

variable (ring : RingParams) (client : ClientInfo)

theorem answer_error (reading : RingBuffer.Reading)
    (reserved : reading.code = Constants.ringIdNone ∨ reading.code = Constants.ringIdError) :
    ∃ outcome message, answerReading ring client reading = some outcome ∧ outcome.sent = [errorReply message] := by
  rw [answerReading]
  by_cases error : reading.code = Constants.ringIdError
  · rw [if_pos error]
    exact ⟨_, _, rfl, error_sent ring _ _⟩
  · rw [if_neg error, if_pos (reserved.resolve_right error)]
    exact ⟨_, _, rfl, error_sent ring _ _⟩

theorem answer_packet (reading : RingBuffer.Reading) (bytes rest : List UInt8) (data : reading.data = some (bytes ++ rest))
    (size : bytes.length = reading.packet.dataSize.toNat) (short : reading.packet.streamId.length ≤ 60)
    (notNone : reading.code ≠ Constants.ringIdNone) (notError : reading.code ≠ Constants.ringIdError) :
    ∃ outcome, answerReading ring client reading = some outcome ∧ outcome.sent = [slotReply reading.packet bytes] ∧
      outcome.client.reader = reading.reader := by
  have inside : reading.packet.dataSize.toNat ≤ (bytes ++ rest).length := by
    rw [List.length_append]
    omega
  have reply : packetReply reading.packet (bytes ++ rest) = some (slotReply reading.packet bytes) := by
    rw [packetReply, if_pos inside, List.take_left' size]
    rfl
  rw [answerReading]
  rw [if_neg notError, if_neg notNone, data, Option.getD_some, reply, Option.bind_some, returnSend,
    if_pos (packet_header_fits reading.packet short bytes)]
  exact ⟨_, rfl, rfl, rfl⟩

theorem answer_short (reading : RingBuffer.Reading) (data : List UInt8) (isData : reading.data = some data)
    (long : data.length < reading.packet.dataSize.toNat)
    (notNone : reading.code ≠ Constants.ringIdNone) (notError : reading.code ≠ Constants.ringIdError) :
    answerReading ring client reading = none := by
  rw [answerReading]
  rw [if_neg notError, if_neg notNone, isData, Option.getD_some, packetReply, if_neg (not_le.mpr long), Option.bind_none]

end

theorem copy_long (ring : RingParams) (offset : Int64) (dataSize : UInt32) (buffer : List UInt8) (long : buffer.length < dataSize.toNat) :
    RingBuffer.copyData ring offset dataSize (some buffer) = none ∨
      RingBuffer.copyData ring offset dataSize (some buffer) = some (some buffer) := by
  have positive : dataSize > 0 := by
    rw [gt_iff_lt, UInt32.lt_iff_toNat_lt]
    exact Nat.lt_of_le_of_lt (Nat.zero_le _) long
  rw [RingBuffer.copyData]
  dsimp only
  rw [if_pos positive]
  by_cases inside : (RingBuffer.bufOffset ring offset + 112 + dataSize.toInt32).toInt ≤ ring.dataBuffer.length
  · have throws : dataSize.toInt32.toInt < 0 ∨ (buffer.length : Int) < dataSize.toInt32.toInt := by
      by_cases small : dataSize.toNat < 2 ^ 31
      · right
        have same : dataSize.toInt32 = Int32.ofNat dataSize.toNat := by
          rw [← UInt32.toInt32_ofNat', UInt32.ofNat_toNat]
        rw [same, Int32.toInt_ofNat_of_lt small]
        exact Int.ofNat_lt.mpr long
      · left
        exact negative_size dataSize (Nat.not_lt.mp small)
    rw [if_pos inside, if_pos throws]
    exact Or.inl rfl
  · rw [if_neg inside]
    exact Or.inr rfl

section

variable (engine : Engine) (fuel : Nat) (clock : NsTime) (ring : RingParams) (client : ClientInfo) (pktId : UInt64)

theorem throws_disobeys (throws : handleCommand engine fuel clock ring client = .throws) :
    ¬ ReadObeys engine fuel clock ring client pktId := by
  rintro (⟨_, _, _, outcome, _, _, returned, _⟩ | ⟨_, outcome, _, returned, _⟩)
  · rw [throws] at returned
    cases returned
  · rw [throws] at returned
    cases returned

theorem error_obeys_iff (outcome : Outcome) (message : Text) (returned : handleCommand engine fuel clock ring client = .returns outcome)
    (sent : outcome.sent = [errorReply message]) : ReadObeys engine fuel clock ring client pktId ↔ NoHit ring client.reader pktId := by
  constructor
  · rintro (⟨_, pkt, payload, other, _, _, same, isSent, _⟩ | ⟨missing, _⟩)
    · rw [returned, Handling.returns.injEq] at same
      rw [← same, sent, List.cons.injEq] at isSent
      exact absurd isSent.1.symm (slot_reply_ne_error pkt payload message)
    · exact missing
  · exact fun missing => Or.inr ⟨missing, outcome, message, returned, sent⟩

theorem packet_obeys_iff (outcome : Outcome) (offset : Int64) (pkt : RingPacket) (payload : List UInt8)
    (isRead : RingBuffer.readPacketAtOffset ring offset = some pkt) (passes : RingBuffer.passes client.reader pkt.streamId = true)
    (isPayload : RingBuffer.spanAt ring (RingBuffer.bufOffset ring offset + 112) pkt.dataSize.toNat = some payload)
    (returned : handleCommand engine fuel clock ring client = .returns outcome) (sent : outcome.sent = [slotReply pkt payload])
    (moved : outcome.client.reader = RingBuffer.moveTo client.reader offset pkt) :
    ReadObeys engine fuel clock ring client pktId ↔ HeldAt ring offset ∧ pkt.pktId = pktId := by
  constructor
  · rintro (⟨offset', pkt', payload', other, hit, _, same, _, onIt⟩ | ⟨_, other, message, same, isSent⟩)
    · rw [returned, Handling.returns.injEq] at same
      rw [← same, moved] at onIt
      have sameOffset : offset = offset' := congrArg RingReader.pktOffset onIt
      have sameId : pkt.pktId = pkt'.pktId := congrArg RingReader.pktId onIt
      exact ⟨sameOffset ▸ hit.held, sameId.trans hit.named⟩
    · rw [returned, Handling.returns.injEq] at same
      rw [← same, sent, List.cons.injEq] at isSent
      exact absurd isSent.1 (slot_reply_ne_error pkt payload message)
  · rintro ⟨held, named⟩
    rw [RingBuffer.passes, Bool.and_eq_true, Bool.and_eq_true] at passes
    exact Or.inl ⟨offset, pkt, payload, outcome, ⟨held, isRead, named, passes.1.1⟩, isPayload, returned, sent, moved⟩

theorem new_data_small (small : ring.pktSize.toNat < 112) : newData ring = none := by
  have size : (packetSize ring).toNat = 2 ^ 32 + ring.pktSize.toNat - 112 := by
    have header : (112 : UInt32).toNat = 112 := rfl
    rw [packetSize, UInt32.toNat_sub, header]
    omega
  have limit : RingBuffer.maxArrayLength < 2 ^ 31 := by decide
  rw [newData, if_pos (by omega)]

theorem new_data_large (large : 112 ≤ ring.pktSize.toNat) (bound : ring.pktSize.toNat < 2 ^ 30) :
    newData ring = some (List.replicate (packetSize ring).toNat 0) ∧ (packetSize ring).toNat = ring.pktSize.toNat - 112 := by
  have header : (112 : UInt32).toNat = 112 := rfl
  have inside : 112 ≤ ring.pktSize := UInt32.le_iff_toNat_le.mpr (header ▸ large)
  have size : (packetSize ring).toNat = ring.pktSize.toNat - 112 := by
    rw [packetSize, UInt32.toNat_sub_of_le _ _ inside, header]
  have limit : 2 ^ 30 < RingBuffer.maxArrayLength := by decide
  exact ⟨by rw [newData, if_neg (by omega)], size⟩

end

-- READ steps the reader on, so it does what it is to do where the packet that is due is
-- the one that is asked for.
theorem read_obeys_iff (engine : Engine) (fuel : Nat) (clock : NsTime) (ring : RingParams) (client : ClientInfo) (pktId : UInt64)
    (attached : Attached ring client.reader) (enough : 2 * ring.maxPackets.toNat + 100 < fuel) (isCommand : ReadCommand client pktId) :
    ReadObeys engine fuel clock ring client pktId ↔ ReadsDue ring client.reader pktId := by
  obtain ⟨g, journal, keeps, maxPackets, slotted⟩ := attached_on_slot ring client.reader attached
  have outcome := kept_outcome g ring journal keeps maxPackets client.reader slotted
  have reads := read_command_reads engine fuel clock ring client pktId isCommand
  have slot := keeps.shaped.pktSize
  have two := g.two
  have room := g.room
  have small := g.small
  have half : 2 * g.slot ≤ g.count * g.slot := Nat.mul_le_mul_right _ two
  rw [ReadsDue]
  by_cases large : 112 ≤ ring.pktSize.toNat
  swap
  · rw [new_data_small ring (Nat.not_le.mp large), Option.bind_none] at reads
    exact iff_of_false (throws_disobeys engine fuel clock ring client pktId reads) fun due => large due.1
  obtain ⟨isData, length⟩ := new_data_large ring large (by omega)
  rw [isData, Option.bind_some] at reads
  generalize nextDue ring client.reader = isDue at outcome ⊢
  cases outcome with
  | item visited k pkt few visits isRead passes ran =>
      have result := ran fuel (by omega) newPacket (some (List.replicate (packetSize ring).toNat 0))
      have zeros : (List.replicate (packetSize ring).toNat (0 : UInt8)).length = ring.pktSize.toNat - 112 := by
        rw [List.length_replicate, length]
      rw [result] at reads
      dsimp only
      generalize List.replicate (packetSize ring).toNat (0 : UInt8) = db at reads zeros ⊢
      by_cases reserved : pkt.pktId = Constants.ringIdNone ∨ pkt.pktId = Constants.ringIdError
      · rw [if_pos reserved]
        cases copied : RingBuffer.copyData ring (g.offsetAt k) pkt.dataSize (some db) with
        | none =>
            rw [copied, Option.map_none, Option.bind_none] at reads
            refine iff_of_false (throws_disobeys engine fuel clock ring client pktId reads) fun due => ?_
            cases due.2.2
        | some data =>
            obtain ⟨answer, message, isAnswer, sent⟩ := answer_error ring { client with state := .command }
              ⟨pkt.pktId, RingBuffer.moveTo client.reader (g.offsetAt k) pkt, pkt, data⟩ reserved
            rw [copied, Option.map_some, Option.bind_some, isAnswer] at reads
            rw [error_obeys_iff engine fuel clock ring client pktId answer message reads sent]
            exact ⟨fun missing => ⟨large, missing, rfl⟩, fun due => due.2.1⟩
      obtain ⟨notNone, notError⟩ := not_or.mp reserved
      rw [if_neg reserved]
      by_cases fits : pkt.dataSize.toNat + 112 ≤ ring.pktSize.toNat
      · obtain ⟨bytes, isPayload, isSlice, copied⟩ :=
          copy_span g ring keeps.shaped k pkt.dataSize (slot ▸ fits) db (by omega)
        have size : bytes.length = pkt.dataSize.toNat := by rw [isSlice, Buffer.slice_length]
        obtain ⟨answer, isAnswer, sent, moved⟩ := answer_packet ring { client with state := .command }
          ⟨pkt.pktId, RingBuffer.moveTo client.reader (g.offsetAt k) pkt, pkt, _⟩ bytes _ rfl size
          (read_stream_id_length ring _ pkt isRead) notNone notError
        rw [copied, Option.map_some, Option.bind_some, isAnswer] at reads
        rw [packet_obeys_iff engine fuel clock ring client pktId answer _ pkt bytes isRead passes isPayload reads sent moved]
        exact ⟨fun due => ⟨large, due.1, due.2, fits⟩, fun due => ⟨due.2.1, due.2.2.1⟩⟩
      · have longer : db.length < pkt.dataSize.toNat := by omega
        have thrown : handleCommand engine fuel clock ring client = .throws := by
          rcases copy_long ring (g.offsetAt k) pkt.dataSize db longer with copied | copied
          · rw [reads, copied, Option.map_none, Option.bind_none, Handling.ofOption]
          · have short := answer_short ring { client with state := .command }
              ⟨pkt.pktId, RingBuffer.moveTo client.reader (g.offsetAt k) pkt, pkt, some db⟩ db rfl longer notNone notError
            rw [reads, copied, Option.map_some, Option.bind_some, short, Handling.ofOption]
        exact iff_of_false (throws_disobeys engine fuel clock ring client pktId thrown) fun due => fits due.2.2.2
  | nothing visited few visits ran =>
      obtain ⟨code, moved, isCode, result⟩ := ran fuel (by omega) newPacket (some (List.replicate (packetSize ring).toNat 0))
      obtain ⟨answer, message, isAnswer, sent⟩ := answer_error ring { client with state := .command } ⟨code, moved, newPacket, _⟩ isCode
      rw [result, Option.bind_some, isAnswer] at reads
      rw [error_obeys_iff engine fuel clock ring client pktId answer message reads sent, and_iff_right large]
  | never visits runs =>
      rw [runs, Option.bind_none] at reads
      exact iff_of_false (throws_disobeys engine fuel clock ring client pktId reads) And.right

def askedBy (reader : RingReader) (header : Text) : ClientInfo := { named header with reader := reader }

theorem read_parses (reader : RingReader) :
    ReadCommand (askedBy reader "READ 1".toList) 1 ∧ ReadCommand (askedBy reader "READ 2".toList) 2 := by
  have word : toUpperInvariant "READ".toList = "READ".toList := by decide +kernel
  have first : tryParseULong "1".toList = some 1 := by decide +kernel
  have second : tryParseULong "2".toList = some 2 := by decide +kernel
  have one : (readCommand (named "READ 1".toList).dlCommand).parts = ["READ".toList, "1".toList] := by decide +kernel
  have two : (readCommand (named "READ 2".toList).dlCommand).parts = ["READ".toList, "2".toList] := by decide +kernel
  have same (header : Text) : (askedBy reader header).dlCommand = (named header).dlCommand := by rw [askedBy]
  rw [← same] at one two
  exact ⟨.words _ _ [] one word first, .words _ _ [] two word second⟩

def twoPackets : List Request := [byteRequest ⟨5⟩ ['A'] 7, byteRequest ⟨6⟩ ['B'] 8]

def dueSummary (ended : Ending (Int64 × RingPacket)) : Option (Int64 × UInt64 × UInt32) :=
  match ended with
  | .item found => some (found.1, found.2.pktId, found.2.dataSize)
  | _ => none

theorem read_one_obeys : ∃ ring packets, writeAll fourSlotRing twoPackets = some (ring, packets) ∧
    ReadObeys plainEngine 109 ⟨7⟩ ring (askedBy fromEarliest "READ 1".toList) 1 := by
  have computed : (writeAll fourSlotRing twoPackets).map (fun result =>
      (dueSummary (nextDue result.1 fromEarliest), result.1.earliestOffset, result.1.pktSize, result.1.maxPackets)) =
        some (some (0, 1, 1), 0, 128, 4) := by
    decide +kernel
  cases ran : writeAll fourSlotRing twoPackets with
  | none =>
      rw [ran] at computed
      cases computed
  | some result =>
      obtain ⟨ring, packets⟩ := result
      rw [ran, Option.map_some, Option.some.injEq] at computed
      simp only [Prod.mk.injEq] at computed
      obtain ⟨summary, earliest, pktSize, maxPackets⟩ := computed
      have reached := reached_run twoPackets fourSlotRing ring packets four_slot_ring_reached ran
      have attached : Attached ring (askedBy fromEarliest "READ 1".toList).reader := .joined ring fromEarliest reached (by decide)
      have enough : 2 * ring.maxPackets.toNat + 100 < 109 := by
        rw [maxPackets]
        decide
      refine ⟨ring, packets, rfl, (read_obeys_iff plainEngine 109 ⟨7⟩ ring _ 1 attached enough (read_parses fromEarliest).1).mpr ?_⟩
      have reader : (askedBy fromEarliest "READ 1".toList).reader = fromEarliest := rfl
      rw [ReadsDue, reader, pktSize]
      cases isDue : nextDue ring fromEarliest with
      | item found =>
          obtain ⟨offset, pkt⟩ := found
          rw [isDue] at summary
          simp only [dueSummary, Option.some.injEq, Prod.mk.injEq] at summary
          obtain ⟨rfl, one, size⟩ := summary
          refine ⟨by decide, ?_⟩
          dsimp only
          rw [one, size, if_neg (by decide)]
          refine ⟨⟨by rw [earliest]; decide, 0, earliest.symm, fun j below => absurd below (Nat.not_lt_zero j)⟩, rfl, by decide⟩
      | nothing =>
          rw [isDue] at summary
          cases summary
      | never =>
          rw [isDue] at summary
          cases summary

def readLeaves (handling : Handling) : Option (UInt64 × List Text) :=
  match handling with
  | .returns outcome => some (outcome.client.reader.pktId, outcome.sent.map (·.header))
  | _ => none

-- READ 2 of a reader for EARLIEST comes back with packet 1.
theorem read_two_gives_one : ∃ ring packets, writeAll fourSlotRing twoPackets = some (ring, packets) ∧
    Attached ring (askedBy fromEarliest "READ 2".toList).reader ∧ ReadCommand (askedBy fromEarliest "READ 2".toList) 2 ∧
    readLeaves (handleCommand plainEngine 109 ⟨7⟩ ring (askedBy fromEarliest "READ 2".toList)) =
      some (1, ["PACKET A 1 0 0 0 1".toList]) ∧
    ¬ ReadObeys plainEngine 109 ⟨7⟩ ring (askedBy fromEarliest "READ 2".toList) 2 := by
  have computed : (writeAll fourSlotRing twoPackets).map (fun result =>
      readLeaves (handleCommand plainEngine 109 ⟨7⟩ result.1 (askedBy fromEarliest "READ 2".toList))) =
        some (some (1, ["PACKET A 1 0 0 0 1".toList])) := by
    decide +kernel
  cases ran : writeAll fourSlotRing twoPackets with
  | none =>
      rw [ran] at computed
      cases computed
  | some result =>
      obtain ⟨ring, packets⟩ := result
      rw [ran, Option.map_some, Option.some.injEq] at computed
      have reached := reached_run twoPackets fourSlotRing ring packets four_slot_ring_reached ran
      refine ⟨ring, packets, rfl, .joined ring fromEarliest reached (by decide), (read_parses fromEarliest).2, computed, ?_⟩
      rintro (⟨offset, pkt, payload, outcome, hit, _, returned, _, onIt⟩ | ⟨_, outcome, message, returned, sent⟩)
      · rw [returned, readLeaves, onIt, Option.some.injEq, Prod.mk.injEq] at computed
        have two : pkt.pktId = 2 := hit.named
        have one : pkt.pktId = 1 := computed.1
        rw [two] at one
        exact absurd one (by decide)
      · rw [returned, readLeaves, sent, Option.some.injEq, Prod.mk.injEq] at computed
        have headers : ["ERROR".toList] = ["PACKET A 1 0 0 0 1".toList] := computed.2
        exact absurd headers (by decide)

end RingServer.DataLink
