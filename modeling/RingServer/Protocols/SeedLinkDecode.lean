import RingServer.Protocols.SeedLinkHandOver
import RingServer.Protocols.WrittenId
import RingServer.Net.SendData

set_option autoImplicit false

namespace RingServer.SeedLink

open Library

structure Frame where
  sequence : UInt64
  station : Text
  payload : List UInt8
deriving DecidableEq

def readV4 : List UInt8 → Option (Frame × List UInt8)
  | 83 :: 69 :: _ :: _ :: behind =>
      let size := (getUInt32 behind).toNat
      match behind.drop 12 with
      | [] => none
      | staidLen :: rest =>
          let data := rest.drop staidLen.toNat
          if rest.length < staidLen.toNat ∨ data.length < size then none
          else some (⟨getUInt64 (behind.drop 4), decodeASCII (rest.take staidLen.toNat), data.take size⟩, data.drop size)
  | _ => none

def decodeV4 (bytes : List UInt8) : Option (List Frame) := readAll readV4 bytes.length bytes

structure SentPacket where
  pktId : UInt64
  streamId : Text
  payload : List UInt8

def SentPacket.frame (around : Surroundings) (sent : SentPacket) : Frame :=
  ⟨sent.pktId, stationId around sent.streamId, sent.payload⟩

def SentPacket.bytes (around : Surroundings) (protoMajor : Int) (sent : SentPacket) : List UInt8 :=
  frameHeader around protoMajor sent.streamId sent.pktId sent.payload sent.payload.length ++ sent.payload

def recordPacket (record : MseedQueryResult) : SentPacket := ⟨record.pktId, record.streamId, record.rawData.getD []⟩

def ringPacket (fuel : Nat) (ring : RingParams) (session : Session) : List SentPacket :=
  match cachedBuffers ring session.ext with
  | none => []
  | some (packet, packetData) =>
      let cleared := packetData.map fun _ => 0
      match RingBuffer.readNext fuel ring session.client.reader packet (some cleared) with
      | none => []
      | some reading =>
          let data := reading.data.getD cleared
          if reading.code = Constants.ringIdError ∨ reading.code = Constants.ringIdNone ∨ reading.packet.dataSize = 0 ∨
              ¬ isValidMiniSeedHeader data (min reading.packet.dataSize.toNat data.length) then []
          else [⟨reading.packet.pktId, trimEndBlank reading.packet.streamId, data.take reading.packet.dataSize.toNat⟩]

structure StreamCall where
  around : Surroundings
  fuel : Nat
  ring : RingParams
  session : Session

def StreamCall.packets (call : StreamCall) : List SentPacket :=
  if call.session.client.state = .stream then
    if call.session.ext.dbRecords.isEmpty then ringPacket call.fuel call.ring call.session
    else (burst call.around call.fuel call.ring dbBurstLimit call.session).map recordPacket
  else []

def bytesOf : List StreamCall → Option (List UInt8)
  | [] => some []
  | call :: rest => do
      let outcome ← streamPackets call.around call.fuel call.ring call.session
      (bytesOf rest).map (outcome.sent.flatten ++ ·)

structure WrittenRecord (record : MseedQueryResult) : Prop where
  streamId : ∃ ring call packet, DataLink.Stores ring call packet ∧ record.streamId = packet.streamId
  array : (record.rawData.getD []).length ≤ RingBuffer.maxArrayLength

structure Supplied (call : StreamCall) : Prop where
  queued : ∀ record ∈ call.session.ext.dbRecords, WrittenRecord record
  answers : ∀ archive, call.around.archive = some archive → ∀ streamIds startTime endTime cursorStartTime cursorId limit records,
    archive.queryByTimePagination streamIds startTime endTime cursorStartTime cursorId limit = some records →
      ∀ record ∈ records, WrittenRecord record

theorem split_piece (sep : Char → Bool) (text piece : Text) (member : piece ∈ text.splitOnP sep) : piece.Sublist text := by
  cases isPiece : piece with
  | nil => exact List.nil_sublist text
  | cons c rest =>
      have inside : c :: rest ∈ pieces sep text := List.mem_filter.mpr ⟨isPiece ▸ member, rfl⟩
      have sublist := List.sublist_flatten_of_mem inside
      rw [pieces_flatten] at sublist
      exact sublist.trans List.filter_sublist

theorem split_front (text net sta : Text) (rest : List Text) (split : text.splitOnP (fun c => c = '_') = net :: sta :: rest) :
    (net ++ '_' :: sta) <+: text := by
  have whole : ['_'].intercalate (text.splitOn '_') = text := List.intercalate_splitOn '_'
  have same : text.splitOn '_' = text.splitOnP fun c => c = '_' := by
    rw [List.splitOn_eq_splitOnP]
    rfl
  rw [same, split, List.intercalate_cons_cons] at whole
  have front : sta <+: ['_'].intercalate (sta :: rest) := by
    cases rest with
    | nil => simp
    | cons next rest =>
        rw [List.intercalate_cons_cons]
        exact ⟨['_'] ++ ['_'].intercalate (next :: rest), by simp only [List.append_assoc]⟩
  obtain ⟨behind, isFront⟩ := front
  exact ⟨behind, by rw [← whole, ← isFront]; simp only [List.append_assoc, List.cons_append, List.nil_append]⟩

theorem station_part (around : Surroundings) (streamId : Text) : (stationId around streamId).Sublist streamId := by
  rw [stationId]
  by_cases scheme : around.startsWithFdsn streamId = true
  · rw [if_pos scheme]
    have last : ((streamId.splitOnP fun c => c = ':').getLastD []).Sublist streamId := by
      rw [List.getLastD_eq_getLast?]
      cases isLast : (streamId.splitOnP fun c => c = ':').getLast? with
      | none => exact List.nil_sublist streamId
      | some piece => exact split_piece _ streamId piece (List.mem_of_getLast? isLast)
    dsimp only
    split
    · rename_i net sta rest split
      by_cases many : 1 < (streamId.splitOnP fun c => c = ':').length
      · rw [if_pos many]
        exact (split_front _ net sta rest split).sublist.trans last
      · rw [if_neg many]
        exact List.nil_sublist streamId
    · exact List.nil_sublist streamId
  · rw [if_neg scheme]

structure ShortId (streamId : Text) : Prop where
  short : streamId.length ≤ 255
  ascii : ∀ c ∈ streamId, c.toNat < 128

theorem short_id_part (whole part : Text) (shortId : ShortId whole) (sublist : part.Sublist whole) : ShortId part :=
  ⟨sublist.length_le.trans shortId.short, fun c member => shortId.ascii c (sublist.subset member)⟩

theorem read_fields (formatByte subformat staidLen : UInt8) (pktId : UInt64) (size : UInt32) (staid payload rest : List UInt8)
    (station : staid.length = staidLen.toNat) (data : payload.length = size.toNat) :
    readV4 (83 :: 69 :: formatByte :: subformat :: (putUInt32 size ++ (putUInt64 pktId ++ (staidLen :: (staid ++ (payload ++ rest)))))) =
      some (⟨pktId, decodeASCII staid, payload⟩, rest) := by
  have sequence : (putUInt32 size ++ (putUInt64 pktId ++ (staidLen :: (staid ++ (payload ++ rest))))).drop 4 =
      putUInt64 pktId ++ (staidLen :: (staid ++ (payload ++ rest))) := List.drop_left' (put_uint32_length size)
  have behind : (putUInt32 size ++ (putUInt64 pktId ++ (staidLen :: (staid ++ (payload ++ rest))))).drop 12 =
      staidLen :: (staid ++ (payload ++ rest)) := by
    have twelve : 12 = 4 + 8 := rfl
    rw [twelve, ← List.drop_drop, sequence]
    exact List.drop_left' (put_uint64_length pktId)
  have whole : ¬ ((staid ++ (payload ++ rest)).length < staidLen.toNat ∨ (payload ++ rest).length < size.toNat) := by
    simp only [List.length_append]
    omega
  simp only [readV4, behind, sequence, get_put_uint32, get_put_uint64, List.drop_left' station, List.take_left' station,
    List.take_left' data, List.drop_left' data, if_neg whole]

theorem read_frame (around : Surroundings) (streamId : Text) (shortId : ShortId streamId) (pktId : UInt64)
    (data payload rest : List UInt8) (small : payload.length < 2 ^ 32) :
    readV4 (frameHeader around 4 streamId pktId data payload.length ++ payload ++ rest) =
      some (⟨pktId, stationId around streamId, payload⟩, rest) := by
  have part := short_id_part streamId _ shortId (station_part around streamId)
  have short := part.short
  have size : (UInt32.ofNat payload.length).toNat = payload.length := by
    rw [UInt32.toNat_ofNat']
    exact Nat.mod_eq_of_lt small
  have staidLen : (UInt8.ofNat (encodeASCII (stationId around streamId)).length).toNat =
      (encodeASCII (stationId around streamId)).length := by
    rw [UInt8.toNat_ofNat', encode_length]
    exact Nat.mod_eq_of_lt (by omega)
  have decoded := decode_encode (stationId around streamId) part.ascii
  rw [frameHeader, if_pos rfl]
  dsimp only
  rw [staidLen, List.take_length]
  have read := read_fields (format data payload.length) 68 (UInt8.ofNat (encodeASCII (stationId around streamId)).length) pktId
    (UInt32.ofNat payload.length) (encodeASCII (stationId around streamId)) payload rest staidLen.symm size.symm
  rw [decoded] at read
  rw [← read]
  simp only [List.append_assoc, List.cons_append, List.nil_append]

theorem get_taken (data : List UInt8) (count i : Nat) (inside : i < count) : (data.take count).getD i 0 = data.getD i 0 := by
  rw [List.getD_eq_getElem?_getD, List.getD_eq_getElem?_getD, List.getElem?_take_of_lt inside]

theorem frame_header_taken (around : Surroundings) (protoMajor : Int) (streamId : Text) (pktId : UInt64) (data : List UInt8)
    (dataLen : Nat) :
    frameHeader around protoMajor streamId pktId (data.take dataLen) dataLen =
      frameHeader around protoMajor streamId pktId data dataLen := by
  have same : format (data.take dataLen) dataLen = format data dataLen := by
    have ms3 : (3 ≤ dataLen ∧ isMs3 (data.take dataLen) = true) ↔ 3 ≤ dataLen ∧ isMs3 data = true := by
      refine and_congr_right fun three => ?_
      rw [isMs3, isMs3, get_taken _ _ 0 (by omega), get_taken _ _ 1 (by omega), get_taken _ _ 2 (by omega)]
    have indicator : (8 ≤ dataLen ∧ isSeedLinkDataIndicator ((data.take dataLen).getD 6 0) = true) ↔
        8 ≤ dataLen ∧ isSeedLinkDataIndicator (data.getD 6 0) = true := by
      refine and_congr_right fun eight => ?_
      rw [get_taken _ _ 6 (by omega)]
    simp only [format, ms3, indicator]
  rw [frameHeader, frameHeader, same]

theorem stream_packet_sent (around : Surroundings) (fuel : Nat) (ring : RingParams) (session : Session) (outcome : Outcome)
    (ran : streamPacket around fuel ring session = some outcome) :
    outcome.sent = (ringPacket fuel ring session).map (SentPacket.bytes around session.ext.protoMajor) := by
  simp only [streamPacket, Option.bind_eq_bind, Option.bind_eq_some_iff] at ran
  obtain ⟨⟨packet, packetData⟩, isCached, reading, isReading, ran⟩ := ran
  simp only [ringPacket, isCached, isReading]
  by_cases error : reading.code = Constants.ringIdError
  · rw [if_pos error] at ran
    cases ran
    rw [if_pos (Or.inl error)]
    rfl
  rw [if_neg error] at ran
  by_cases missing : reading.code = Constants.ringIdNone
  · rw [if_pos missing] at ran
    cases ran
    rw [if_pos (Or.inr (Or.inl missing))]
    rfl
  rw [if_neg missing] at ran
  by_cases empty : reading.packet.dataSize = 0
  · rw [if_pos empty] at ran
    cases ran
    rw [if_pos (Or.inr (Or.inr (Or.inl empty)))]
    rfl
  rw [if_neg empty] at ran
  generalize reading.data.getD (packetData.map fun _ => 0) = data at ran ⊢
  by_cases invalid : ¬ isValidMiniSeedHeader data (min reading.packet.dataSize.toNat data.length) = true
  · rw [if_pos invalid] at ran
    cases ran
    rw [if_pos (Or.inr (Or.inr (Or.inr invalid)))]
    rfl
  · rw [if_neg invalid] at ran
    cases ran
    have isCode := (read_next_packet fuel ring _ packet _ reading isReading error missing).1
    have none : ¬ (reading.code = Constants.ringIdError ∨ reading.code = Constants.ringIdNone ∨ reading.packet.dataSize = 0 ∨
        ¬ isValidMiniSeedHeader data (min reading.packet.dataSize.toNat data.length) = true) := by
      simp only [error, missing, empty, invalid, or_self, not_false_eq_true]
    have taken : data.take reading.packet.dataSize.toNat = data.take (min reading.packet.dataSize.toNat data.length) :=
      List.take_eq_take_min
    rw [if_neg none, List.map_singleton, SentPacket.bytes, List.length_take, taken, frame_header_taken, isCode]
    rfl

theorem exhausted_major (around : Surroundings) (fuel : Nat) (ring : RingParams) (session next : Session) (last : Bool)
    (moved : (if last then handleDbQueueExhausted around fuel ring session else some session) = some next) :
    next.ext.protoMajor = session.ext.protoMajor := by
  cases last with
  | false =>
      rw [if_neg Bool.false_ne_true] at moved
      rw [Option.some.inj moved]
  | true =>
      rw [if_pos rfl] at moved
      cases db_queue_cases around fuel ring session next moved with
      | inl refilled =>
          obtain ⟨_, _, _, isNext⟩ := refilled
          rw [isNext]
          rfl
      | inr left =>
          obtain ⟨_, _, isNext⟩ := left
          rw [isNext]
          rfl

theorem send_records_sent (around : Surroundings) (fuel : Nat) (ring : RingParams) (rounds : Nat) (session : Session) (total : Nat)
    (sent : List (List UInt8)) (outcome : Outcome) (ran : sendRecords around fuel ring rounds session total sent = some outcome) :
    outcome.sent = sent ++ ((burst around fuel ring rounds session).map recordPacket).map
      (SentPacket.bytes around session.ext.protoMajor) := by
  induction rounds generalizing session total sent with
  | zero =>
      rw [sendRecords] at ran
      rw [← Option.some.inj ran]
      exact (List.append_nil sent).symm
  | succ rounds ih =>
      cases queue : session.ext.dbRecords with
      | nil =>
          rw [sendRecords, queue] at ran
          rw [burst_drained around fuel ring _ session queue, ← Option.some.inj ran]
          exact (List.append_nil sent).symm
      | cons record records =>
          rw [sendRecords, queue] at ran
          dsimp only at ran
          cases bytes : record.rawData with
          | none =>
              rw [bytes] at ran
              exact absurd ran.symm (Option.some_ne_none outcome)
          | some rawData =>
              rw [bytes] at ran
              cases rawData with
              | nil =>
                  rw [burst_stopped around fuel ring _ session record records queue bytes, ← Option.some.inj ran]
                  exact (List.append_nil sent).symm
              | cons byte rawData =>
                  dsimp only at ran
                  have nonempty : record.rawData.getD [] ≠ [] := bytes ▸ List.cons_ne_nil byte rawData
                  have frame : frameHeader around session.ext.protoMajor record.streamId record.pktId (byte :: rawData)
                      (byte :: rawData).length ++ byte :: rawData = (recordPacket record).bytes around session.ext.protoMajor := by
                    rw [SentPacket.bytes, recordPacket, bytes]
                    rfl
                  obtain ⟨next, moved, count, rest⟩ : ∃ next, (if records.isEmpty then
                      handleDbQueueExhausted around fuel ring (dequeued session record records)
                        else some (dequeued session record records)) = some next ∧
                      ∃ count, sendRecords around fuel ring rounds next count
                        (sent ++ [(recordPacket record).bytes around session.ext.protoMajor]) = some outcome := by
                    rw [← frame]
                    by_cases last : records.isEmpty = true
                    · rw [if_pos last, Option.bind_eq_bind, Option.bind_eq_some_iff] at ran
                      obtain ⟨next, moved, rest⟩ := ran
                      exact ⟨next, (if_pos last).trans moved, _, rest⟩
                    · rw [if_neg last] at ran
                      exact ⟨_, if_neg last, _, ran⟩
                  have major := exhausted_major around fuel ring _ next _ moved
                  rw [burst_sent around fuel ring rounds session next record records queue nonempty moved, ih next count _ rest, major,
                    List.map_cons, List.map_cons, List.append_assoc]
                  rfl

structure Fit (packet : SentPacket) : Prop where
  streamId : ShortId packet.streamId
  payload : packet.payload.length < 2 ^ 32

theorem ring_packet_fit (fuel : Nat) (ring : RingParams) (session : Session) (packet : SentPacket)
    (member : packet ∈ ringPacket fuel ring session) : Fit packet := by
  rw [ringPacket.eq_def] at member
  split at member
  · exact absurd member List.not_mem_nil
  rename_i cached packetData isCached
  dsimp only at member
  split at member
  · exact absurd member List.not_mem_nil
  rename_i reading isReading
  split at member
  · exact absurd member List.not_mem_nil
  rename_i sent
  rw [not_or, not_or] at sent
  obtain ⟨_, place, isRead⟩ := read_next_packet fuel ring _ cached _ reading isReading sent.1 sent.2.1
  rw [List.mem_singleton] at member
  rw [member]
  refine ⟨?_, ?_⟩
  · rw [RingBuffer.readPacketAtOffset] at isRead
    split at isRead
    · cases isRead
    split at isRead
    · cases isRead
    obtain ⟨span, _, decoded⟩ := Option.map_eq_some_iff.mp isRead
    -- the text of the slot is a front of 60 decoded bytes
    have field : (trimEndBlank reading.packet.streamId).Sublist (decodeASCII ((span.drop 32).take Constants.maxStreamId)) := by
      rw [← decoded]
      exact (List.rdropWhile_prefix _ _).sublist.trans (List.takeWhile_sublist _)
    refine ⟨?_, fun c inside => decode_small _ c (field.subset inside)⟩
    have length := field.length_le
    have sixty : Constants.maxStreamId = 60 := rfl
    rw [decodeASCII, List.length_map, List.length_take, sixty] at length
    show (trimEndBlank reading.packet.streamId).length ≤ 255
    omega
  · rw [List.length_take]
    have size := reading.packet.dataSize.toNat_lt
    omega

theorem record_fit (record : MseedQueryResult) (written : WrittenRecord record) : Fit (recordPacket record) := by
  obtain ⟨ring, call, packet, stores, streamId⟩ := written.streamId
  have handed := DataLink.stored_id_handed ring call packet stores
  have array := written.array
  have bound : RingBuffer.maxArrayLength = 2147483591 := rfl
  refine ⟨⟨?_, ?_⟩, ?_⟩
  · rw [recordPacket, streamId]
    exact handed.length.trans (by decide)
  · rw [recordPacket, streamId]
    exact handed.ascii
  · rw [recordPacket]
    dsimp only
    omega

theorem exhausted_written (around : Surroundings) (fuel : Nat) (ring : RingParams) (session next : Session) (last : Bool)
    (answers : ∀ archive, around.archive = some archive → ∀ streamIds startTime endTime cursorStartTime cursorId limit records,
      archive.queryByTimePagination streamIds startTime endTime cursorStartTime cursorId limit = some records →
        ∀ record ∈ records, WrittenRecord record)
    (queued : ∀ record ∈ session.ext.dbRecords, WrittenRecord record)
    (moved : (if last then handleDbQueueExhausted around fuel ring session else some session) = some next) :
    ∀ record ∈ next.ext.dbRecords, WrittenRecord record := by
  cases last with
  | false =>
      rw [if_neg Bool.false_ne_true] at moved
      rw [← Option.some.inj moved]
      exact queued
  | true =>
      rw [if_pos rfl] at moved
      cases db_queue_cases around fuel ring session next moved with
      | inl refilled =>
          obtain ⟨record, records, batch, isNext⟩ := refilled
          rw [isNext]
          rw [nextBatch, Option.bind_eq_bind, Option.bind_eq_some_iff] at batch
          obtain ⟨archive, isArchive, batch⟩ := batch
          split at batch
          · exact answers archive isArchive _ _ _ _ _ _ _ batch
          · cases batch
      | inr left =>
          obtain ⟨_, _, isNext⟩ := left
          rw [isNext]
          exact queued

theorem burst_fit (around : Surroundings) (fuel : Nat) (ring : RingParams) (rounds : Nat) (session : Session)
    (answers : ∀ archive, around.archive = some archive → ∀ streamIds startTime endTime cursorStartTime cursorId limit records,
      archive.queryByTimePagination streamIds startTime endTime cursorStartTime cursorId limit = some records →
        ∀ record ∈ records, WrittenRecord record)
    (queued : ∀ record ∈ session.ext.dbRecords, WrittenRecord record) :
    ∀ record ∈ burst around fuel ring rounds session, WrittenRecord record := by
  induction rounds generalizing session with
  | zero => exact fun record member => absurd member List.not_mem_nil
  | succ rounds ih =>
      rw [burst]
      cases queue : session.ext.dbRecords with
      | nil => exact fun record member => absurd member List.not_mem_nil
      | cons record records =>
          rw [queue] at queued
          dsimp only
          by_cases empty : record.rawData.getD [] = []
          · rw [if_pos empty]
            exact fun record member => absurd member List.not_mem_nil
          rw [if_neg empty]
          intro other member
          cases List.mem_cons.mp member with
          | inl here => exact here ▸ queued record List.mem_cons_self
          | inr later =>
              cases moved : (if records.isEmpty then handleDbQueueExhausted around fuel ring (dequeued session record records)
                  else some (dequeued session record records)) with
              | none =>
                  rw [moved] at later
                  exact absurd later List.not_mem_nil
              | some next =>
                  rw [moved] at later
                  refine ih next (exhausted_written around fuel ring _ next _ answers ?_ moved) other later
                  exact fun row inside => queued row (List.mem_cons_of_mem record inside)

theorem stream_call_fit (call : StreamCall) (supplied : Supplied call) : ∀ packet ∈ call.packets, Fit packet := by
  rw [StreamCall.packets]
  by_cases streaming : call.session.client.state = .stream
  · rw [if_pos streaming]
    by_cases drained : call.session.ext.dbRecords.isEmpty = true
    · rw [if_pos drained]
      exact ring_packet_fit call.fuel call.ring call.session
    · rw [if_neg drained]
      intro packet member
      obtain ⟨record, inside, rfl⟩ := List.mem_map.mp member
      exact record_fit record (burst_fit call.around call.fuel call.ring _ call.session supplied.answers supplied.queued record inside)
  · rw [if_neg streaming]
    exact fun packet member => absurd member List.not_mem_nil

theorem stream_call_sent (call : StreamCall) (outcome : Outcome)
    (ran : streamPackets call.around call.fuel call.ring call.session = some outcome) :
    outcome.sent = call.packets.map (SentPacket.bytes call.around call.session.ext.protoMajor) := by
  rw [streamPackets] at ran
  rw [StreamCall.packets]
  by_cases streaming : call.session.client.state = .stream
  · rw [if_pos streaming] at ran ⊢
    by_cases drained : call.session.ext.dbRecords.isEmpty = true
    · rw [if_pos drained] at ran ⊢
      exact stream_packet_sent call.around call.fuel call.ring call.session outcome ran
    · rw [if_neg drained] at ran ⊢
      exact send_records_sent call.around call.fuel call.ring dbBurstLimit call.session 0 [] outcome ran
  · rw [if_neg streaming] at ran ⊢
    rw [← Option.some.inj ran]
    rfl

theorem bytes_of_calls (calls : List StreamCall) (bytes : List UInt8) (sent : bytesOf calls = some bytes) :
    bytes = (calls.flatMap fun call => call.packets.map fun packet => (call, packet)).flatMap fun one =>
      one.2.bytes one.1.around one.1.session.ext.protoMajor := by
  induction calls generalizing bytes with
  | nil =>
      rw [← Option.some.inj sent]
      rfl
  | cons call rest ih =>
      rw [bytesOf, Option.bind_eq_bind, Option.bind_eq_some_iff] at sent
      obtain ⟨outcome, ran, sent⟩ := sent
      obtain ⟨behind, isBehind, rfl⟩ := Option.map_eq_some_iff.mp sent
      rw [stream_call_sent call outcome ran, ih behind isBehind, List.flatMap_cons, List.flatMap_append, List.flatMap_map,
        ← List.flatMap_def]

theorem calls_decoded (calls : List StreamCall) (four : ∀ call ∈ calls, call.session.ext.protoMajor = 4)
    (supplied : ∀ call ∈ calls, Supplied call) (bytes : List UInt8) (sent : bytesOf calls = some bytes) :
    decodeV4 bytes = some (calls.flatMap fun call => call.packets.map (SentPacket.frame call.around)) := by
  have isBytes := bytes_of_calls calls bytes sent
  have inside : ∀ one ∈ calls.flatMap fun call => call.packets.map fun packet => (call, packet),
      one.1.session.ext.protoMajor = 4 ∧ Fit one.2 := by
    intro one member
    obtain ⟨call, isCall, member⟩ := List.mem_flatMap.mp member
    obtain ⟨packet, isPacket, rfl⟩ := List.mem_map.mp member
    exact ⟨four call isCall, stream_call_fit call (supplied call isCall) packet isPacket⟩
  have decoded := read_all_items readV4
    (fun one : StreamCall × SentPacket => one.2.bytes one.1.around one.1.session.ext.protoMajor) (fun one => one.2.frame one.1.around)
    (calls.flatMap fun call => call.packets.map fun packet => (call, packet)) ?_ ?_ bytes.length
    (le_of_eq (congrArg List.length isBytes.symm))
  · rw [decodeV4]
    have items : (calls.flatMap fun call => call.packets.map fun packet => (call, packet)).map
        (fun one => one.2.frame one.1.around) = calls.flatMap fun call => call.packets.map (SentPacket.frame call.around) := by
      rw [List.map_flatMap]
      simp only [List.map_map]
      rfl
    rw [← items, ← decoded, ← isBytes]
  · intro one member none
    obtain ⟨major, _⟩ := inside one member
    have read := read_frame one.1.around one.2.streamId (inside one member).2.streamId one.2.pktId one.2.payload one.2.payload []
      (inside one member).2.payload
    rw [SentPacket.bytes, major] at none
    rw [none] at read
    cases read
  · intro one member rest
    obtain ⟨major, fit⟩ := inside one member
    rw [SentPacket.bytes, major]
    exact read_frame one.1.around one.2.streamId fit.streamId one.2.pktId one.2.payload one.2.payload rest fit.payload

theorem frame_sent (header data : List UInt8) (dataLen : Nat) (inside : dataLen ≤ data.length) (sends : List Net.Sent) (wire : List UInt8)
    (ran : Net.gatherSend [(header, header.length), (data, dataLen)] 0 sends = some (0, wire)) : wire = header ++ data.take dataLen := by
  have filled : Net.Filled [(header, header.length), (data, dataLen)] := by
    intro buffer member
    rcases List.mem_cons.mp member with first | second
    · rw [first]
    · rw [List.mem_singleton.mp second]
      exact inside
  cases Net.gather_sends _ filled sends 0 0 wire ran with
  | inl failed => exact absurd failed (lt_irrefl 0)
  | inr done =>
      rw [done.2, Net.bufferBytes]
      simp

-- The client recovers what was sent, packet by packet, to the end of the stream; and
-- each send that succeeds puts its two buffers on the wire, however it is split.
theorem v4_decoded (calls : List StreamCall) (four : ∀ call ∈ calls, call.session.ext.protoMajor = 4)
    (supplied : ∀ call ∈ calls, Supplied call) (bytes : List UInt8) (sent : bytesOf calls = some bytes) :
    decodeV4 bytes = some (calls.flatMap fun call => call.packets.map (SentPacket.frame call.around)) ∧
      ∀ header data dataLen, dataLen ≤ data.length → ∀ sends wire,
        Net.gatherSend [(header, header.length), (data, dataLen)] 0 sends = some (0, wire) → wire = header ++ data.take dataLen :=
  ⟨calls_decoded calls four supplied bytes sent, frame_sent⟩

def recordOf (rawData : List UInt8) (pktId : UInt64) : MseedQueryResult := ⟨1, "A".toList, ⟨0⟩, ⟨0⟩, some rawData, pktId⟩

def threeRecords : StreamCall where
  around := quiet
  fuel := 1
  ring := twoSlotRing
  session := ⟨{ DataLink.newClient with state := .stream },
    { newExtInfo with protoMajor := 4, dbRecords := [recordOf [65] 7, recordOf [66, 67] 8, recordOf [] 9] }⟩

def secondOfRing : StreamCall where
  around := quiet
  fuel := 109
  ring := writtenRing fourSlotRing [byteRequest ⟨5⟩ ['A'] 7, ms3Request]
  session := ⟨{ DataLink.newClient with state := .stream, reader := { DataLink.newClient.reader with pktOffset := 0 } },
    { newExtInfo with protoMajor := 4 }⟩

theorem record_of_written (rawData : List UInt8) (pktId : UInt64) (array : rawData.length ≤ RingBuffer.maxArrayLength) :
    WrittenRecord (recordOf rawData pktId) := ⟨⟨_, _, _, DataLink.one_byte_stored, rfl⟩, array⟩

theorem both_supplied : ∀ call ∈ [threeRecords, secondOfRing], Supplied call := by
  intro call member
  simp only [List.mem_cons, List.not_mem_nil, or_false] at member
  rcases member with rfl | rfl
  · refine ⟨fun record queued => ?_, fun archive isArchive => nomatch isArchive⟩
    simp only [threeRecords, List.mem_cons, List.not_mem_nil, or_false] at queued
    rcases queued with rfl | rfl | rfl
    · exact record_of_written [65] 7 (by decide)
    · exact record_of_written [66, 67] 8 (by decide)
    · exact record_of_written [] 9 (by decide)
  · exact ⟨fun record queued => absurd queued List.not_mem_nil, fun archive isArchive => nomatch isArchive⟩

theorem v4_decoded_records_and_packet : ∃ bytes, bytesOf [threeRecords, secondOfRing] = some bytes ∧
    (decodeV4 bytes = some [⟨7, "A".toList, [65]⟩, ⟨8, "A".toList, [66, 67]⟩, ⟨2, "B".toList, ms3Request.packetData⟩] ∧
      ∀ header data dataLen, dataLen ≤ data.length → ∀ sends wire,
        Net.gatherSend [(header, header.length), (data, dataLen)] 0 sends = some (0, wire) → wire = header ++ data.take dataLen) := by
  have some : (bytesOf [threeRecords, secondOfRing]).isSome = true := by decide +kernel
  have frames : [threeRecords, secondOfRing].flatMap (fun call => call.packets.map (SentPacket.frame call.around)) =
      [⟨7, "A".toList, [65]⟩, ⟨8, "A".toList, [66, 67]⟩, ⟨2, "B".toList, ms3Request.packetData⟩] := by
    decide +kernel
  obtain ⟨bytes, isBytes⟩ := Option.isSome_iff_exists.mp some
  have decoded := v4_decoded [threeRecords, secondOfRing] (by decide) both_supplied bytes isBytes
  rw [frames] at decoded
  exact ⟨bytes, isBytes, decoded⟩

end RingServer.SeedLink
