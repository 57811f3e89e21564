import RingServer.Protocols.SeedLinkDecode

set_option autoImplicit false

namespace RingServer.SeedLink

open Library

structure RecordOf (call : DataLink.Call) (packet : RingPacket) (pktId : UInt64) (record : MseedQueryResult) : Prop where
  streamId : record.streamId = packet.streamId
  rawData : record.rawData = some call.payload
  pktId : record.pktId = pktId

-- A payload that both paths treat alike: none, or a miniSEED record whose station the
-- stored stream ID gives like the written one.
def SentAlike (around : Surroundings) (protoMajor : Int) (streamId : Text) (payload : List UInt8) : Prop :=
  payload = [] ∨ isValidMiniSeedHeader payload payload.length = true ∧
    (protoMajor = 4 → stationId around (trimEndBlank (storedId streamId)) = stationId around streamId)

theorem bytes_same_iff (around : Surroundings) (protoMajor : Int) (first second : SentPacket) (fit : Fit first) (fit' : Fit second)
    (pktId : first.pktId = second.pktId) (payload : first.payload = second.payload) :
    first.bytes around protoMajor = second.bytes around protoMajor ↔
      (protoMajor = 4 → stationId around first.streamId = stationId around second.streamId) := by
  by_cases four : protoMajor = 4
  · rw [four]
    constructor
    · intro same _
      -- the client reads one frame
      have read := read_frame around first.streamId fit.streamId first.pktId first.payload first.payload [] fit.payload
      have read' := read_frame around second.streamId fit'.streamId second.pktId second.payload second.payload [] fit'.payload
      have frames : first.bytes around 4 ++ [] = second.bytes around 4 ++ [] := by rw [same]
      rw [SentPacket.bytes, SentPacket.bytes] at frames
      rw [frames, read'] at read
      simp only [Option.some.injEq, Prod.mk.injEq, Frame.mk.injEq] at read
      exact read.1.2.1.symm
    · intro stations
      rw [SentPacket.bytes, SentPacket.bytes, frameHeader, frameHeader, stations rfl, pktId, payload]
  · refine iff_of_true ?_ fun major => absurd major four
    rw [SentPacket.bytes, SentPacket.bytes, frameHeader, frameHeader, if_neg four, if_neg four, pktId, payload]

theorem ring_packet_read (fuel : Nat) (ring : RingParams) (session : Session) (cached : RingPacket) (packetData payload : List UInt8)
    (reading : RingBuffer.Reading) (isCached : cachedBuffers ring session.ext = some (cached, packetData))
    (isReading : RingBuffer.readNext fuel ring session.client.reader cached (some (packetData.map fun _ => 0)) = some reading)
    (notError : reading.code ≠ Constants.ringIdError) (notNone : reading.code ≠ Constants.ringIdNone)
    (isData : reading.data = some (payload ++ (packetData.map fun _ => 0).drop payload.length))
    (size : reading.packet.dataSize.toNat = payload.length) :
    ringPacket fuel ring session =
      if payload ≠ [] ∧ isValidMiniSeedHeader payload payload.length then
        [⟨reading.packet.pktId, trimEndBlank reading.packet.streamId, payload⟩]
      else [] := by
  have dataLen : min reading.packet.dataSize.toNat (payload ++ (packetData.map fun _ => (0 : UInt8)).drop payload.length).length =
      payload.length := by
    rw [size, List.length_append]
    omega
  have valid : isValidMiniSeedHeader (payload ++ (packetData.map fun _ => 0).drop payload.length) payload.length =
      isValidMiniSeedHeader payload payload.length :=
    valid_header_congr _ _ _ (get_cleared payload packetData payload.length)
  have empty : reading.packet.dataSize = 0 ↔ payload = [] := by
    rw [← UInt32.toNat_inj, size]
    exact List.length_eq_zero_iff
  simp only [ringPacket, isCached, isReading, isData, Option.getD_some, dataLen, valid, notError, notNone, empty, false_or]
  rw [size, List.take_left]
  by_cases sent : payload ≠ [] ∧ isValidMiniSeedHeader payload payload.length = true
  · rw [if_pos sent, if_neg (not_or.mpr ⟨sent.1, not_not.mpr sent.2⟩)]
  · rw [if_neg sent, if_pos]
    by_cases none : payload = []
    · exact Or.inl none
    · exact Or.inr fun isValid => sent ⟨none, isValid⟩

theorem first_record_sent (around : Surroundings) (fuel : Nat) (ring : RingParams) (session : Session) (record : MseedQueryResult)
    (records : List MseedQueryResult) (queue : session.ext.dbRecords = record :: records) (outcome : Outcome)
    (ran : sendRecords around fuel ring 1 session 0 [] = some outcome) :
    outcome.sent = if record.rawData.getD [] = [] then [] else [(recordPacket record).bytes around session.ext.protoMajor] := by
  rw [send_records_sent around fuel ring 1 session 0 [] outcome ran, burst, queue]
  dsimp only
  by_cases empty : record.rawData.getD [] = []
  · rw [if_pos empty, if_pos empty]
    rfl
  · rw [if_neg empty, if_neg empty]
    have nothing : ∀ next : Option Session, next.elim [] (burst around fuel ring 0) = [] := by
      intro next
      cases next <;> rfl
    rw [nothing]
    rfl

-- A packet in the ring and its record in the archive are sent alike exactly when the
-- payload is a miniSEED record, or empty, and its station is read alike.
theorem paths_agree_iff (engine : Engine) (fuel : Nat) (g : Geometry) (start ring : RingParams) (fresh : Fresh g start)
    (log : List (DataLink.Call × RingPacket)) (served : DataLink.Served engine fuel start log ring) (n : Nat) (call : DataLink.Call)
    (packet : RingPacket) (isWrite : log[n]? = some (call, packet)) (resident : log.length ≤ n + g.count) (around : Surroundings)
    (steps : Nat) (session : Session) (cached : RingPacket) (packetData : List UInt8) (reading : RingBuffer.Reading)
    (isCached : cachedBuffers ring session.ext = some (cached, packetData))
    (placed : session.client.reader.pktOffset < 0 ∨ ∃ i, i < log.length ∧ session.client.reader.pktOffset = g.offsetAt i)
    (isReading : RingBuffer.readNext steps ring session.client.reader cached (some (packetData.map fun _ => 0)) = some reading)
    (notError : reading.code ≠ Constants.ringIdError) (notNone : reading.code ≠ Constants.ringIdNone)
    (onIt : reading.reader.pktOffset = g.offsetAt n) (fromRing : Outcome)
    (streamed : streamPacket around steps ring session = some fromRing)
    (record : MseedQueryResult) (isRecord : RecordOf call packet reading.code record) (records : List MseedQueryResult)
    (steps' : Nat) (ring' : RingParams) (session' : Session) (queue : session'.ext.dbRecords = record :: records)
    (major : session'.ext.protoMajor = session.ext.protoMajor) (fromArchive : Outcome)
    (ran : sendRecords around steps' ring' 1 session' 0 [] = some fromArchive) :
    fromRing.sent = fromArchive.sent ↔ SentAlike around session.ext.protoMajor packet.streamId call.payload := by
  obtain ⟨journal, keeps, _, logged⟩ := DataLink.served_logged engine fuel ring g start fresh log served
  obtain ⟨ringOf, stores⟩ := (logged n call packet isWrite).stores
  have length : packetData.length = (DataLink.packetSize ring).toNat := by
    obtain ⟨cached', packetData', isCached', size⟩ := cached_buffers_size g ring keeps.shaped
      (by have fits := (logged n call packet isWrite).fits; omega) session.ext
    rw [isCached] at isCached'
    cases isCached'
    exact size
  obtain ⟨isData, streamId, _, _, dataSize⟩ := DataLink.logged_reading engine fuel g start ring fresh log served n call packet isWrite
    resident steps session.client.reader cached (packetData.map fun _ => 0) (by rw [List.length_map, length]) reading placed isReading
    notError notNone onIt
  have size : reading.packet.dataSize.toNat = call.payload.length := by rw [dataSize, stores.asks.payload]
  have isCode := (read_next_packet steps ring _ cached _ reading isReading notError notNone).1
  rw [← stores.asks.payload] at isData
  have ringSent := stream_packet_sent around steps ring session fromRing streamed
  have isPacket := ring_packet_read steps ring session cached packetData call.payload reading isCached isReading notError notNone isData
    size
  have bytes : record.rawData.getD [] = call.payload := by rw [isRecord.rawData]; rfl
  have archiveSent := first_record_sent around steps' ring' session' record records queue fromArchive ran
  rw [bytes, major] at archiveSent
  rw [ringSent, isPacket, archiveSent, SentAlike]
  by_cases empty : call.payload = []
  · rw [if_neg (fun both => both.1 empty), if_pos empty]
    exact iff_of_true rfl (Or.inl empty)
  rw [if_neg empty]
  by_cases valid : isValidMiniSeedHeader call.payload call.payload.length = true
  · have ringFit := ring_packet_fit steps ring session
    rw [isPacket, if_pos ⟨empty, valid⟩] at ringFit
    have recordFit : Fit (recordPacket record) := record_fit record
      ⟨⟨ringOf, call, packet, stores, isRecord.streamId⟩, by rw [bytes, stores.asks.payload]; exact stores.asks.array⟩
    have frames := bytes_same_iff around session.ext.protoMajor _ (recordPacket record) (ringFit _ (List.mem_singleton.mpr rfl)) recordFit
      (isCode.symm.trans isRecord.pktId.symm) bytes.symm
    rw [if_pos ⟨empty, valid⟩, List.map_singleton, List.singleton_inj, frames, streamId, recordPacket, isRecord.streamId]
    simp only [empty, valid, true_and, false_or]
  · rw [if_neg (fun both => valid both.2)]
    refine iff_of_false (List.cons_ne_nil _ _).symm (not_or.mpr ⟨empty, fun both => valid both.1⟩)

def servedRing : RingParams := DataLink.ringAfter DataLink.plainEngine 1 twoSlotRing (DataLink.writing "WRITE A 0 0 A 1".toList)

def ringSession : Session := ⟨DataLink.streaming, newExtInfo⟩

def archiveSession : Session :=
  ⟨DataLink.streaming, { newExtInfo with dbRecords := [⟨1, "A".toList, ⟨0⟩, ⟨0⟩, some [7], 1⟩] }⟩

theorem one_byte_read : ∃ reading,
    RingBuffer.readNext 3 servedRing ringSession.client.reader DataLink.newPacket (some ((List.replicate 16 0).map fun _ => 0)) =
        some reading ∧ reading.code = 1 ∧ reading.reader.pktOffset = 0 := by
  have computed : (RingBuffer.readNext 3 servedRing ringSession.client.reader DataLink.newPacket
      (some ((List.replicate 16 0).map fun _ => 0))).map (fun reading => (reading.code, reading.reader.pktOffset)) = some (1, 0) := by
    decide +kernel
  obtain ⟨reading, ran, same⟩ := Option.map_eq_some_iff.mp computed
  obtain ⟨code, place⟩ := Prod.mk.inj same
  exact ⟨reading, ran, code, place⟩

theorem one_byte_sends : ∃ fromRing fromArchive, streamPacket quiet 3 servedRing ringSession = some fromRing ∧ fromRing.sent = [] ∧
    sendRecords quiet 1 twoSlotRing 1 archiveSession 0 [] = some fromArchive ∧
    fromArchive.sent = [encodeASCII "SL000001".toList ++ [7]] := by
  have ring : (streamPacket quiet 3 servedRing ringSession).map (·.sent) = some [] := by decide +kernel
  have archive : (sendRecords quiet 1 twoSlotRing 1 archiveSession 0 []).map (·.sent) = some [encodeASCII "SL000001".toList ++ [7]] := by
    decide +kernel
  obtain ⟨fromRing, ran, sent⟩ := Option.map_eq_some_iff.mp ring
  obtain ⟨fromArchive, ran', sent'⟩ := Option.map_eq_some_iff.mp archive
  exact ⟨fromRing, fromArchive, ran, sent, ran', sent'⟩

theorem paths_agree_iff_one_byte : ∃ fromRing fromArchive, streamPacket quiet 3 servedRing ringSession = some fromRing ∧
    sendRecords quiet 1 twoSlotRing 1 archiveSession 0 [] = some fromArchive ∧
    (fromRing.sent = fromArchive.sent ↔ SentAlike quiet 3 "A".toList [7]) := by
  obtain ⟨reading, read, code, place⟩ := one_byte_read
  obtain ⟨fromRing, fromArchive, streamed, _, ran, _⟩ := one_byte_sends
  refine ⟨fromRing, fromArchive, streamed, ran, paths_agree_iff DataLink.plainEngine 1 twoSlots twoSlotRing servedRing two_slots_fresh _
    DataLink.one_byte_served 0 (DataLink.writing "WRITE A 0 0 A 1".toList) DataLink.oneByte rfl (by decide) quiet 3 ringSession
    DataLink.newPacket (List.replicate 16 0) reading (by decide +kernel) (Or.inl (by decide)) read ?_ ?_ place fromRing streamed
    ⟨1, "A".toList, ⟨0⟩, ⟨0⟩, some [7], 1⟩ ⟨rfl, rfl, code.symm⟩ [] 1 twoSlotRing archiveSession rfl rfl fromArchive ran⟩
  · rw [code]
    decide
  · rw [code]
    decide

-- One byte is no miniSEED record, and only the archive sends it.
theorem archive_sends_what_ring_skips :
    DataLink.Stores twoSlotRing (DataLink.writing "WRITE A 0 0 A 1".toList) DataLink.oneByte ∧
      (streamPacket quiet 3 servedRing ringSession).map (·.sent) = some [] ∧
      (sendRecords quiet 1 twoSlotRing 1 archiveSession 0 []).map (·.sent) = some [encodeASCII "SL000001".toList ++ [7]] := by
  refine ⟨DataLink.one_byte_stored, ?_, ?_⟩
  · decide +kernel
  · decide +kernel

end RingServer.SeedLink
