import RingServer.Protocols.DataLinkIds
import RingServer.Protocols.StreamId

set_option autoImplicit false

namespace RingServer.DataLink

open Library

structure RoundTrip (streamId : Text) (start stop : Int64) (payload : List UInt8) (sent : RingPacket) (reply : Reply) : Prop where
  header : reply.header = packetHeader sent
  streamId : sent.streamId = canonicalStreamId streamId
  start : sent.dataStart.value / 1000 = start
  stop : sent.dataEnd.value / 1000 = stop
  payload : reply.dataBytes = payload

def Holdable (time : Int64) : Prop := -9223372036854775 ≤ time.toInt ∧ time.toInt ≤ 9223372036854775

theorem microseconds_back (time : Int64) : (microseconds time).value / 1000 = time ↔ Holdable time := by
  have low := time.le_toInt
  have high := time.toInt_lt
  have thousand : (1000 : Int64).toInt = 1000 := rfl
  have quotient : ((microseconds time).value / 1000).toInt = ((time.toInt * 1000).bmod (2 ^ 64)).tdiv 1000 := by
    rw [microseconds, Int64.toInt_div_of_ne_right _ _ (by decide), Int64.toInt_mul, thousand]
  rw [← Int64.toInt_inj, quotient, Holdable]
  have below := Int.bmod_lt (x := time.toInt * 1000) (m := 2 ^ 64) (by decide)
  have above := Int.le_bmod (x := time.toInt * 1000) (m := 2 ^ 64) (by decide)
  constructor
  · intro same
    generalize (time.toInt * 1000).bmod (2 ^ 64) = nanoseconds at same below above
    have size : (nanoseconds.tdiv 1000).natAbs = nanoseconds.natAbs / 1000 := Int.natAbs_tdiv nanoseconds 1000
    rw [same] at size
    omega
  · intro bounds
    rw [Int.bmod_eq_of_le (by omega) (by omega), Int.mul_tdiv_cancel _ (by decide)]

theorem stream_from_one (fuel : Nat) (ring : RingParams) (client : ClientInfo) (cached : RingPacket) (outcome : Outcome) (reply : Reply)
    (ran : streamFrom fuel ring 1 client cached [] = some outcome) (sent : outcome.sent = [reply]) :
    ∃ db reading, newData ring = some db ∧ RingBuffer.readNext fuel ring client.reader cached (some db) = some reading ∧
      reading.code ≠ Constants.ringIdError ∧ reading.code ≠ Constants.ringIdNone ∧
      packetReply reading.packet (reading.data.getD []) = some reply ∧ outcome.client.reader = reading.reader := by
  simp only [streamFrom, Option.bind_eq_bind, Option.bind_eq_some_iff] at ran
  obtain ⟨db, isData, reading, read, ran⟩ := ran
  by_cases error : reading.code = Constants.ringIdError
  · rw [if_pos error] at ran
    cases ran
    cases sent
  rw [if_neg error] at ran
  by_cases missing : reading.code = Constants.ringIdNone
  · rw [if_pos missing] at ran
    cases ran
    cases sent
  rw [if_neg missing, Option.bind_eq_some_iff] at ran
  obtain ⟨other, isReply, ran⟩ := ran
  by_cases fits : (sendPacket other).isSome = true
  · rw [if_pos fits] at ran
    cases ran
    cases sent
    exact ⟨db, reading, isData, read, error, missing, isReply, rfl⟩
  · rw [if_neg fits] at ran
    cases ran
    cases sent

theorem packet_size_nat (g : Geometry) (ring : RingParams) (shaped : Shaped g ring) (header : 112 ≤ g.slot) :
    (packetSize ring).toNat = g.slot - 112 := by
  have bound : (112 : UInt32) ≤ ring.pktSize := by
    rw [UInt32.le_iff_toNat_le, shaped.pktSize]
    exact header
  rw [packetSize, UInt32.toNat_sub_of_le _ _ bound, shaped.pktSize]
  rfl

theorem slot_body_take (slot : Nat) (payload : List UInt8) (dataSize : UInt32) (whole : payload.length = dataSize.toNat) :
    (slotBody slot payload dataSize).take dataSize.toNat = payload := by
  have all : payload.take dataSize.toNat = payload := List.take_of_length_le (le_of_eq whole)
  rw [slotBody, all]
  exact List.take_left' whole

theorem logged_reading (engine : Engine) (fuel : Nat) (g : Geometry) (start ring : RingParams) (fresh : Fresh g start)
    (log : List (Call × RingPacket)) (served : Served engine fuel start log ring) (n : Nat) (call : Call) (packet : RingPacket)
    (isWrite : log[n]? = some (call, packet)) (resident : log.length ≤ n + g.count) (steps : Nat) (reader : RingReader)
    (cached : RingPacket) (db : List UInt8) (size : db.length = (packetSize ring).toNat) (reading : RingBuffer.Reading)
    (placed : reader.pktOffset < 0 ∨ ∃ i, i < log.length ∧ reader.pktOffset = g.offsetAt i)
    (read : RingBuffer.readNext steps ring reader cached (some db) = some reading)
    (notError : reading.code ≠ Constants.ringIdError) (notNone : reading.code ≠ Constants.ringIdNone)
    (onIt : reading.reader.pktOffset = g.offsetAt n) :
    reading.data = some (call.payload ++ db.drop packet.dataSize.toNat) ∧ reading.packet.streamId = storedId packet.streamId ∧
      reading.packet.dataStart = packet.dataStart ∧ reading.packet.dataEnd = packet.dataEnd ∧
      reading.packet.dataSize = packet.dataSize := by
  obtain ⟨journal, keeps, written, logged⟩ := served_logged engine fuel ring g start fresh log served
  have inside := (List.getElem?_eq_some_iff.mp isWrite).1
  have entry := logged n call packet isWrite
  have residentN : journal.Resident g n := ⟨by simp only [Journal.low, oldest]; omega, by omega⟩
  have slotSize := slot_keeps_size g _ journal n (keeps.slots n residentN)
  have isPlaced : Placed g journal reader := by
    rw [Placed, written]
    exact placed
  cases (read_next_kept g ring journal keeps cached (some db) steps reader reading isPlaced read).1 with
  | nothing _ _ code =>
      cases code with
      | inl none => exact absurd none notNone
      | inr error => exact absurd error notError
  | packet i residentI isPacket streamId isCopied code place =>
      have same : i = n := by
        by_contra differ
        refine g.offset_at_ne i n (by omega) (fun equal => differ ?_) (place.symm.trans onIt)
        exact slot_injective g.count journal.written i n residentI.1 residentI.2 residentN.1 residentN.2 equal
      subst same
      have fields : (journal.packet i) = { packet with
          pktId := (journal.packet i).pktId
          offset := (journal.packet i).offset
          pktTime := call.clock
          nextInStream := -1 } := entry.written.fields
      have header := isPacket.fields
      rw [fields] at header
      have dataSize : reading.packet.dataSize = packet.dataSize := by rw [header]
      have stored : journal.streamId i = packet.streamId := by rw [Journal.streamId, fields]
      obtain ⟨_, _, slot⟩ := keeps.slots i residentI
      obtain ⟨ringOf, stores⟩ := entry.stores
      have room : packet.dataSize.toNat ≤ db.length := by
        rw [size, packet_size_nat g ring keeps.shaped slotSize]
        have fits := entry.fits
        omega
      have copied := copy_slot g ring keeps.shaped i _ _ slot packet.dataSize entry.fits db room
      rw [entry.body, slot_body_take g.slot call.payload packet.dataSize stores.asks.payload] at copied
      rw [dataSize, copied, Option.some.injEq] at isCopied
      exact ⟨isCopied.symm, by rw [streamId, stored], by rw [header], by rw [header], dataSize⟩

theorem new_data_zeros (ring : RingParams) (db : List UInt8) (isData : newData ring = some db) :
    db = List.replicate (packetSize ring).toNat 0 := by
  rw [newData] at isData
  by_cases large : RingBuffer.maxArrayLength < (packetSize ring).toNat
  · rw [if_pos large] at isData
    cases isData
  · rw [if_neg large] at isData
    exact (Option.some.inj isData).symm

theorem streamed_packet (engine : Engine) (fuel : Nat) (g : Geometry) (start ring : RingParams) (fresh : Fresh g start)
    (log : List (Call × RingPacket)) (served : Served engine fuel start log ring) (n : Nat) (call : Call) (packet : RingPacket)
    (isWrite : log[n]? = some (call, packet)) (resident : log.length ≤ n + g.count) (steps : Nat) (client : ClientInfo)
    (cached : RingPacket) (outcome : Outcome) (reply : Reply)
    (placed : client.reader.pktOffset < 0 ∨ ∃ i, i < log.length ∧ client.reader.pktOffset = g.offsetAt i)
    (ran : streamFrom steps ring 1 client cached [] = some outcome) (sent : outcome.sent = [reply])
    (onIt : outcome.client.reader.pktOffset = g.offsetAt n) :
    ∃ header, packetReply header (call.payload ++ (List.replicate (packetSize ring).toNat 0).drop packet.dataSize.toNat) = some reply ∧
      header.streamId = storedId packet.streamId ∧ header.dataStart = packet.dataStart ∧ header.dataEnd = packet.dataEnd ∧
      header.dataSize = packet.dataSize := by
  obtain ⟨db, reading, isData, read, notError, notNone, isReply, reader⟩ := stream_from_one steps ring client cached outcome reply ran sent
  rw [reader] at onIt
  have zeros := new_data_zeros ring db isData
  have size : db.length = (packetSize ring).toNat := by rw [zeros, List.length_replicate]
  obtain ⟨data, streamId, dataStart, dataEnd, dataSize⟩ := logged_reading engine fuel g start ring fresh log served n call packet
    isWrite resident steps client.reader cached db size reading placed read notError notNone onIt
  rw [data, Option.getD_some, zeros] at isReply
  exact ⟨reading.packet, isReply, streamId, dataStart, dataEnd, dataSize⟩

theorem packet_reply_fields (header : RingPacket) (payload rest : List UInt8) (size : payload.length = header.dataSize.toNat)
    (reply : Reply) (isReply : packetReply header (payload ++ rest) = some reply) :
    reply.header = packetHeader header ∧ reply.dataBytes = header.serialize ++ payload := by
  rw [packetReply] at isReply
  by_cases inside : header.dataSize.toNat ≤ (payload ++ rest).length
  · rw [if_pos inside, List.take_left' size] at isReply
    cases isReply
    exact ⟨rfl, rfl⟩
  · rw [if_neg inside] at isReply
    cases isReply

-- Of a WRITE and the PACKET for it: the stream ID and the times come back on the
-- stated conditions, the payload never does.
theorem write_then_stream (engine : Engine) (fuel : Nat) (g : Geometry) (start ring : RingParams) (fresh : Fresh g start)
    (log : List (Call × RingPacket)) (served : Served engine fuel start log ring) (n : Nat) (call : Call) (packet : RingPacket)
    (isWrite : log[n]? = some (call, packet)) (resident : log.length ≤ n + g.count)
    (word streamId startStr endStr : Text) (behind : List Text) (dsHt deHt : Int64)
    (isParts : (readCommand call.client.dlCommand).parts = word :: streamId :: startStr :: endStr :: behind)
    (isStart : tryParseLong startStr = some dsHt) (isEnd : tryParseLong endStr = some deHt) (steps : Nat) (client : ClientInfo)
    (cached : RingPacket) (outcome : Outcome) (reply : Reply)
    (placed : client.reader.pktOffset < 0 ∨ ∃ i, i < log.length ∧ client.reader.pktOffset = g.offsetAt i)
    (ran : streamFrom steps ring 1 client cached [] = some outcome) (sent : outcome.sent = [reply])
    (onIt : outcome.client.reader.pktOffset = g.offsetAt n) :
    ∃ header, reply.header = packetHeader header ∧ reply.dataBytes = header.serialize ++ call.payload ∧
      sourceCodes (canonicalStreamId streamId) = sourceCodes streamId ∧
      (header.streamId = canonicalStreamId streamId ↔ Survives (canonicalStreamId streamId)) ∧
      (header.dataStart.value / 1000 = dsHt ↔ Holdable dsHt) ∧ (header.dataEnd.value / 1000 = deHt ↔ Holdable deHt) ∧
      ∀ sent, ¬ RoundTrip streamId dsHt deHt call.payload sent reply := by
  obtain ⟨header, isReply, storedAs, dataStart, dataEnd, dataSize⟩ := streamed_packet engine fuel g start ring fresh log served n call
    packet isWrite resident steps client cached outcome reply placed ran sent onIt
  obtain ⟨journal, keeps, written, logged⟩ := served_logged engine fuel ring g start fresh log served
  obtain ⟨ringOf, stores⟩ := (logged n call packet isWrite).stores
  obtain ⟨fields, bytes⟩ := packet_reply_fields header call.payload _ (by rw [dataSize, stores.asks.payload]) reply isReply
  obtain ⟨word', streamId', startStr', endStr', flags, sizeStr, behind', parts, _, canonical, _, asksStart, asksEnd, _⟩ :=
    stores.asks.request
  rw [isParts] at parts
  simp only [List.cons.injEq] at parts
  obtain ⟨_, rfl, rfl, rfl, _⟩ := parts
  rw [isStart, Option.map_some, Option.some.injEq] at asksStart
  rw [isEnd, Option.map_some, Option.some.injEq] at asksEnd
  refine ⟨header, fields, bytes, canonical_source streamId, ?_, ?_, ?_, fun sent same => ?_⟩
  · rw [storedAs, canonical]
    exact Iff.rfl
  · rw [dataStart, ← asksStart]
    exact microseconds_back dsHt
  · rw [dataEnd, ← asksEnd]
    exact microseconds_back deHt
  · have lengths := congrArg List.length (bytes.symm.trans same.payload)
    rw [List.length_append, serialize_length] at lengths
    omega

def oneByte : RingPacket := ⟨0, Constants.ringIdNone, ⟨0⟩, 0, "A".toList, ⟨0⟩, ⟨0⟩, 1⟩

def streaming : ClientInfo := { newClient with state := .stream, reader := { newClient.reader with pktId := Constants.ringIdEarliest } }

theorem byte_stored (ring : RingParams) (pktSize : ring.pktSize = 128) (header streamId : Text)
    (parsed : (readCommand (writing header).client.dlCommand).parts = ["WRITE".toList, streamId, "0".toList, "0".toList, "A".toList, "1".toList])
    (canonical : canonicalStreamId streamId = streamId) (short : streamId.length ≤ Constants.maxStreamId - 1) :
    Stores ring (writing header) { oneByte with streamId := streamId } := by
  have zero : (tryParseLong "0".toList).map microseconds = some ⟨0⟩ := by decide
  have one : tryParseUInt "1".toList = some 1 := by decide
  have array : oneByte.dataSize.toNat ≤ RingBuffer.maxArrayLength := by decide
  refine ⟨?_, rfl, ⟨rfl, ?_, array, rfl, rfl, "WRITE".toList, streamId, "0".toList, "0".toList, "A".toList, "1".toList, [],
    parsed, rfl, canonical.symm, short, zero, zero, one⟩⟩
  · rw [IsWrite, parsed, List.head?_cons, Option.map_some]
    exact congrArg some (by decide)
  · rw [pktSize]
    show ¬ (112 + 1 : UInt32) > 128
    decide

theorem one_byte_stored : Stores twoSlotRing (writing "WRITE A 0 0 A 1".toList) oneByte :=
  byte_stored twoSlotRing rfl "WRITE A 0 0 A 1".toList "A".toList (by decide +kernel) (by decide) (by decide)

theorem one_byte_served : Served plainEngine 1 twoSlotRing [(writing "WRITE A 0 0 A 1".toList, oneByte)]
    (ringAfter plainEngine 1 twoSlotRing (writing "WRITE A 0 0 A 1".toList)) :=
  .stored [] twoSlotRing _ oneByte .start one_byte_stored

theorem one_byte_streamed : ∃ outcome reply, streamFrom 3 (ringAfter plainEngine 1 twoSlotRing (writing "WRITE A 0 0 A 1".toList)) 1
    streaming newPacket [] = some outcome ∧ outcome.sent = [reply] ∧ outcome.client.reader.pktOffset = 0 := by
  have computed : (streamFrom 3 (ringAfter plainEngine 1 twoSlotRing (writing "WRITE A 0 0 A 1".toList)) 1 streaming newPacket []).map
      (fun outcome => (outcome.sent.length, outcome.client.reader.pktOffset)) = some (1, 0) := by decide +kernel
  obtain ⟨outcome, ran, same⟩ := Option.map_eq_some_iff.mp computed
  obtain ⟨one, place⟩ := Prod.mk.inj same
  obtain ⟨reply, isReply⟩ := List.length_eq_one_iff.mp one
  exact ⟨outcome, reply, ran, isReply, place⟩

theorem write_then_stream_one_byte : ∃ (outcome : Outcome) (reply : Reply), outcome.sent = [reply] ∧
    ∃ header, reply.header = packetHeader header ∧ reply.dataBytes = header.serialize ++ [7] ∧
      sourceCodes (canonicalStreamId "A".toList) = sourceCodes "A".toList ∧
      (header.streamId = canonicalStreamId "A".toList ↔ Survives (canonicalStreamId "A".toList)) ∧
      (header.dataStart.value / 1000 = 0 ↔ Holdable 0) ∧ (header.dataEnd.value / 1000 = 0 ↔ Holdable 0) ∧
      ∀ sent, ¬ RoundTrip "A".toList 0 0 [7] sent reply := by
  obtain ⟨outcome, reply, ran, sent, place⟩ := one_byte_streamed
  exact ⟨outcome, reply, sent, write_then_stream plainEngine 1 twoSlots twoSlotRing _ two_slots_fresh _ one_byte_served 0
    (writing "WRITE A 0 0 A 1".toList) oneByte rfl (by decide) "WRITE".toList "A".toList "0".toList "0".toList ["A".toList, "1".toList] 0 0
    (by decide +kernel) (by decide) (by decide) 3 streaming newPacket outcome reply (Or.inl (by decide)) ran sent place⟩

-- 112 bytes of header are sent in front of the one byte that was written.
theorem streamed_payload_has_header :
    (streamFrom 3 (ringAfter plainEngine 1 twoSlotRing (writing "WRITE A 0 0 A 1".toList)) 1 streaming newPacket []).map
      (fun outcome => outcome.sent.map fun reply => (reply.header, reply.dataBytes.length, reply.dataBytes.drop 112)) =
        some [("PACKET A 1 0 0 0 1".toList, 113, [7])] := by
  decide +kernel

end RingServer.DataLink
