import RingServer.Protocols.DataLinkRoundTrip
import RingServer.Protocols.SeedLinkStream

set_option autoImplicit false

namespace RingServer.SeedLink

open Library

def sequenceOf (protoMajor : Int) (frame : List UInt8) : Nat :=
  if protoMajor = 4 then (getUInt64 (frame.drop 8)).toNat else hexValue (decodeASCII ((frame.drop 2).take 6))

def payloadOf (protoMajor : Int) (frame : List UInt8) : List UInt8 :=
  if protoMajor = 4 then frame.drop (17 + (frame.getD 16 0).toNat) else frame.drop 8

theorem hex6_length (n : Nat) : (hex6 n).length = 6 := rfl

theorem hex6_ascii (n : Nat) : ∀ c ∈ hex6 n, c.toNat < 128 := by
  intro c member
  obtain ⟨d, _, rfl⟩ := List.mem_map.mp member
  have all : ('0' :: "0123456789ABCDEF".toList).all (fun c => c.toNat < 128) = true := rfl
  refine of_decide_eq_true (List.all_eq_true.mp all _ ?_)
  rw [List.getD_eq_getElem?_getD]
  cases digit : "0123456789ABCDEF".toList[d % 16]? with
  | none => exact List.mem_cons_self
  | some c => exact List.mem_cons_of_mem _ (List.mem_of_getElem? digit)

theorem low_bits (id : UInt64) : (id &&& 0xFFFFFF).toNat = id.toNat % 2 ^ 24 := by
  rw [UInt64.toNat_and]
  exact Nat.and_two_pow_sub_one_eq_mod id.toNat 24

theorem frame_read (around : Surroundings) (protoMajor : Int) (streamId : Text) (pktId : UInt64) (data : List UInt8) (dataLen : Nat)
    (payload : List UInt8) :
    sequenceOf protoMajor (frameHeader around protoMajor streamId pktId data dataLen ++ payload) =
        (if protoMajor = 4 then pktId.toNat else pktId.toNat % 2 ^ 24) ∧
      payloadOf protoMajor (frameHeader around protoMajor streamId pktId data dataLen ++ payload) = payload := by
  rw [frameHeader, sequenceOf, payloadOf]
  by_cases four : protoMajor = 4
  · simp only [if_pos four]
    have staid : ((encodeASCII (stationId around streamId)).take
        (UInt8.ofNat (encodeASCII (stationId around streamId)).length).toNat).length =
          (UInt8.ofNat (encodeASCII (stationId around streamId)).length).toNat := by
      rw [List.length_take, UInt8.toNat_ofNat']
      exact Nat.min_eq_left (Nat.mod_le _ _)
    generalize UInt8.ofNat (encodeASCII (stationId around streamId)).length = staidLen at staid ⊢
    generalize (encodeASCII (stationId around streamId)).take staidLen.toNat = staidBytes at staid ⊢
    generalize isStart : [83, 69, format data dataLen, 68] ++ putUInt32 (UInt32.ofNat dataLen) = start
    have length : start.length = 8 := by
      rw [← isStart, List.length_append, put_uint32_length]
      rfl
    have fields : [83, 69, format data dataLen, 68] ++ (putUInt32 (UInt32.ofNat dataLen) ++ (putUInt64 pktId ++
        (staidLen :: staidBytes))) ++ payload = start ++ (putUInt64 pktId ++ (staidLen :: (staidBytes ++ payload))) := by
      rw [← isStart]
      simp only [List.append_assoc, List.cons_append]
    have sixteen : (start ++ putUInt64 pktId).length = 16 := by rw [List.length_append, length, put_uint64_length]
    have staidAt : (start ++ (putUInt64 pktId ++ (staidLen :: (staidBytes ++ payload)))).drop 16 = staidLen :: (staidBytes ++ payload) := by
      rw [← List.append_assoc]
      exact List.drop_left' sixteen
    rw [fields]
    refine ⟨?_, ?_⟩
    · rw [List.drop_left' length, get_put_uint64]
    · have count : (start ++ (putUInt64 pktId ++ (staidLen :: (staidBytes ++ payload)))).getD 16 0 = staidLen := by
        rw [List.getD_eq_getElem?_getD, ← List.head?_drop, staidAt]
        rfl
      have sum : 17 + staidLen.toNat = 16 + (1 + staidLen.toNat) := by omega
      rw [count, sum, ← List.drop_drop, staidAt, Nat.add_comm, List.drop_succ_cons]
      exact List.drop_left' staid
  · simp only [if_neg four]
    have header : encodeASCII ('S' :: 'L' :: hex6 (pktId &&& 0xFFFFFF).toNat) =
        [83, 76] ++ encodeASCII (hex6 (pktId &&& 0xFFFFFF).toNat) := rfl
    have length : (encodeASCII (hex6 (pktId &&& 0xFFFFFF).toNat)).length = 6 := by rw [encode_length, hex6_length]
    refine ⟨?_, ?_⟩
    · have digits : (([83, 76] ++ encodeASCII (hex6 (pktId &&& 0xFFFFFF).toNat) ++ payload).drop 2).take 6 =
          encodeASCII (hex6 (pktId &&& 0xFFFFFF).toNat) := List.take_left' length
      rw [header, digits, decode_encode _ (hex6_ascii _), hex_value_hex6, low_bits, Nat.mod_mod]
    · rw [header]
      exact List.drop_left' (by rw [List.length_append, length]; rfl)

def readFrame (protoMajor : Int) (frame : List UInt8) : Nat × List UInt8 := (sequenceOf protoMajor frame, payloadOf protoMajor frame)

def numbered (protoMajor : Int) (pktId : UInt64) : Nat := if protoMajor = 4 then pktId.toNat else pktId.toNat % 2 ^ 24

theorem valid_header_congr (first second : List UInt8) (dataLen : Nat) (same : ∀ i, first.getD i 0 = second.getD i 0) :
    isValidMiniSeedHeader first dataLen = isValidMiniSeedHeader second dataLen := by
  have ms3 : isMs3 first = isMs3 second := by simp only [isMs3, same]
  have clock (i : Nat) : validClock first i = validClock second i := by simp only [validClock, same]
  rw [isValidMiniSeedHeader, isValidMiniSeedHeader, ms3, clock, clock, same 6, same 7]
  simp only [same]

theorem get_cleared (payload buffer : List UInt8) (count i : Nat) :
    (payload ++ (buffer.map fun _ => (0 : UInt8)).drop count).getD i 0 = payload.getD i 0 := by
  rw [List.getD_eq_getElem?_getD, List.getD_eq_getElem?_getD]
  by_cases inside : i < payload.length
  · rw [List.getElem?_append_left inside]
  · rw [List.getElem?_append_right (by omega), List.getElem?_eq_none (l := payload) (by omega), List.getElem?_drop, List.getElem?_map]
    cases buffer[count + (i - payload.length)]? with
    | none => rfl
    | some _ => rfl

theorem cached_buffers_size (g : Geometry) (ring : RingParams) (shaped : Shaped g ring) (header : 112 ≤ g.slot) (ext : SLExtInfo) :
    ∃ packet packetData, cachedBuffers ring ext = some (packet, packetData) ∧ packetData.length = (DataLink.packetSize ring).toNat := by
  rw [cachedBuffers.eq_def]
  cases isCached : ext.cached.filter (fun cached => cached.2.length = (DataLink.packetSize ring).toNat) with
  | some cached =>
      obtain ⟨_, size⟩ := Option.filter_eq_some_iff.mp isCached
      exact ⟨cached.1, cached.2, rfl, of_decide_eq_true size⟩
  | none =>
      have room := g.room
      have small := g.small
      have two := Nat.mul_le_mul_right g.slot g.two
      have size := DataLink.packet_size_nat g ring shaped header
      have bound : RingBuffer.maxArrayLength = 2147483591 := rfl
      refine ⟨DataLink.newPacket, List.replicate (DataLink.packetSize ring).toNat 0, ?_, List.length_replicate⟩
      dsimp only
      rw [DataLink.newData, if_neg (by omega)]
      rfl

theorem stream_packet_hit (around : Surroundings) (fuel : Nat) (ring : RingParams) (session : Session) (packet : RingPacket)
    (packetData payload : List UInt8) (reading : RingBuffer.Reading) (isCached : cachedBuffers ring session.ext = some (packet, packetData))
    (isReading : RingBuffer.readNext fuel ring session.client.reader packet (some (packetData.map fun _ => 0)) = some reading)
    (notError : reading.code ≠ Constants.ringIdError) (notNone : reading.code ≠ Constants.ringIdNone)
    (isData : reading.data = some (payload ++ (packetData.map fun _ => 0).drop payload.length))
    (size : reading.packet.dataSize.toNat = payload.length) :
    ∃ outcome cached, streamPacket around fuel ring session = some outcome ∧ ¬ outcome.code < 0 ∧
      outcome.session = (session.withReader reading.reader).withExt { session.ext with cached := cached } ∧
      outcome.sent.map (readFrame session.ext.protoMajor) =
        if reading.packet.dataSize ≠ 0 ∧ isValidMiniSeedHeader payload payload.length then
          [(numbered session.ext.protoMajor reading.code, payload)]
        else [] := by
  simp only [streamPacket, isCached, isReading, Option.bind_eq_bind, Option.bind_some, if_neg notError, if_neg notNone, isData,
    Option.getD_some]
  by_cases empty : reading.packet.dataSize = 0
  · rw [if_pos empty]
    refine ⟨_, _, rfl, lt_irrefl (0 : Int), rfl, ?_⟩
    rw [if_neg (fun both => both.1 empty)]
    rfl
  rw [if_neg empty]
  have dataLen : min reading.packet.dataSize.toNat (payload ++ (packetData.map fun _ => (0 : UInt8)).drop payload.length).length =
      payload.length := by
    rw [size, List.length_append]
    omega
  have valid : isValidMiniSeedHeader (payload ++ (packetData.map fun _ => 0).drop payload.length) payload.length =
      isValidMiniSeedHeader payload payload.length :=
    valid_header_congr _ _ _ (get_cleared payload packetData payload.length)
  rw [dataLen, valid, List.take_left]
  by_cases isValid : isValidMiniSeedHeader payload payload.length = true
  · rw [if_neg (not_not.mpr isValid), if_pos ⟨empty, isValid⟩]
    refine ⟨_, _, rfl, Int.not_lt.mpr (Int.natCast_nonneg _), rfl, ?_⟩
    obtain ⟨number, data⟩ := frame_read around session.ext.protoMajor (trimEndBlank reading.packet.streamId) reading.code
      (payload ++ (packetData.map fun _ => 0).drop payload.length) payload.length payload
    rw [List.map_singleton, readFrame]
    exact congrArg (· :: []) (Prod.ext number data)
  · rw [if_pos isValid, if_neg (fun both => isValid both.2)]
    exact ⟨_, _, rfl, Int.not_lt.mpr (Int.natCast_nonneg _), rfl, rfl⟩

end RingServer.SeedLink
