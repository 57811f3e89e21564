import RingServer.Ring.Run

set_option autoImplicit false

namespace RingServer

open Library

theorem grow_to_pages_least (pageSize limit : UInt32) (fuel : Nat) (size result : UInt32)
    (grown : RingBuffer.growToPages pageSize limit fuel size = some result) : limit ≤ result := by
  induction fuel generalizing size with
  | zero => simp [RingBuffer.growToPages] at grown
  | succ fuel ih =>
      rw [RingBuffer.growToPages] at grown
      by_cases less : size < limit
      · rw [if_pos less] at grown
        exact ih _ grown
      · rw [if_neg less] at grown
        obtain rfl := Option.some.inj grown
        exact UInt32.not_lt.mp less

theorem header_size_least (pageSize headerSize : UInt32) (known : RingBuffer.headerSizeFor pageSize = some headerSize) :
    320 ≤ headerSize.toNat := by
  simp only [RingBuffer.headerSizeFor, Option.bind_eq_bind, Option.bind_eq_some_iff] at known
  obtain ⟨packetPages, _, paramPages, grown, isMax⟩ := known
  obtain rfl := Option.some.inj isMax
  have least := grow_to_pages_least _ _ _ _ _ grown
  have above : paramPages ≤ if packetPages ≤ paramPages then paramPages else packetPages := by
    by_cases ordered : packetPages ≤ paramPages
    · rw [if_pos ordered]
      exact UInt32.le_refl _
    · rw [if_neg ordered]
      exact UInt32.le_of_lt (UInt32.not_le.mp ordered)
  exact UInt32.le_iff_toNat_le.mp (UInt32.le_trans least above)

structure Opens (pageSize : UInt32) (ringSize : UInt64) (pktSize headerSize : UInt32) (maxPackets : UInt64) (maxOffset : Int64) :
    Prop where
  header : RingBuffer.headerSizeFor pageSize = some headerSize
  packets : maxPackets = (ringSize - headerSize.toUInt64) / pktSize.toUInt64
  offset : maxOffset = ((maxPackets - 1) * pktSize.toUInt64).toInt64
  some : pktSize ≠ 0
  fits : ¬ ringSize < (headerSize + 2 * pktSize).toUInt64

structure SetUp (ring : RingParams) (ringSize : UInt64) (pktSize headerSize : UInt32) (maxPackets : UInt64) (maxOffset : Int64)
    (volatileFlag : Bool) : Prop where
  array : ringSize.toNat ≤ RingBuffer.maxArrayLength
  length : ring.dataBuffer.length = ringSize.toNat
  dataOffset : ring.dataOffset = headerSize.toInt32
  signature : ring.signature = encodeASCII Constants.ringSignature
  version : ring.version = Constants.ringVersion
  ringSize : ring.ringSize = ringSize
  pktSize : ring.pktSize = pktSize
  maxPackets : ring.maxPackets = maxPackets
  maxOffset : ring.maxOffset = maxOffset
  headerSize : ring.headerSize = headerSize
  volatileFlag : ring.volatileFlag = if volatileFlag then 1 else 0

theorem set_up_same (old new : RingParams) (ringSize : UInt64) (pktSize headerSize : UInt32) (maxPackets : UInt64)
    (maxOffset : Int64) (volatileFlag : Bool) (same : SameSetup old new)
    (setUp : SetUp old ringSize pktSize headerSize maxPackets maxOffset volatileFlag) :
    SetUp new ringSize pktSize headerSize maxPackets maxOffset volatileFlag :=
  ⟨setUp.array, same.length.trans setUp.length, same.dataOffset.trans setUp.dataOffset, same.signature.trans setUp.signature,
    same.version.trans setUp.version, same.ringSize.trans setUp.ringSize, same.pktSize.trans setUp.pktSize,
    same.maxPackets.trans setUp.maxPackets, same.maxOffset.trans setUp.maxOffset, same.headerSize.trans setUp.headerSize,
    same.volatileFlag.trans setUp.volatileFlag⟩

theorem initialize_opens (named : Bool) (files : RingBuffer.RingFiles) (pageSize : UInt32) (ringSize : UInt64) (pktSize : UInt32)
    (volatileFlag : Bool) (code : Int) (ring : RingParams)
    (init : RingBuffer.ringInitialize named files pageSize ringSize pktSize volatileFlag = some (code, some ring)) :
    ∃ headerSize maxPackets maxOffset, Opens pageSize ringSize pktSize headerSize maxPackets maxOffset ∧
      RingBuffer.openRing files ringSize pktSize maxPackets maxOffset headerSize volatileFlag = some (code, some ring) := by
  simp only [RingBuffer.ringInitialize, Option.bind_eq_bind] at init
  by_cases unnamed : (!volatileFlag && !named) = true
  · rw [if_pos unnamed] at init
    simp at init
  rw [if_neg unnamed, Option.bind_eq_some_iff] at init
  obtain ⟨headerSize, header, init⟩ := init
  by_cases short : ringSize < (headerSize + 2 * pktSize).toUInt64
  · rw [if_pos short] at init
    simp at init
  by_cases zero : pktSize = 0
  · rw [if_neg short, if_pos zero] at init
    simp at init
  rw [if_neg short, if_neg zero] at init
  exact ⟨headerSize, _, _, ⟨header, rfl, rfl, zero, short⟩, init⟩

theorem opens_geometry (pageSize : UInt32) (ringSize : UInt64) (pktSize headerSize : UInt32) (maxPackets : UInt64) (maxOffset : Int64)
    (opens : Opens pageSize ringSize pktSize headerSize maxPackets maxOffset) (room : headerSize.toUInt64 ≤ ringSize)
    (array : ringSize.toNat ≤ RingBuffer.maxArrayLength) (two : 2 ≤ maxPackets) :
    ∃ g : Geometry, g.base = headerSize.toNat ∧ g.slot = pktSize.toNat ∧ g.count = maxPackets.toNat ∧ g.length = ringSize.toNat ∧
      maxOffset.toInt = ((g.count - 1) * g.slot : Nat) ∧ headerSize.toInt32.toInt = g.base := by
  have limit : RingBuffer.maxArrayLength < 2 ^ 31 := by decide
  rw [UInt64.le_iff_toNat_le, UInt32.toNat_toUInt64] at room
  rw [UInt64.le_iff_toNat_le] at two
  have constant : (2 : UInt64).toNat = 2 := rfl
  rw [constant] at two
  have count : maxPackets.toNat = (ringSize.toNat - headerSize.toNat) / pktSize.toNat := by
    rw [opens.packets, UInt64.toNat_div, UInt64.toNat_sub_of_le _ _ (by rw [UInt64.le_iff_toNat_le, UInt32.toNat_toUInt64]; exact room),
      UInt32.toNat_toUInt64, UInt32.toNat_toUInt64]
  have slots : maxPackets.toNat * pktSize.toNat ≤ ringSize.toNat - headerSize.toNat := by
    rw [count]
    exact Nat.div_mul_le_self _ _
  have fewer : (maxPackets.toNat - 1) * pktSize.toNat ≤ maxPackets.toNat * pktSize.toNat :=
    Nat.mul_le_mul_right _ (Nat.sub_le _ _)
  refine ⟨⟨headerSize.toNat, pktSize.toNat, maxPackets.toNat, ringSize.toNat, two, by omega, by omega⟩, rfl, rfl, rfl, rfl, ?_, ?_⟩
  · have one : (1 : UInt64) ≤ maxPackets := by
      rw [UInt64.le_iff_toNat_le]
      exact le_trans (by decide) two
    have product : ((maxPackets - 1) * pktSize.toUInt64).toNat = (maxPackets.toNat - 1) * pktSize.toNat := by
      have less : (maxPackets - 1).toNat = maxPackets.toNat - 1 := UInt64.toNat_sub_of_le _ _ one
      rw [UInt64.toNat_mul, less, UInt32.toNat_toUInt64, Nat.mod_eq_of_lt (by omega)]
    have cast : ((maxPackets - 1) * pktSize.toUInt64).toInt64 = Int64.ofNat ((maxPackets.toNat - 1) * pktSize.toNat) := by
      rw [← product, ← UInt64.toInt64_ofNat', UInt64.ofNat_toNat]
    rw [opens.offset, cast, Int64.toInt_ofNat_of_lt (by omega)]
  · have cast : headerSize.toInt32 = Int32.ofNat headerSize.toNat := by
      rw [← UInt32.toInt32_ofNat', UInt32.ofNat_toNat]
    rw [cast, Int32.toInt_ofNat_of_lt (by omega)]

def Unread (files : RingBuffer.RingFiles) (ringSize : UInt64) : Prop :=
  ∀ bytes, files.packetbuf = some bytes → bytes.length ≠ ringSize.toNat

theorem must_reset_unread (files : RingBuffer.RingFiles) (ringSize : UInt64) (pktSize : UInt32) (maxPackets : UInt64)
    (maxOffset : Int64) (headerSize : UInt32) (volatileFlag : Bool) (unread : volatileFlag = true ∨ Unread files ringSize) :
    RingBuffer.mustReset (RingBuffer.readHeader (RingBuffer.newRingParams files ringSize pktSize maxPackets maxOffset headerSize
      volatileFlag)) ringSize pktSize maxPackets maxOffset headerSize volatileFlag = true := by
  cases unread with
  | inl isVolatile => simp only [RingBuffer.mustReset, isVolatile, Bool.true_or]
  | inr missing =>
      have zeros : ∀ i, (RingBuffer.newRingParams files ringSize pktSize maxPackets maxOffset headerSize
          volatileFlag).dataBuffer.byte i = 0 := by
        intro i
        obtain ⟨packetbuf, streamidx⟩ := files
        cases packetbuf with
        | none => rfl
        | some bytes =>
            have apart : (!volatileFlag && decide (bytes.length = ringSize.toNat)) = false := by
              rw [decide_eq_false (missing bytes rfl), Bool.and_false]
            simp only [RingBuffer.newRingParams, apart, Bool.false_eq_true, if_false]
      have signature : (RingBuffer.readHeader (RingBuffer.newRingParams files ringSize pktSize maxPackets maxOffset headerSize
          volatileFlag)).signature = [0, 0, 0, 0] := by
        simp only [RingBuffer.readHeader, Buffer.slice, zeros]
        rfl
      have unsigned : (trimEndNul (decodeASCII [0, 0, 0, 0]) != Constants.ringSignature) = true := by decide
      simp only [RingBuffer.mustReset, signature, unsigned, Bool.or_true, Bool.true_or]

theorem load_ring_reset (files : RingBuffer.RingFiles) (ring fresh ring' : RingParams) (volatileFlag : Bool)
    (loaded : RingBuffer.loadRing files ring volatileFlag true fresh = some (0, some ring')) : ring' = fresh := by
  simp only [RingBuffer.loadRing, if_true, Option.bind_eq_bind, Option.bind_some] at loaded
  by_cases earliest : fresh.earliestOffset > fresh.maxOffset
  · rw [if_pos earliest] at loaded
    simp at loaded
  · by_cases latest : fresh.latestOffset > fresh.maxOffset
    · rw [if_neg earliest, if_pos latest] at loaded
      simp at loaded
    · rw [if_neg earliest, if_neg latest] at loaded
      simp only [Option.some.injEq, Prod.mk.injEq, true_and] at loaded
      exact loaded.symm

theorem initialize_reset (named : Bool) (files : RingBuffer.RingFiles) (pageSize : UInt32) (ringSize : UInt64) (pktSize : UInt32)
    (volatileFlag : Bool) (ring : RingParams)
    (init : RingBuffer.ringInitialize named files pageSize ringSize pktSize volatileFlag = some (0, some ring))
    (unread : volatileFlag = true ∨ Unread files ringSize) :
    ∃ headerSize maxPackets maxOffset, Opens pageSize ringSize pktSize headerSize maxPackets maxOffset ∧
      ringSize.toNat ≤ RingBuffer.maxArrayLength ∧ ∃ read : RingParams, read.streamIdx = RBTree.create ∧ read.streamCount = 0 ∧
        read.dataOffset = headerSize.toInt32 ∧ read.volatileFlag = (if volatileFlag then 1 else 0) ∧
        read.dataBuffer.length = ringSize.toNat ∧
        ring = RingBuffer.resetRingParams read ringSize pktSize maxPackets maxOffset headerSize := by
  obtain ⟨headerSize, maxPackets, maxOffset, opens, opened⟩ := initialize_opens _ _ _ _ _ _ _ _ init
  have reset := must_reset_unread files ringSize pktSize maxPackets maxOffset headerSize volatileFlag unread
  simp only [RingBuffer.openRing, reset] at opened
  by_cases array : RingBuffer.maxArrayLength < ringSize.toNat
  · rw [if_pos array] at opened
    simp at opened
  rw [if_neg array] at opened
  refine ⟨headerSize, maxPackets, maxOffset, opens, by omega, ?_⟩
  by_cases header : headerSize.toUInt64 ≤ ringSize
  · rw [if_pos header] at opened
    exact ⟨_, rfl, rfl, rfl, rfl, rfl, load_ring_reset _ _ _ _ _ opened⟩
  · rw [if_neg header] at opened
    simp only [Option.some.injEq, Prod.mk.injEq, true_and] at opened
    exact ⟨_, rfl, rfl, rfl, rfl, rfl, opened.symm⟩

theorem initialize_fresh (named : Bool) (files : RingBuffer.RingFiles) (pageSize : UInt32) (ringSize : UInt64) (pktSize : UInt32)
    (volatileFlag : Bool) (ring : RingParams)
    (init : RingBuffer.ringInitialize named files pageSize ringSize pktSize volatileFlag = some (0, some ring))
    (unread : volatileFlag = true ∨ Unread files ringSize) (room : ring.headerSize.toUInt64 ≤ ring.ringSize)
    (two : 2 ≤ ring.maxPackets) :
    ∃ g headerSize maxPackets maxOffset, Fresh g ring ∧ Opens pageSize ringSize pktSize headerSize maxPackets maxOffset ∧
      SetUp ring ringSize pktSize headerSize maxPackets maxOffset volatileFlag ∧ g.base = headerSize.toNat := by
  obtain ⟨headerSize, maxPackets, maxOffset, opens, array, read, streamIdx, streamCount, dataOffset, isVolatile, length, rfl⟩ :=
    initialize_reset named files pageSize ringSize pktSize volatileFlag ring init unread
  obtain ⟨g, base, slot, count, size, last, start⟩ :=
    opens_geometry pageSize ringSize pktSize headerSize maxPackets maxOffset opens room (by omega) two
  have buffer : (RingBuffer.resetRingParams read ringSize pktSize maxPackets maxOffset headerSize).dataBuffer.length =
      ringSize.toNat := by
    simp only [RingBuffer.resetRingParams]
    by_cases long : 4 < read.dataBuffer.length
    · rw [if_pos long, Buffer.blit_length, length]
    · rw [if_neg long, length]
  exact ⟨g, headerSize, maxPackets, maxOffset,
    ⟨⟨slot.symm, last, by rw [← start, ← dataOffset]; rfl, buffer.trans size.symm⟩, count.symm, rfl, rfl, streamIdx, streamCount⟩,
    opens, ⟨array, buffer, dataOffset, rfl, rfl, rfl, rfl, rfl, rfl, rfl, isVolatile⟩, base⟩

end RingServer
