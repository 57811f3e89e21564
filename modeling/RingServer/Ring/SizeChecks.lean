import RingServer.Ring.ShutdownFailure
import RingServer.Config.ServerConfig

set_option autoImplicit false

namespace RingServer.RingBuffer

open Library

def headerBytes (pageSize : UInt32) : Nat := (319 / pageSize.toNat + 1) * pageSize.toNat

structure Exact (headerSize pktSize : UInt32) (ringSize : UInt64) : Prop where
  sum : (headerSize + 2 * pktSize).toNat = headerSize.toNat + 2 * pktSize.toNat
  divisor : ¬ ringSize < (headerSize + 2 * pktSize).toUInt64 → pktSize ≠ 0
  rest : ¬ ringSize < (headerSize + 2 * pktSize).toUInt64 →
    (ringSize - headerSize.toUInt64).toNat = ringSize.toNat - headerSize.toNat ∧ headerSize.toNat ≤ ringSize.toNat
  last : ¬ ringSize < (headerSize + 2 * pktSize).toUInt64 →
    (((ringSize - headerSize.toUInt64) / pktSize.toUInt64 - 1) * pktSize.toUInt64).toInt64.toInt =
      ((ringSize.toNat - headerSize.toNat) / pktSize.toNat - 1 : Int) * pktSize.toNat

structure Laid (ring : RingParams) (ringSize : UInt64) (pktSize : UInt32) (base : Nat) : Prop where
  length : ring.ringSize = ringSize
  slot : ring.pktSize = pktSize
  header : ring.headerSize.toNat = base
  two : 2 ≤ ring.maxPackets.toNat
  fits : base + ring.maxPackets.toNat * pktSize.toNat ≤ ringSize.toNat
  last : ring.maxOffset.toInt = ((ring.maxPackets.toNat - 1) * pktSize.toNat : Nat)
  slots : ∀ slot, slot < ring.maxPackets.toNat → ∀ skip, skip ≤ pktSize.toNat →
    (bufOffset ring (Int64.ofNat (slot * pktSize.toNat)) + Int32.ofNat skip).toInt = (base + slot * pktSize.toNat + skip : Nat)

structure SizedWell (named : Bool) (files : RingFiles) (pageSize : UInt32) (ringSize : UInt64) (pktSize : UInt32)
    (volatileFlag : Bool) : Prop where
  exact : (volatileFlag || named) = true → ∃ headerSize, headerSizeFor pageSize = some headerSize ∧
    headerSize.toNat = headerBytes pageSize ∧ Exact headerSize pktSize ringSize
  result : (∃ code ring, ringInitialize named files pageSize ringSize pktSize volatileFlag = some (code, ring) ∧ code < 0) ∨
    ∃ ring, ringInitialize named files pageSize ringSize pktSize volatileFlag = some (0, some ring) ∧
      Laid ring ringSize pktSize (headerBytes pageSize)

theorem grow_to_pages_whole (pageSize limit : UInt32) (positive : 0 < pageSize.toNat) (page : pageSize.toNat < 2 ^ 31)
    (low : limit.toNat < 2 ^ 31) (fuel : Nat) (size : UInt32) (m : Nat) (whole : size.toNat = m * pageSize.toNat)
    (enough : limit.toNat - size.toNat < fuel) : ∃ result k, growToPages pageSize limit fuel size = some result ∧
      result.toNat = k * pageSize.toNat ∧ m ≤ k ∧ limit.toNat ≤ k * pageSize.toNat ∧
      (m = k ∨ (k - 1) * pageSize.toNat < limit.toNat) := by
  induction fuel generalizing size m with
  | zero => omega
  | succ fuel ih =>
      rw [growToPages]
      by_cases less : size < limit
      · rw [if_pos less]
        rw [UInt32.lt_iff_toNat_lt] at less
        have next : (size + pageSize).toNat = (m + 1) * pageSize.toNat := by
          rw [UInt32.toNat_add, Nat.mod_eq_of_lt (by omega), whole, Nat.succ_mul]
        obtain ⟨result, k, grown, isResult, more, reached, least⟩ := ih (size + pageSize) (m + 1) next (by
          rw [next, Nat.succ_mul]
          omega)
        refine ⟨result, k, grown, isResult, by omega, reached, Or.inr ?_⟩
        rcases least with same | least
        · rw [← same, Nat.add_sub_cancel, ← whole]
          exact less
        · exact least
      · rw [if_neg less]
        rw [UInt32.lt_iff_toNat_lt] at less
        exact ⟨size, m, rfl, whole, Nat.le_refl m, by omega, Or.inl rfl⟩

theorem header_size_whole (pageSize : UInt32) (positive : 0 < pageSize.toNat) (page : pageSize.toNat < 2 ^ 31) :
    ∃ headerSize, headerSizeFor pageSize = some headerSize ∧ headerSize.toNat = headerBytes pageSize := by
  obtain ⟨packetPages, k, grown, isPages, _, enough, least⟩ :=
    grow_to_pages_whole pageSize (112 + 128) positive page (by decide) 321 pageSize 1 (by omega) (by
      have limit : (112 + 128 : UInt32).toNat = 240 := by decide
      omega)
  obtain ⟨paramPages, k', grown', isPages', more, enough', least'⟩ :=
    grow_to_pages_whole pageSize (256 + 64) positive page (by decide) 321 packetPages k isPages (by
      have limit : (256 + 64 : UInt32).toNat = 320 := by decide
      omega)
  have limit : (112 + 128 : UInt32).toNat = 240 := by decide
  have limit' : (256 + 64 : UInt32).toNat = 320 := by decide
  rw [limit] at enough least
  rw [limit'] at enough' least'
  have ordered : packetPages ≤ paramPages := by
    rw [UInt32.le_iff_toNat_le, isPages, isPages']
    exact Nat.mul_le_mul_right _ more
  refine ⟨paramPages, ?_, ?_⟩
  · rw [headerSizeFor, grown, Option.bind_eq_bind, Option.bind_some, grown', Option.bind_some]
    exact congrArg some (if_pos ordered)
  · have below : (k' - 1) * pageSize.toNat ≤ 319 := by
      rcases least' with same | least'
      · rcases least with first | least
        · rw [← same, ← first]
          omega
        · rw [← same]
          omega
      · omega
    have pages : 319 / pageSize.toNat = k' - 1 := by
      refine Nat.div_eq_of_lt_le below ?_
      have one : k' - 1 + 1 = k' := by
        refine Nat.sub_add_cancel ?_
        by_contra none
        rw [Nat.lt_one_iff.mp (Nat.not_le.mp none)] at enough'
        omega
      rw [one]
      omega
    rw [isPages', headerBytes, pages]
    congr 1
    by_contra apart
    have none : k' = 0 := by omega
    rw [none] at enough'
    omega

theorem opens_two (headerSize pktSize : UInt32) (ringSize : UInt64) (some : pktSize ≠ 0)
    (fits : headerSize.toNat + 2 * pktSize.toNat ≤ ringSize.toNat) :
    ((ringSize - headerSize.toUInt64) / pktSize.toUInt64).toNat = (ringSize.toNat - headerSize.toNat) / pktSize.toNat ∧
      2 ≤ (ringSize.toNat - headerSize.toNat) / pktSize.toNat := by
  have slot : 0 < pktSize.toNat := by
    rw [Nat.pos_iff_ne_zero]
    intro zero
    exact some (UInt32.toNat_inj.mp zero)
  have room : headerSize.toUInt64 ≤ ringSize := by
    rw [UInt64.le_iff_toNat_le, UInt32.toNat_toUInt64]
    omega
  refine ⟨?_, (Nat.le_div_iff_mul_le slot).mpr (by omega)⟩
  rw [UInt64.toNat_div, UInt64.toNat_sub_of_le _ _ room, UInt32.toNat_toUInt64, UInt32.toNat_toUInt64]

theorem sum_exact (headerSize pktSize : UInt32) :
    (headerSize + 2 * pktSize).toNat = headerSize.toNat + 2 * pktSize.toNat ↔ headerSize.toNat + 2 * pktSize.toNat < 2 ^ 32 := by
  have two : (2 : UInt32).toNat = 2 := rfl
  constructor
  · intro exact
    rw [← exact]
    exact UInt32.toNat_lt _
  · intro narrow
    rw [UInt32.toNat_add, UInt32.toNat_mul, two, Nat.mod_eq_of_lt (a := 2 * pktSize.toNat) (by omega), Nat.mod_eq_of_lt narrow]

theorem must_reset_kept (ring : RingParams) (ringSize : UInt64) (pktSize : UInt32) (maxPackets : UInt64) (maxOffset : Int64)
    (headerSize : UInt32) (volatileFlag : Bool)
    (kept : mustReset ring ringSize pktSize maxPackets maxOffset headerSize volatileFlag = false) :
    ring.ringSize = ringSize ∧ ring.pktSize = pktSize ∧ ring.maxPackets = maxPackets ∧ ring.maxOffset = maxOffset ∧
      ring.headerSize = headerSize := by
  simp only [mustReset, Bool.or_eq_false_iff, bne_eq_false_iff_eq] at kept
  obtain ⟨⟨⟨⟨⟨-, ringIs⟩, pktIs⟩, packets⟩, offset⟩, header⟩ := kept
  exact ⟨ringIs, pktIs, packets, offset, header⟩

theorem load_streams_any (records : Nat) (bytes : List UInt8) (ring : RingParams) (whole : ColorTree NodeId) (total : Nat)
    (rep : RBTree.Represents ring.streamIdx whole []) (balanced : ColorTree.Balanced whole false total) :
    ∃ tree count, loadStreams records bytes ring = some (withIndex ring tree count) := by
  induction records generalizing bytes ring whole total with
  | zero => exact ⟨ring.streamIdx, ring.streamCount, rfl⟩
  | succ records ih =>
      obtain ⟨next, whole', total', inserted, repNext, balancedNext⟩ := RBTree.insert_any ring.streamIdx whole total
        (deserializeRingStream (bytes.take streamRecordSize)).streamId (deserializeRingStream (bytes.take streamRecordSize)) rep balanced
      obtain ⟨tree, count, loaded⟩ := ih (bytes.drop streamRecordSize)
        { ring with streamIdx := next, streamCount := ring.streamCount + 1 } whole' total' repNext balancedNext
      refine ⟨tree, count, ?_⟩
      simp only [loadStreams, inserted, Option.bind_eq_bind, Option.bind_some, loaded]
      rfl

theorem load_index_any (files : RingFiles) (ring : RingParams) (empty : ring.streamIdx = RBTree.create) :
    ∃ tree count, loadIndex files ring = some (withIndex ring tree count) := by
  have created : RBTree.Represents ring.streamIdx .nil [] := by
    rw [empty]
    exact RBTree.index_create.rep
  rw [loadIndex]
  cases files.streamidx with
  | none => exact ⟨ring.streamIdx, ring.streamCount, rfl⟩
  | some bytes => exact load_streams_any (bytes.length / streamRecordSize) bytes ring .nil 0 created .nil

theorem laid_index (ring : RingParams) (ringSize : UInt64) (pktSize : UInt32) (base : Nat) (tree : RBTree Text RingStream) (count : UInt32)
    (laid : Laid ring ringSize pktSize base) : Laid (withIndex ring tree count) ringSize pktSize base :=
  ⟨laid.length, laid.slot, laid.header, laid.two, laid.fits, laid.last, laid.slots⟩

section

variable (pageSize : UInt32) (ringSize : UInt64) (pktSize headerSize : UInt32) (known : headerSizeFor pageSize = some headerSize)
  (divides : pktSize ≠ 0) (fits : headerSize.toNat + 2 * pktSize.toNat ≤ ringSize.toNat) (array : ringSize.toNat ≤ maxArrayLength)

include known divides fits array

theorem fitting_geometry (maxPackets : UInt64) (packets : maxPackets = (ringSize - headerSize.toUInt64) / pktSize.toUInt64) :
    Opens pageSize ringSize pktSize headerSize maxPackets ((maxPackets - 1) * pktSize.toUInt64).toInt64 ∧
      ∃ g : Geometry, g.base = headerSize.toNat ∧ g.slot = pktSize.toNat ∧ g.count = maxPackets.toNat ∧ g.length = ringSize.toNat ∧
        ((maxPackets - 1) * pktSize.toUInt64).toInt64.toInt = ((g.count - 1) * g.slot : Nat) ∧ headerSize.toInt32.toInt = g.base := by
  have room : headerSize.toUInt64 ≤ ringSize := by
    rw [UInt64.le_iff_toNat_le, UInt32.toNat_toUInt64]
    omega
  obtain ⟨count, two⟩ := opens_two headerSize pktSize ringSize divides fits
  have limit : maxArrayLength < 2 ^ 31 := by decide
  have sum := (sum_exact headerSize pktSize).mpr (by omega)
  have opens : Opens pageSize ringSize pktSize headerSize maxPackets ((maxPackets - 1) * pktSize.toUInt64).toInt64 := by
    refine ⟨known, packets, rfl, divides, ?_⟩
    rw [UInt64.lt_iff_toNat_lt, UInt32.toNat_toUInt64, sum]
    omega
  refine ⟨opens, opens_geometry pageSize ringSize pktSize headerSize maxPackets _ opens room array ?_⟩
  rw [UInt64.le_iff_toNat_le, packets, count]
  exact two

theorem laid_out (ring : RingParams) (ringIs : ring.ringSize = ringSize) (pktIs : ring.pktSize = pktSize)
    (headerIs : ring.headerSize = headerSize) (packets : ring.maxPackets = (ringSize - headerSize.toUInt64) / pktSize.toUInt64)
    (offset : ring.maxOffset = ((ring.maxPackets - 1) * pktSize.toUInt64).toInt64) (start : ring.dataOffset = headerSize.toInt32)
    (length : ring.dataBuffer.length = ringSize.toNat) : Laid ring ringSize pktSize headerSize.toNat := by
  obtain ⟨opens, g, base, slot, counts, size, last, dataOffset⟩ :=
    fitting_geometry pageSize ringSize pktSize headerSize known divides fits array ring.maxPackets packets
  rw [← offset] at last
  have shaped : Shaped g ring := ⟨by rw [pktIs, slot], last, by rw [start, dataOffset], length.trans size.symm⟩
  have bound := g.room
  rw [base, counts, slot, size] at bound
  refine ⟨ringIs, pktIs, by rw [headerIs], counts ▸ g.two, bound, ?_, fun i below skip inside => ?_⟩
  · rw [last, counts, slot]
  · have place : g.offsetAt i = Int64.ofNat (i * pktSize.toNat) := by
      rw [Geometry.offsetAt, Geometry.place, counts, slot, Nat.mod_eq_of_lt below]
    have index := buf_offset_add g ring shaped i skip (by omega)
    rw [place, base, Geometry.place, counts, slot, Nat.mod_eq_of_lt below] at index
    exact index

theorem fitting_exact : Exact headerSize pktSize ringSize := by
  obtain ⟨count, two⟩ := opens_two headerSize pktSize ringSize divides fits
  obtain ⟨opens, g, base, slot, counts, size, last, dataOffset⟩ :=
    fitting_geometry pageSize ringSize pktSize headerSize known divides fits array _ rfl
  have limit : maxArrayLength < 2 ^ 31 := by decide
  have room : headerSize.toUInt64 ≤ ringSize := by
    rw [UInt64.le_iff_toNat_le, UInt32.toNat_toUInt64]
    omega
  refine ⟨(sum_exact headerSize pktSize).mpr (by omega), fun _ => divides, fun _ => ⟨?_, by omega⟩, fun _ => ?_⟩
  · rw [UInt64.toNat_sub_of_le _ _ room, UInt32.toNat_toUInt64]
  · rw [last, counts, slot, count, Int.natCast_mul, Nat.cast_sub (by omega)]
    congr 1
    rw [Int.natCast_div, Nat.cast_sub (by omega)]
    rfl

theorem open_ring_laid (files : RingFiles) (volatileFlag : Bool) (maxPackets : UInt64)
    (packets : maxPackets = (ringSize - headerSize.toUInt64) / pktSize.toUInt64) :
    (∃ ring, openRing files ringSize pktSize maxPackets ((maxPackets - 1) * pktSize.toUInt64).toInt64 headerSize volatileFlag =
        some (-1, some ring)) ∨
      ∃ ring, openRing files ringSize pktSize maxPackets ((maxPackets - 1) * pktSize.toUInt64).toInt64 headerSize volatileFlag =
        some (0, some ring) ∧ Laid ring ringSize pktSize headerSize.toNat := by
  have limit : maxArrayLength < 2 ^ 31 := by decide
  have room : headerSize.toUInt64 ≤ ringSize := by
    rw [UInt64.le_iff_toNat_le, UInt32.toNat_toUInt64]
    omega
  have tests (ring : RingParams) (laid : Laid ring ringSize pktSize headerSize.toNat) :
    (∃ tested, testOffsets ring = some (-1, some tested)) ∨
      ∃ tested, testOffsets ring = some (0, some tested) ∧ Laid tested ringSize pktSize headerSize.toNat := by
    rw [testOffsets]
    split
    · exact Or.inl ⟨_, rfl⟩
    split
    · exact Or.inl ⟨_, rfl⟩
    · exact Or.inr ⟨ring, rfl, laid⟩
  have lays := laid_out pageSize ringSize pktSize headerSize known divides fits array
  rw [openRing]
  dsimp only
  rw [if_neg (by omega), if_pos room, load_ring_index]
  obtain ⟨read, isRead⟩ : ∃ read, read = readHeader (newRingParams files ringSize pktSize maxPackets
    ((maxPackets - 1) * pktSize.toUInt64).toInt64 headerSize volatileFlag) := ⟨_, rfl⟩
  have streams : read.streamIdx = RBTree.create := isRead ▸ rfl
  have start : read.dataOffset = headerSize.toInt32 := isRead ▸ rfl
  have length : read.dataBuffer.length = ringSize.toNat := isRead ▸ rfl
  rw [← isRead]
  cases isReset : mustReset read ringSize pktSize maxPackets ((maxPackets - 1) * pktSize.toUInt64).toInt64 headerSize volatileFlag with
  | true =>
      rw [if_pos rfl, Option.bind_some]
      refine tests _ (lays _ rfl rfl rfl packets rfl start ?_)
      rw [resetRingParams]
      dsimp only
      split
      · rw [Buffer.blit_length, length]
      · exact length
  | false =>
      obtain ⟨ringIs, pktIs, packetsIs, offsetIs, headerIs⟩ := must_reset_kept _ _ _ _ _ _ _ isReset
      have laid := lays read ringIs pktIs headerIs (packetsIs.trans packets) (offsetIs.trans (by rw [packetsIs])) start length
      rw [if_neg Bool.false_ne_true]
      split
      · obtain ⟨tree, count, loaded⟩ := load_index_any files read streams
        rw [loaded, Option.bind_some]
        exact tests _ (laid_index read ringSize pktSize headerSize.toNat tree count laid)
      · exact tests _ laid

end

theorem initialize_named (named : Bool) (files : RingFiles) (pageSize : UInt32) (ringSize : UInt64) (pktSize headerSize : UInt32)
    (volatileFlag : Bool) (asked : (volatileFlag || named) = true) (known : headerSizeFor pageSize = some headerSize) :
    ringInitialize named files pageSize ringSize pktSize volatileFlag =
      if ringSize < (headerSize + 2 * pktSize).toUInt64 then some (-2, none)
      else if pktSize = 0 then none
      else openRing files ringSize pktSize ((ringSize - headerSize.toUInt64) / pktSize.toUInt64)
        (((ringSize - headerSize.toUInt64) / pktSize.toUInt64 - 1) * pktSize.toUInt64).toInt64 headerSize volatileFlag := by
  have unnamed : ¬ (!volatileFlag && !named) = true := by
    revert asked
    cases volatileFlag <;> cases named <;> decide
  rw [ringInitialize, if_neg unnamed, known]
  rfl

-- The checks are sound where the names are missing, or where header and two packets are a
-- number of 32 bits and the ring is too small for them, or has packets and a buffer of a
-- length that an array can have.
theorem sized_well_iff (named : Bool) (files : RingFiles) (pageSize : UInt32) (ringSize : UInt64) (pktSize : UInt32) (volatileFlag : Bool)
    (positive : 0 < pageSize.toNat) (page : pageSize.toNat < 2 ^ 31) :
    SizedWell named files pageSize ringSize pktSize volatileFlag ↔
      (volatileFlag || named) = false ∨
        (headerBytes pageSize + 2 * pktSize.toNat < 2 ^ 32 ∧
          (ringSize.toNat < headerBytes pageSize + 2 * pktSize.toNat ∨ (pktSize ≠ 0 ∧ ringSize.toNat ≤ maxArrayLength))) := by
  obtain ⟨headerSize, known, isHeader⟩ := header_size_whole pageSize positive page
  cases asked : volatileFlag || named with
  | false =>
      refine iff_of_true ⟨fun other => ?_, Or.inl ⟨-2, none, ?_, by decide⟩⟩ (Or.inl rfl)
      · rw [asked] at other
        cases other
      · rw [Bool.or_eq_false_iff] at asked
        rw [ringInitialize, asked.1, asked.2]
        rfl
  | true =>
      have init := initialize_named named files pageSize ringSize pktSize headerSize volatileFlag asked known
      rw [← isHeader]
      constructor
      · intro well
        obtain ⟨other, known', -, exact⟩ := well.exact asked
        obtain rfl : headerSize = other := Option.some.inj (known.symm.trans known')
        have narrow := (sum_exact headerSize pktSize).mp exact.sum
        refine Or.inr ⟨narrow, ?_⟩
        by_cases short : ringSize < (headerSize + 2 * pktSize).toUInt64
        · left
          rwa [UInt64.lt_iff_toNat_lt, UInt32.toNat_toUInt64, exact.sum] at short
        · refine Or.inr ⟨exact.divisor short, ?_⟩
          by_contra long
          have none : ringInitialize named files pageSize ringSize pktSize volatileFlag = none := by
            rw [init, if_neg short, if_neg (exact.divisor short), openRing]
            dsimp only
            rw [if_pos (by omega)]
          rcases well.result with ⟨code, ring, returned, -⟩ | ⟨ring, returned, -⟩ <;>
            · rw [none] at returned
              cases returned
      · rintro (unasked | ⟨narrow, rest⟩)
        · cases unasked
        have sum := (sum_exact headerSize pktSize).mpr narrow
        by_cases short : ringSize < (headerSize + 2 * pktSize).toUInt64
        · refine ⟨fun _ => ⟨headerSize, known, isHeader, sum, fun fits => absurd short fits, fun fits => absurd short fits,
            fun fits => absurd short fits⟩, Or.inl ⟨-2, none, ?_, by decide⟩⟩
          rw [init, if_pos short]
        · have fits : headerSize.toNat + 2 * pktSize.toNat ≤ ringSize.toNat := by
            rw [UInt64.lt_iff_toNat_lt, UInt32.toNat_toUInt64, sum] at short
            omega
          obtain ⟨divides, array⟩ := rest.resolve_left (by omega)
          refine ⟨fun _ => ⟨headerSize, known, isHeader, fitting_exact pageSize ringSize pktSize headerSize known divides fits array⟩, ?_⟩
          rw [init, if_neg short, if_neg divides, ← isHeader]
          rcases open_ring_laid pageSize ringSize pktSize headerSize known divides fits array files volatileFlag _ rfl with refused | laid
          · obtain ⟨ring, refused⟩ := refused
            exact Or.inl ⟨-1, ring, refused, by decide⟩
          · exact Or.inr laid

theorem sized_well_default : SizedWell false ⟨none, none⟩ 4096 1073741824 624 true :=
  (sized_well_iff false ⟨none, none⟩ 4096 1073741824 624 true (by decide) (by decide)).mpr (Or.inr (by decide +kernel))

-- A packet size of 2^32 from the configuration is zero, and Initialize divides by it; with
-- 2 * pktsize + headersize = 2^32 a ring of 1000 bytes passes the test of its size.
theorem packet_size_wraps (platform : Config.Platform) :
    Config.assignmentOf platform "MaxPacketSize".toList (some "4294967184".toList) = .set ⟨.pktSize, (0 : UInt32)⟩ ∧
      Config.assignmentOf platform "MaxPacketSize".toList (some "2147481488".toList) = .set ⟨.pktSize, (2147481600 : UInt32)⟩ := by
  have zero : tryParseUInt "4294967184".toList = some 4294967184 := by decide +kernel
  have wide : tryParseUInt "2147481488".toList = some 2147481488 := by decide +kernel
  have sums : (112 + 4294967184 : UInt32) = 0 ∧ (112 + 2147481488 : UInt32) = 2147481600 := by decide
  simp only [Config.assignmentOf, Option.bind_some, zero, wide, Option.map_some, sums]
  exact ⟨rfl, rfl⟩

theorem zero_packet_size_throws :
    (∀ platform, Config.assignmentOf platform "MaxPacketSize".toList (some "4294967184".toList) = .set ⟨.pktSize, (0 : UInt32)⟩) ∧
    (ringInitialize false ⟨none, none⟩ 4096 1073741824 0 true).isNone = true ∧
    ((ringInitialize false ⟨none, none⟩ 4096 1000 2147481600 true).bind fun opened =>
      opened.2.map fun ring => (opened.1, ring.maxPackets, ring.ringSize)) = some (0, 8589942784, 1000) ∧
    ¬ SizedWell false ⟨none, none⟩ 4096 1073741824 0 true := by
  have throws : ringInitialize false ⟨none, none⟩ 4096 1073741824 0 true = none :=
    Option.isNone_iff_eq_none.mp (by decide +kernel)
  refine ⟨fun platform => (packet_size_wraps platform).1, by rw [throws]; rfl, by decide +kernel, fun well => ?_⟩
  rcases well.result with ⟨code, ring, returned, -⟩ | ⟨ring, returned, -⟩ <;>
    · rw [throws] at returned
      cases returned

end RingServer.RingBuffer
