import RingServer.Ring.ShutdownFailure
import RingServer.Ring.KeepRun

set_option autoImplicit false

namespace RingServer

open Library

-- A ring that Initialize opens without a packet buffer to read, or one of a server that
-- keeps its packet buffer in files, and what Write makes of it, packets that it refuses included.
inductive Reached : RingParams → Prop
  | opened (named : Bool) (files : RingBuffer.RingFiles) (pageSize : UInt32) (ringSize : UInt64) (pktSize : UInt32)
      (volatileFlag : Bool) (ring : RingParams)
      (init : RingBuffer.ringInitialize named files pageSize ringSize pktSize volatileFlag = some (0, some ring))
      (unread : volatileFlag = true ∨ Unread files ringSize) (room : ring.headerSize.toUInt64 ≤ ring.ringSize)
      (two : 2 ≤ ring.maxPackets) : Reached ring
  | kept (pageSize : UInt32) (ringSize : UInt64) (pktSize : UInt32) (ring : RingParams) (lived : Lived pageSize ringSize pktSize ring) :
      Reached ring
  | wrote (ring next : RingParams) (reached : Reached ring) (request : Request) (code : Int) (packet : RingPacket)
      (wrote : writeRequest ring request = some (code, next, packet)) : Reached next

def WriteObeys (ring : RingParams) (request : Request) : Prop :=
  if 112 + request.dataSize.toNat ≤ ring.pktSize.toNat then
    ∃ next packet, writeRequest ring request = some (0, next, packet) ∧ next.fluxFlag = 0
  else writeRequest ring request = some (-1, ring, request.packet) ∧ ring.fluxFlag = 0

structure Settled (ring : RingParams) : Prop where
  keeps : ∃ g journal, Keeps g ring journal
  flux : ring.fluxFlag = 0

theorem holds_keeps (g : Geometry) (ring : RingParams) (journal : Journal) (holds : Holds g ring journal) : Keeps g ring journal := by
  have positive := g.positive
  have ends (i : Nat) (resident : journal.Resident g i) : (boundOf (journal.packet i)).offset = g.offsetAt i := holds.offsets i resident
  have earliest := congrArg Bound.offset holds.earliest
  have latest := congrArg Bound.offset holds.latest
  have low (some : ¬ journal.written = 0) : journal.Resident g (journal.low g) :=
    ⟨Nat.le_refl _, by simp only [Journal.low, oldest]; omega⟩
  have last (some : ¬ journal.written = 0) : journal.Resident g (journal.written - 1) :=
    ⟨by simp only [Journal.low, oldest]; omega, by omega⟩
  refine ⟨holds.shaped, ?_, ?_, fun i resident => ⟨journal.header g i, ⟨rfl, rfl⟩, holds.slots i resident⟩, holds.offsets, ?_⟩
  · by_cases empty : journal.written = 0
    · rw [if_pos empty] at earliest ⊢
      exact earliest
    · rw [if_neg empty] at earliest ⊢
      exact earliest.trans (ends _ (low empty))
  · by_cases empty : journal.written = 0
    · rw [if_pos empty] at latest ⊢
      exact latest
    · rw [if_neg empty] at latest ⊢
      exact latest.trans (ends _ (last empty))
  · obtain ⟨whole, index, count⟩ := holds.index
    refine ⟨whole, _, index, count, fun streamId stream isStream => ?_⟩
    rcases journal.stream_from_cases (journal.low g) streamId with ⟨none, -⟩ | ⟨first, final, -, isFinal, isStreamOf⟩
    · rw [none] at isStream
      cases isStream
    · rw [isStreamOf] at isStream
      obtain ⟨above, below, -, -⟩ := (last_in_some _ _ _ _).mp isFinal
      refine ⟨final, below, ?_⟩
      rw [← Option.some.inj isStream]
      exact holds.offsets final ⟨above, below⟩

theorem store_flux (ring stored : RingParams) (earliest latest : Option RingPacket) (packet : RingPacket) (packetData : List UInt8)
    (dataSize : UInt32) (ran : RingBuffer.store ring earliest latest packet packetData dataSize = some stored) : stored.fluxFlag = 0 := by
  simp only [RingBuffer.store, Option.bind_eq_bind, Option.bind_eq_some_iff, Option.some.injEq] at ran
  obtain ⟨room, _, ⟨added, node, stream⟩, _, span, _, copied, _, linked, _, rfl⟩ := ran
  rfl

theorem write_passes (ring next : RingParams) (request : Request) (code : Int) (packet : RingPacket)
    (passes : ¬ 112 + request.dataSize > ring.pktSize) (wrote : writeRequest ring request = some (code, next, packet)) :
    code = 0 ∧ next.fluxFlag = 0 := by
  rw [writeRequest, RingBuffer.write, if_neg passes] at wrote
  obtain ⟨stored, isStored, same⟩ := Option.map_eq_some_iff.mp wrote
  obtain ⟨rfl, rfl, rfl⟩ : 0 = code ∧ stored = next ∧ _ := by
    simpa only [Prod.mk.injEq] using same
  exact ⟨rfl, store_flux _ stored _ _ _ _ _ isStored⟩

theorem negative_size (dataSize : UInt32) (huge : 2 ^ 31 ≤ dataSize.toNat) : dataSize.toInt32.toInt < 0 := by
  have bound := dataSize.toNat_lt
  rw [← UInt32.ofNat_toNat (x := dataSize), UInt32.toInt32_ofNat', Int32.toInt_ofNat', Int.bmod_def]
  have size : (Int32.size : Int) = 2 ^ 32 := rfl
  rw [size, Int.emod_eq_of_lt (by omega) (by omega), if_neg (by omega)]
  omega

theorem write_throws (ring : RingParams) (request : Request) (passes : ¬ 112 + request.dataSize > ring.pktSize)
    (negative : 2 ^ 31 ≤ request.dataSize.toNat) : writeRequest ring request = none := by
  have some : request.dataSize > 0 := by
    rw [gt_iff_lt, UInt32.lt_iff_toNat_lt]
    exact Nat.lt_of_lt_of_le (by decide) negative
  have cast := negative_size request.dataSize negative
  have thrown (pktSize : UInt32) (packet : RingPacket) : RingBuffer.packetSpan pktSize packet request.packetData request.dataSize =
    none := by
    rw [RingBuffer.packetSpan]
    dsimp only
    by_cases small : pktSize.toNat < RingPacket.serializedSize
    · rw [if_pos small]
    · rw [if_neg small, if_pos ⟨some, Or.inl (Int.lt_of_le_of_lt (Int.min_le_left _ _) cast)⟩]
  have stops (ring : RingParams) (earliest latest : Option RingPacket) (packet : RingPacket) :
      RingBuffer.store ring earliest latest packet request.packetData request.dataSize = none := by
    cases ran : RingBuffer.store ring earliest latest packet request.packetData request.dataSize with
    | none => rfl
    | some stored =>
        simp only [RingBuffer.store, Option.bind_eq_bind, Option.bind_eq_some_iff] at ran
        obtain ⟨room, _, ⟨added, node, stream⟩, _, span, isSpan, _⟩ := ran
        rw [thrown] at isSpan
        cases isSpan
  rw [writeRequest, RingBuffer.write, if_neg passes]
  dsimp only
  rw [stops, Option.map_none]

theorem initialize_flux (named : Bool) (files : RingBuffer.RingFiles) (pageSize : UInt32) (ringSize : UInt64) (pktSize : UInt32)
    (volatileFlag : Bool) (ring : RingParams)
    (init : RingBuffer.ringInitialize named files pageSize ringSize pktSize volatileFlag = some (0, some ring)) :
    ring.fluxFlag = 0 ∨ ∃ bytes, files.packetbuf = some bytes ∧ ring.fluxFlag = bytes.getD 39 0 := by
  obtain ⟨headerSize, maxPackets, maxOffset, -, opened⟩ := initialize_opens _ _ _ _ _ _ _ _ init
  rw [RingBuffer.openRing] at opened
  dsimp only at opened
  split at opened
  · cases opened
  split at opened
  · rw [RingBuffer.load_ring_index] at opened
    obtain ⟨read, isRead⟩ : ∃ read, read = RingBuffer.readHeader (RingBuffer.newRingParams files ringSize pktSize maxPackets maxOffset
      headerSize volatileFlag) := ⟨_, rfl⟩
    have byte : read.fluxFlag = 0 ∨ ∃ bytes, files.packetbuf = some bytes ∧ read.fluxFlag = bytes.getD 39 0 := by
      rw [isRead]
      obtain ⟨packetbuf, streamidx⟩ := files
      cases packetbuf with
      | none => exact Or.inl rfl
      | some bytes =>
          rw [RingBuffer.readHeader, RingBuffer.newRingParams]
          dsimp only
          split
          · exact Or.inr ⟨bytes, rfl, rfl⟩
          · exact Or.inl rfl
    rw [← isRead] at opened
    split at opened
    · rw [Option.bind_some] at opened
      rw [RingBuffer.test_offsets_start _ ring opened]
      exact Or.inl rfl
    split at opened
    · rw [Option.bind_eq_some_iff] at opened
      obtain ⟨loaded, isLoaded, tested⟩ := opened
      rw [RingBuffer.load_index_records] at isLoaded
      obtain ⟨tree, count, rfl⟩ := RingBuffer.load_streams_index _ _ _ _ isLoaded
      rw [RingBuffer.test_offsets_start _ ring tested]
      exact byte
    · rw [Option.bind_some] at opened
      rw [RingBuffer.test_offsets_start _ ring opened]
      exact byte
  · obtain rfl := Option.some.inj (congrArg Prod.snd (Option.some.inj opened))
    exact Or.inl rfl

theorem lived_flux (pageSize : UInt32) (ringSize : UInt64) (pktSize : UInt32) (ring : RingParams)
    (lived : Lived pageSize ringSize pktSize ring) : ring.fluxFlag = 0 := by
  induction lived with
  | created files ring unread init room two =>
      obtain ⟨headerSize, maxPackets, maxOffset, -, -, read, -, -, -, -, -, rfl⟩ :=
        initialize_reset true files pageSize ringSize pktSize false ring init (Or.inr unread)
      rfl
  | wrote ring next request code packet _ survives array write ih =>
      by_cases passes : 112 + request.dataSize > ring.pktSize
      · rw [write_refused ring request passes] at write
        cases write
        exact ih
      · exact (write_passes ring next request code packet passes write).2
  | restarted ring old new files files' lived down init ih =>
      obtain ⟨g, journal, headerSize, maxPackets, maxOffset, alive⟩ := lived_alive pageSize ringSize pktSize ring lived
      have persistent : ring.volatileFlag = 0 := alive.setUp.volatileFlag
      obtain ⟨streams, stopped, shut, -, -, -⟩ := shutdown_spec g ring journal alive.holds files persistent
      rw [shut] at down
      cases down
      rcases initialize_flux _ _ _ _ _ _ new init with cleared | ⟨bytes, isBytes, flag⟩
      · exact cleared
      · have least := header_size_least pageSize headerSize alive.opens.header
        have room := g.place_room 0
        have long : 39 < ring.dataBuffer.length := by
          rw [alive.holds.shaped.length]
          have base := alive.base
          omega
        have slot := congrArg List.head? (geometry_slice ring 39 1 (by decide))
        rw [flag, ← Option.some.inj isBytes, List.getD_eq_getElem?_getD, Buffer.slice_get _ 0 _ 39 long, Option.getD_some, ← ih]
        exact Option.some.inj slot

theorem wrote_keeps (g : Geometry) (ring next : RingParams) (journal : Journal) (keeps : Keeps g ring journal) (request : Request)
    (code : Int) (packet : RingPacket) (wrote : writeRequest ring request = some (code, next, packet)) :
    ∃ journal', Keeps g next journal' ∧ next.maxPackets = ring.maxPackets := by
  by_cases passes : 112 + request.dataSize > ring.pktSize
  · rw [write_refused ring request passes] at wrote
    cases wrote
    exact ⟨journal, keeps, rfl⟩
  by_cases array : request.dataSize.toNat < 2 ^ 31
  · obtain ⟨ring', written, setup, kept⟩ := write_keeps g ring journal keeps request ⟨passes, array⟩
    rw [written] at wrote
    cases wrote
    exact ⟨_, kept, setup.maxPackets⟩
  · rw [write_throws ring request passes (Nat.not_lt.mp array)] at wrote
    cases wrote

theorem reached_settled (ring : RingParams) (reached : Reached ring) : Settled ring := by
  induction reached with
  | opened named files pageSize ringSize pktSize volatileFlag ring init unread room two =>
      obtain ⟨g, headerSize, maxPackets, maxOffset, fresh, -, -, -⟩ :=
        initialize_fresh named files pageSize ringSize pktSize volatileFlag ring init unread room two
      obtain ⟨_, _, _, -, -, read, -, -, -, -, -, isReset⟩ :=
        initialize_reset named files pageSize ringSize pktSize volatileFlag ring init unread
      refine ⟨⟨g, Journal.empty, fresh_keeps g ring fresh⟩, ?_⟩
      rw [isReset]
      rfl
  | kept pageSize ringSize pktSize ring lived =>
      obtain ⟨g, journal, headerSize, maxPackets, maxOffset, alive⟩ := lived_alive pageSize ringSize pktSize ring lived
      exact ⟨⟨g, journal, holds_keeps g ring journal alive.holds⟩, lived_flux pageSize ringSize pktSize ring lived⟩
  | wrote ring next _ request code packet wrote ih =>
      obtain ⟨g, journal, keeps⟩ := ih.keeps
      obtain ⟨journal', kept, -⟩ := wrote_keeps g ring next journal keeps request code packet wrote
      refine ⟨⟨g, journal', kept⟩, ?_⟩
      by_cases passes : 112 + request.dataSize > ring.pktSize
      · rw [write_refused ring request passes] at wrote
        cases wrote
        exact ih.flux
      · exact (write_passes ring next request code packet passes wrote).2

theorem two_slot_ring_reached : Reached twoSlotRing :=
  .opened false ⟨none, none⟩ 4096 4352 128 true twoSlotRing rfl (Or.inl rfl) (by decide) (by decide)

end RingServer
