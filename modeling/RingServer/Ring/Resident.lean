import RingServer.Ring.Run

set_option autoImplicit false

namespace RingServer

open Library

def slotAt (ring : RingParams) (k : Nat) : Int64 :=
  (fun offset => RingBuffer.nextOffset offset ring.maxOffset ring.pktSize)^[k] ring.earliestOffset

def bodyAt (ring : RingParams) (offset : Int64) : Option (List UInt8) :=
  RingBuffer.spanAt ring (RingBuffer.bufOffset ring offset + 112) (ring.pktSize.toNat - 112)

def unlinked (packet : RingPacket) : RingPacket := { packet with nextInStream := -1 }

def residents (ring : RingParams) (written : Nat) : Nat := min ring.maxPackets.toNat written

structure KeepsLast (ring : RingParams) (requests : List Request) (packets : List RingPacket) : Prop where
  length : packets.length = requests.length
  writtenAs : ∀ (i : Nat) request packet, requests[i]? = some request → packets[i]? = some packet → WrittenAs request packet
  slots : ∀ k, k < residents ring requests.length → ∃ request packet,
    requests[requests.length - residents ring requests.length + k]? = some request ∧
    packets[requests.length - residents ring requests.length + k]? = some packet ∧ packet.offset = slotAt ring k ∧
    (RingBuffer.readPacketAtOffset ring (slotAt ring k)).map unlinked = some packet ∧
    bodyAt ring (slotAt ring k) = some (slotBody ring.pktSize.toNat request.packetData request.dataSize)
  distinct : ∀ j k, j < residents ring requests.length → k < residents ring requests.length → slotAt ring j = slotAt ring k → j = k
  first : earliestOf ring = (packets[requests.length - residents ring requests.length]?).elim noBound boundOf
  last : latestOf ring = packets.getLast?.elim noBound boundOf
  ends : requests ≠ [] → slotAt ring (residents ring requests.length - 1) = ring.latestOffset

theorem slot_at_low (g : Geometry) (ring : RingParams) (journal : Journal) (holds : Holds g ring journal)
    (some : 0 < journal.written) (k : Nat) : slotAt ring k = g.offsetAt (journal.low g + k) := by
  have positive := g.positive
  induction k with
  | zero =>
      have bound := congrArg Bound.offset holds.earliest
      rw [if_neg (by omega)] at bound
      exact bound.trans (holds.offsets _ ⟨Nat.le_refl _, by simp only [Journal.low, oldest]; omega⟩)
  | succ k ih =>
      rw [slotAt] at ih
      rw [slotAt, Function.iterate_succ_apply', ih, next_offset_at g ring holds.shaped]
      rfl

theorem body_resident (g : Geometry) (ring : RingParams) (journal : Journal) (holds : Holds g ring journal) (i : Nat)
    (resident : journal.Resident g i) : bodyAt ring (g.offsetAt i) = some (journal.entry i).body := by
  have size := resident_slot g ring journal holds i resident
  have constant : (112 : Int32) = Int32.ofNat 112 := rfl
  have part := Buffer.slice_drop ring.dataBuffer (g.base + g.place i) g.slot 112 (by omega)
  rw [holds.slots i resident, List.drop_left' (serialize_length _)] at part
  rw [bodyAt, constant, holds.shaped.pktSize, span_at_slot g ring holds.shaped i 112 (g.slot - 112) (by omega), ← part]

theorem header_unlinked (g : Geometry) (journal : Journal) (i : Nat) :
    unlinked (journal.header g i) = unlinked (journal.packet i) := rfl

theorem written_as_unlinked (request : Request) (packet : RingPacket) (writtenAs : WrittenAs request packet) :
    unlinked packet = packet := by
  rw [writtenAs.fields]
  rfl

theorem recorded_empty (g : Geometry) (requests : List Request) (packets : List RingPacket) (journal : Journal)
    (recorded : Recorded g Journal.empty requests packets journal) : journal.written = requests.length :=
  recorded.written.trans (Nat.zero_add _)

theorem recorded_entry (g : Geometry) (requests : List Request) (packets : List RingPacket) (journal : Journal)
    (recorded : Recorded g Journal.empty requests packets journal) (i : Nat) (below : i < requests.length) :
    ∃ request packet, requests[i]? = some request ∧ packets[i]? = some packet ∧ WrittenAs request packet ∧
      journal.entry i = ⟨packet, slotBody g.slot request.packetData request.dataSize⟩ := by
  have inside : i < packets.length := recorded.length ▸ below
  obtain ⟨writtenAs, entry⟩ := recorded.new i _ _ (List.getElem?_eq_getElem below) (List.getElem?_eq_getElem inside)
  have shift : Journal.empty.written + i = i := Nat.zero_add i
  rw [shift] at entry
  exact ⟨_, _, List.getElem?_eq_getElem below, List.getElem?_eq_getElem inside, writtenAs, entry⟩

theorem holds_keeps_last (g : Geometry) (ring : RingParams) (requests : List Request) (packets : List RingPacket)
    (journal : Journal) (maxPackets : ring.maxPackets.toNat = g.count) (holds : Holds g ring journal)
    (recorded : Recorded g Journal.empty requests packets journal) : KeepsLast ring requests packets := by
  have positive := g.positive
  have written := recorded_empty g requests packets journal recorded
  have kept : residents ring requests.length = min g.count requests.length := by rw [residents, maxPackets]
  have low : requests.length - residents ring requests.length = journal.low g := by
    simp only [kept, Journal.low, oldest]
    omega
  have resident : ∀ k, k < residents ring requests.length → journal.Resident g (journal.low g + k) :=
    fun k below => ⟨Nat.le_add_right _ _, by omega⟩
  refine ⟨recorded.length, fun i request packet isRequest isPacket => (recorded.new i request packet isRequest isPacket).1,
    fun k below => ?_, fun j k belowJ belowK same => ?_, ?_, ?_, fun nonempty => ?_⟩
  · have slot := slot_at_low g ring journal holds (by omega) k
    obtain ⟨request, packet, isRequest, isPacket, writtenAs, entry⟩ :=
      recorded_entry g requests packets journal recorded (journal.low g + k) (by omega)
    have packetIs : journal.packet (journal.low g + k) = packet := congrArg Entry.packet entry
    refine ⟨request, packet, low ▸ isRequest, low ▸ isPacket, ?_, ?_, ?_⟩
    · rw [slot, ← packetIs, holds.offsets _ (resident k below)]
    · rw [slot, read_resident g ring journal holds _ (resident k below), Option.map_some, header_unlinked, packetIs,
        written_as_unlinked request packet writtenAs]
    · rw [slot, body_resident g ring journal holds _ (resident k below), entry, holds.shaped.pktSize]
  · rw [slot_at_low g ring journal holds (by omega), slot_at_low g ring journal holds (by omega)] at same
    by_contra differ
    exact resident_offset_ne g ring journal holds _ _ (resident j belowJ) (resident k belowK) (by omega) same
  · rw [holds.earliest, low]
    by_cases empty : journal.written = 0
    · have none : packets = [] := List.length_eq_zero_iff.mp (by rw [recorded.length, ← written, empty])
      rw [if_pos empty, none]
      rfl
    · obtain ⟨request, packet, _, isPacket, _, entry⟩ := recorded_entry g requests packets journal recorded (journal.low g)
        (by simp only [Journal.low, oldest]; omega)
      have packetIs : journal.packet (journal.low g) = packet := congrArg Entry.packet entry
      rw [if_neg empty, isPacket, packetIs, Option.elim_some]
  · rw [holds.latest]
    by_cases empty : journal.written = 0
    · have none : packets = [] := List.length_eq_zero_iff.mp (by rw [recorded.length, ← written, empty])
      rw [if_pos empty, none]
      rfl
    · obtain ⟨request, packet, _, isPacket, _, entry⟩ := recorded_entry g requests packets journal recorded (journal.written - 1)
        (by omega)
      have packetIs : journal.packet (journal.written - 1) = packet := congrArg Entry.packet entry
      rw [if_neg empty, List.getLast?_eq_getElem?, recorded.length, ← written, isPacket, packetIs, Option.elim_some]
  · have some : requests.length ≠ 0 := fun zero => nonempty (List.length_eq_zero_iff.mp zero)
    have bound := congrArg Bound.offset holds.latest
    rw [if_neg (by omega)] at bound
    have latest : ring.latestOffset = (journal.packet (journal.written - 1)).offset := bound
    have top : journal.low g + (residents ring requests.length - 1) = journal.written - 1 := by omega
    rw [slot_at_low g ring journal holds (by omega), top, latest, holds.offsets _ ⟨by omega, by omega⟩]

theorem write_keeps_others (g : Geometry) (ring ring' : RingParams) (journal : Journal) (request : Request)
    (holds : Holds g ring journal) (holds' : Holds g ring' (journal.record g request)) (i : Nat)
    (resident : journal.Resident g i) (stays : g.offsetAt i ≠ g.offsetAt journal.written) :
    (RingBuffer.readPacketAtOffset ring' (g.offsetAt i)).map unlinked =
        (RingBuffer.readPacketAtOffset ring (g.offsetAt i)).map unlinked ∧
      bodyAt ring' (g.offsetAt i) = bodyAt ring (g.offsetAt i) := by
  have resident' : (journal.record g request).Resident g i := by
    refine ⟨?_, Nat.lt_succ_of_lt resident.2⟩
    by_contra dropped
    refine stays (g.offset_at_congr _ _ ?_)
    have above := resident.1
    have written : (journal.record g request).written = journal.written + 1 := rfl
    simp only [Journal.low, oldest, written] at above dropped
    have full : g.count ≤ journal.written := by omega
    have same : i = journal.written - g.count := by omega
    rw [slot_reused g.count journal.written full, oldest, same]
  have same : (journal.record g request).entry i = journal.entry i := journal.append_entry_old _ i resident.2
  have packets : (journal.record g request).packet i = journal.packet i := congrArg Entry.packet same
  rw [read_resident g ring' _ holds' i resident', read_resident g ring journal holds i resident,
    body_resident g ring' _ holds' i resident', body_resident g ring journal holds i resident, same]
  refine ⟨?_, rfl⟩
  rw [Option.map_some, Option.map_some, header_unlinked, header_unlinked, packets]

-- A run on a fresh ring keeps the last packets, slot by slot, and one more packet
-- changes no other slot beyond the link of its header.
theorem write_run_keeps_last (g : Geometry) (ring : RingParams) (fresh : Fresh g ring) (requests : List Request)
    (accepted : ∀ request ∈ requests, Accepted ring request) :
    ∃ ring' packets, writeAll ring requests = some (ring', packets) ∧ SameSetup ring ring' ∧ KeepsLast ring' requests packets ∧
      ∀ request, Accepted ring request → ∃ ring'' packet, writeRequest ring' request = some (0, ring'', packet) ∧
        ∀ k, k < residents ring' requests.length → slotAt ring' k ≠ packet.offset →
          (RingBuffer.readPacketAtOffset ring'' (slotAt ring' k)).map unlinked =
              (RingBuffer.readPacketAtOffset ring' (slotAt ring' k)).map unlinked ∧
            bodyAt ring'' (slotAt ring' k) = bodyAt ring' (slotAt ring' k) := by
  obtain ⟨ring', packets, journal, ran, setup, holds, recorded⟩ :=
    write_all_spec g ring Journal.empty (fresh_holds g ring fresh) requests accepted
  have maxPackets : ring'.maxPackets.toNat = g.count := by rw [setup.maxPackets, fresh.maxPackets]
  refine ⟨ring', packets, ran, setup, holds_keeps_last g ring' requests packets journal maxPackets holds recorded, ?_⟩
  intro request one
  obtain ⟨ring'', wrote, _, _, holds''⟩ := write_spec g ring' journal holds request (accepted_same ring ring' setup request one)
  refine ⟨ring'', _, wrote, fun k below stays => ?_⟩
  have written := recorded_empty g requests packets journal recorded
  have slot := slot_at_low g ring' journal holds (by simp only [residents] at below; omega) k
  have resident : journal.Resident g (journal.low g + k) := by
    refine ⟨Nat.le_add_right _ _, ?_⟩
    simp only [residents, maxPackets] at below
    simp only [Journal.low, oldest]
    omega
  rw [slot] at stays ⊢
  exact write_keeps_others g ring' ring'' journal request holds holds'' _ resident stays

theorem write_run_keeps_last_wrapped : SameSetup twoSlotRing (writtenRing twoSlotRing threeBytes) ∧
    KeepsLast (writtenRing twoSlotRing threeBytes) threeBytes (writtenPackets twoSlotRing threeBytes) ∧
    ∀ request, Accepted twoSlotRing request → ∃ ring'' packet,
      writeRequest (writtenRing twoSlotRing threeBytes) request = some (0, ring'', packet) ∧
      ∀ k, k < residents (writtenRing twoSlotRing threeBytes) 3 → slotAt (writtenRing twoSlotRing threeBytes) k ≠ packet.offset →
        (RingBuffer.readPacketAtOffset ring'' (slotAt (writtenRing twoSlotRing threeBytes) k)).map unlinked =
            (RingBuffer.readPacketAtOffset (writtenRing twoSlotRing threeBytes) (slotAt (writtenRing twoSlotRing threeBytes) k)).map unlinked ∧
          bodyAt ring'' (slotAt (writtenRing twoSlotRing threeBytes) k) =
            bodyAt (writtenRing twoSlotRing threeBytes) (slotAt (writtenRing twoSlotRing threeBytes) k) := by
  obtain ⟨ring', packets, ran, setup, keeps, onward⟩ :=
    write_run_keeps_last twoSlots twoSlotRing two_slots_fresh threeBytes (three_bytes_accepted twoSlotRing rfl)
  obtain ⟨isRing, isPackets⟩ := written_of_run twoSlotRing ring' threeBytes packets ran
  rw [isRing, isPackets]
  exact ⟨setup, keeps, onward⟩

end RingServer
