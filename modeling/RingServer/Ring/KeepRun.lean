import RingServer.Ring.Deliver
import RingServer.Ring.KeepRead

set_option autoImplicit false

namespace RingServer

open Library

theorem link_previous_latest (ring linked : RingParams) (stream : RingStream) (packet : RingPacket)
    (ran : RingBuffer.linkPrevious ring stream packet = some linked) : linked.latestId = ring.latestId := by
  rw [RingBuffer.linkPrevious.eq_def] at ran
  split at ran
  · split at ran
    · cases ran
      rfl
    · rw [RingBuffer.copyTo] at ran
      split at ran
      · cases ran
      · cases ran
        rfl
  · cases ran
    rfl

theorem store_latest (ring stored : RingParams) (earliest latest : Option RingPacket) (packet : RingPacket) (packetData : List UInt8)
    (dataSize : UInt32) (ran : RingBuffer.store ring earliest latest packet packetData dataSize = some stored) :
    stored.latestId = packet.pktId := by
  simp only [RingBuffer.store, Option.bind_eq_bind, Option.bind_eq_some_iff, Option.some.injEq] at ran
  obtain ⟨room, _, ⟨added, node, stream⟩, _, span, _, copied, _, linked, isLinked, rfl⟩ := ran
  have same := link_previous_latest _ linked stream packet isLinked
  refine same.trans ?_
  split
  · rfl
  · rfl

theorem write_latest (ring next : RingParams) (request : Request) (packet : RingPacket)
    (wrote : writeRequest ring request = some (0, next, packet)) : next.latestId = packet.pktId := by
  rw [writeRequest, RingBuffer.write] at wrote
  by_cases large : 112 + request.dataSize > ring.pktSize
  · rw [if_pos large] at wrote
    cases wrote
  · rw [if_neg large] at wrote
    obtain ⟨stored, isStored, same⟩ := Option.map_eq_some_iff.mp wrote
    obtain ⟨_, rfl, rfl⟩ : _ ∧ stored = next ∧ _ := by
      simpa only [Prod.mk.injEq] using same
    exact store_latest _ stored _ _ _ _ _ isStored

structure Stored (g : Geometry) (ring : RingParams) (writes : List (Request × RingPacket)) (journal : Journal) : Prop where
  keeps : Keeps g ring journal
  maxPackets : ring.maxPackets.toNat = g.count
  payloads : Payloads g journal writes
  offsets : ∀ i, i < journal.written → (journal.packet i).offset = g.offsetAt i
  latestId : journal.written ≠ 0 → ring.latestId = (journal.packet (journal.written - 1)).pktId

theorem stored_fresh (g : Geometry) (ring : RingParams) (fresh : Fresh g ring) : Stored g ring [] Journal.empty :=
  ⟨fresh_keeps g ring fresh, fresh.maxPackets, ⟨rfl, fun _ _ _ isWrite => (nomatch isWrite)⟩,
    fun i below => absurd below (Nat.not_lt_zero i), fun nonempty => absurd rfl nonempty⟩

theorem stored_write (g : Geometry) (ring : RingParams) (writes : List (Request × RingPacket)) (journal : Journal)
    (stored : Stored g ring writes journal) (request : Request) (fits : Fits ring request) (sized : Sized request) :
    ∃ next, writeRequest ring request = some (0, next, journal.stamp g request.clock request.packet) ∧
      next.pktSize = ring.pktSize ∧
      Stored g next (writes ++ [(request, journal.stamp g request.clock request.packet)]) (journal.record g request) := by
  obtain ⟨next, wrote, setup, kept⟩ := write_keeps g ring journal stored.keeps request fits
  have payloads := payloads_record g journal writes request stored.payloads sized (fits_slot g ring stored.keeps.shaped request fits)
  refine ⟨next, wrote, setup.pktSize, ⟨kept, setup.maxPackets ▸ stored.maxPackets, payloads, fun i below => ?_, fun _ => ?_⟩⟩
  · cases Nat.lt_succ_iff_lt_or_eq.mp below with
    | inl old =>
        rw [Journal.record, journal.append_packet_old _ i old]
        exact stored.offsets i old
    | inr new =>
        rw [new, Journal.record, journal.append_packet_new]
        rfl
  · have last : (journal.record g request).written - 1 = journal.written := rfl
    rw [write_latest ring next request _ wrote, last, Journal.record, journal.append_packet_new]

theorem stored_run (g : Geometry) (requests : List Request) (ring : RingParams) (writes : List (Request × RingPacket))
    (journal : Journal) (stored : Stored g ring writes journal) (fits : ∀ request ∈ requests, Fits ring request ∧ Sized request) :
    ∃ next packets journal', writeAll ring requests = some (next, packets) ∧ packets.length = requests.length ∧
      Stored g next (writes ++ requests.zip packets) journal' := by
  induction requests generalizing ring writes journal with
  | nil =>
      refine ⟨ring, [], journal, rfl, rfl, ?_⟩
      rw [List.zip_nil_left, List.append_nil]
      exact stored
  | cons request rest ih =>
      obtain ⟨fitsHere, sized⟩ := fits request List.mem_cons_self
      obtain ⟨middle, wrote, pktSize, after⟩ := stored_write g ring writes journal stored request fitsHere sized
      obtain ⟨next, packets, journal', ran, length, all⟩ := ih middle _ _ after (fun other member => by
        obtain ⟨known, sizedOther⟩ := fits other (List.mem_cons_of_mem _ member)
        exact ⟨⟨pktSize ▸ known.passes, known.array⟩, sizedOther⟩)
      refine ⟨next, journal.stamp g request.clock request.packet :: packets, journal', ?_, ?_, ?_⟩
      · simp only [writeAll, wrote]
        show (writeAll middle rest).map _ = _
        rw [ran]
        rfl
      · rw [List.length_cons, List.length_cons, length]
      · rw [List.zip_cons_cons, List.append_cons]
        exact all

theorem byte_request_fits (ring : RingParams) (pktSize : ring.pktSize = 128) (clock : NsTime) (streamId : Text) (byte : UInt8) :
    Fits ring (byteRequest clock streamId byte) ∧ Sized (byteRequest clock streamId byte) :=
  ⟨⟨by rw [pktSize]; show ¬ (112 + 1 : UInt32) > 128; decide, by show (1 : UInt32).toNat < 2 ^ 31; decide⟩, rfl, Nat.le_refl 1⟩

theorem three_bytes_fit (ring : RingParams) (pktSize : ring.pktSize = 128) : ∀ request ∈ threeBytes, Fits ring request ∧ Sized request := by
  intro request member
  simp only [threeBytes, List.mem_cons, List.not_mem_nil, or_false] at member
  rcases member with rfl | rfl | rfl
  · exact byte_request_fits ring pktSize ⟨5⟩ ['A'] 7
  · exact byte_request_fits ring pktSize ⟨6⟩ ['B'] 8
  · exact byte_request_fits ring pktSize ⟨7⟩ ['A'] 9

theorem fresh_run (g : Geometry) (ring : RingParams) (fresh : Fresh g ring) (requests : List Request)
    (fits : ∀ request ∈ requests, Fits ring request ∧ Sized request) :
    ∃ next packets journal, writeAll ring requests = some (next, packets) ∧ packets.length = requests.length ∧
      Stored g next (requests.zip packets) journal ∧ journal.written = requests.length ∧
      residentWrites next requests packets = (requests.zip packets).drop (journal.low g) := by
  obtain ⟨next, packets, journal, ran, length, stored⟩ := stored_run g requests ring [] Journal.empty (stored_fresh g ring fresh) fits
  rw [List.nil_append] at stored
  have written : journal.written = requests.length := by
    rw [← stored.payloads.1, List.length_zip, length, Nat.min_self]
  have low : requests.length - residents next requests.length = journal.low g := by
    rw [residents, stored.maxPackets, Journal.low, oldest, written]
    omega
  exact ⟨next, packets, journal, ran, length, stored, written, by rw [residentWrites, low]⟩

end RingServer
