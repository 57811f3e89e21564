import RingServer.Ring.Resident

set_option autoImplicit false

namespace RingServer

open Library

def residentPackets (ring : RingParams) (packets : List RingPacket) : List RingPacket :=
  packets.drop (packets.length - residents ring packets.length)

def packetsOf (streamId : Text) (packets : List RingPacket) : List RingPacket :=
  packets.filter fun packet => packet.streamId = streamId

def entryOf (packets : List RingPacket) (streamId : Text) : Option RingStream :=
  match (packetsOf streamId packets).head?, (packetsOf streamId packets).getLast? with
  | some first, some last => some (streamOf streamId first last)
  | _, _ => none

def followStream (ring : RingParams) : Nat → Int64 → Option (List RingPacket)
  | 0, _ => none
  | fuel + 1, offset =>
      if offset = -1 then some []
      else do
        let packet ← RingBuffer.readPacketAtOffset ring offset
        (followStream ring fuel packet.nextInStream).map (packet :: ·)

structure IndexesStreams (ring : RingParams) (packets : List RingPacket) : Prop where
  lookup : ∀ streamId, (RingBuffer.getStreamIdx ring streamId).map (·.map Prod.snd) = some (entryOf packets streamId)
  entries : ∃ streams, RingBuffer.getStreamsStack ring none = some streams ∧ streams.length = ring.streamCount.toNat ∧
    (streams.map (·.streamId)).Nodup ∧ ∀ stream, stream ∈ streams ↔ entryOf packets stream.streamId = some stream
  chain : ∀ streamId stream, entryOf packets streamId = some stream →
    (followStream ring (packets.length + 1) stream.earliestOffset).map (·.map unlinked) = some (packetsOf streamId packets)

-- The filters of a reader: the streams that match Limit and Match, and not Reject.
def accepts (reader : Option RingReader) (streamId : Text) : Bool :=
  reader.all fun reader => RingBuffer.passes reader streamId

def ListsAccepted (ring : RingParams) (reader : Option RingReader) (packets : List RingPacket) : Prop :=
  ∃ streams, RingBuffer.getStreamsStack ring reader = some streams ∧ (streams.map (·.streamId)).Nodup ∧
    ∀ streamId, streamId ∈ streams.map (·.streamId) ↔
      (∃ packet ∈ packets, packet.streamId = streamId) ∧ accepts reader streamId = true

def RejectIdle (reader : Option RingReader) (packets : List RingPacket) : Prop :=
  ∀ one, reader = some one → one.reject.isSome = true → ∀ packet ∈ packets,
    ¬ (one.limit.all (· packet.streamId) = true ∧ one.matching.all (· packet.streamId) = true)

namespace Journal

variable (journal : Journal)

def since (start : Nat) : List RingPacket := (List.range' start (journal.written - start)).map journal.packet

theorem packets_of_since (start : Nat) (streamId : Text) : packetsOf streamId (journal.since start) =
    (indices (fun k => journal.streamId k = streamId) start journal.written).map journal.packet := by
  rw [packetsOf, Journal.since, List.filter_map]
  rfl

theorem entry_of_since (start : Nat) (streamId : Text) :
    entryOf (journal.since start) streamId = journal.streamFrom start streamId := by
  rw [entryOf, packets_of_since, List.head?_map, List.getLast?_map, indices_head, indices_last, streamFrom]
  cases firstIn (fun k => journal.streamId k = streamId) start journal.written <;>
    cases lastIn (fun k => journal.streamId k = streamId) start journal.written <;> rfl

theorem since_length (start : Nat) : (journal.since start).length = journal.written - start := by
  rw [Journal.since, List.length_map, List.length_range']

theorem mem_since (start : Nat) (packet : RingPacket) :
    packet ∈ journal.since start ↔ ∃ i, start ≤ i ∧ i < journal.written ∧ journal.packet i = packet := by
  simp only [Journal.since, List.mem_map, List.mem_range'_1]
  constructor
  · rintro ⟨i, ⟨above, below⟩, isPacket⟩
    exact ⟨i, above, by omega, isPacket⟩
  · rintro ⟨i, above, below, isPacket⟩
    exact ⟨i, ⟨above, by omega⟩, isPacket⟩

end Journal

theorem follow_resident (g : Geometry) (ring : RingParams) (journal : Journal) (holds : Holds g ring journal) (fuel i : Nat)
    (resident : journal.Resident g i) (enough : journal.written < fuel + i) :
    followStream ring fuel (g.offsetAt i) =
      some ((indices (fun k => journal.streamId k = journal.streamId i) i journal.written).map (journal.header g)) := by
  induction fuel generalizing i with
  | zero => exact absurd resident.2 (by omega)
  | succ fuel ih =>
      have notEnd : ¬ g.offsetAt i = -1 := fun isEnd => g.offset_at_not_neg i (by rw [isEnd]; decide)
      have here := indices_cons (fun k => journal.streamId k = journal.streamId i) i journal.written resident.2
      rw [if_pos rfl] at here
      rw [followStream, if_neg notEnd, read_resident g ring journal holds i resident, Option.bind_eq_bind, Option.bind_some, here,
        List.map_cons]
      cases isNext : journal.next i with
      | none =>
          have link : (journal.header g i).nextInStream = -1 := by rw [Journal.header, isNext]; rfl
          rw [link, indices_none _ _ _ isNext]
          cases fuel with
          | zero => exact absurd resident.2 (by omega)
          | succ fuel => rfl
      | some k =>
          have link : (journal.header g i).nextInStream = g.offsetAt k := by rw [Journal.header, isNext]; rfl
          obtain ⟨above, below, same, _⟩ := (first_in_some _ _ _ _).mp isNext
          have residentK : journal.Resident g k := ⟨le_trans resident.1 (by omega), below⟩
          rw [link, ih k residentK (by omega), indices_first _ _ _ k isNext, same]
          rfl

theorem Journal.stream_from_id (journal : Journal) (start : Nat) (streamId : Text) (stream : RingStream)
    (isStream : journal.streamFrom start streamId = some stream) : stream.streamId = streamId ∧
      ∃ i, start ≤ i ∧ i < journal.written ∧ journal.streamId i = streamId ∧ stream.earliestOffset = (journal.packet i).offset ∧
        firstIn (fun k => journal.streamId k = streamId) start journal.written = some i := by
  rcases journal.stream_from_cases start streamId with ⟨absent, _⟩ | ⟨first, last, isFirst, _, present⟩
  · simp [absent] at isStream
  · obtain ⟨above, below, same, _⟩ := (first_in_some _ _ _ _).mp isFirst
    obtain rfl := Option.some.inj (present.symm.trans isStream)
    exact ⟨rfl, first, above, below, same, rfl, isFirst⟩

theorem indexed_streams (g : Geometry) (ring : RingParams) (journal : Journal) (holds : Holds g ring journal) :
    ∃ nodes, ∃ streams : List RingStream, ring.streamIdx.traverse = some nodes ∧
      nodes.mapM (fun node => (ring.streamIdx.nodes node).data) = some streams ∧
      ring.streamCount = UInt32.ofNat streams.length ∧ (streams.map (·.streamId)).Pairwise (· < ·) ∧
      ∀ stream, stream ∈ streams ↔ journal.streamFrom (journal.low g) stream.streamId = some stream := by
  obtain ⟨whole, index, count⟩ := holds.index
  obtain ⟨entries, keys, data, sorted, members⟩ := RBTree.index_entries ring.streamIdx whole _ index
  have ids : (entries.map Prod.snd).map (·.streamId) = entries.map Prod.fst := by
    rw [List.map_map]
    refine List.map_congr_left (fun entry member => ?_)
    exact (journal.stream_from_id _ _ _ ((members entry.1 entry.2).mp member)).1
  have sizes := congrArg List.length keys
  rw [List.length_map, List.length_map, List.length_map] at sizes
  refine ⟨whole.labels, entries.map Prod.snd, RBTree.index_traverse ring.streamIdx whole _ index, data,
    by rw [count, sizes, List.length_map], ids ▸ sorted, fun stream => ?_⟩
  rw [← members, List.mem_map]
  constructor
  · rintro ⟨⟨key, value⟩, member, rfl⟩
    rwa [(journal.stream_from_id _ _ _ ((members key value).mp member)).1]
  · exact fun member => ⟨_, member, rfl⟩

theorem streams_stack_spec (g : Geometry) (ring : RingParams) (journal : Journal) (holds : Holds g ring journal) :
    ∃ streams : List RingStream, (∀ reader, RingBuffer.getStreamsStack ring reader =
        some (streams.filter fun stream => RingBuffer.listed reader stream.streamId)) ∧
      ring.streamCount = UInt32.ofNat streams.length ∧ (streams.map (·.streamId)).Pairwise (· < ·) ∧
      ∀ stream, stream ∈ streams ↔ journal.streamFrom (journal.low g) stream.streamId = some stream := by
  obtain ⟨nodes, streams, traversed, data, count, sorted, members⟩ := indexed_streams g ring journal holds
  refine ⟨streams, fun reader => ?_, count, sorted, members⟩
  simp only [RingBuffer.getStreamsStack, traversed, data, Option.bind_eq_bind, Option.bind_some]

theorem recorded_since (g : Geometry) (requests : List Request) (packets : List RingPacket) (journal : Journal)
    (recorded : Recorded g Journal.empty requests packets journal) : packets = journal.since 0 := by
  have written := recorded_empty g requests packets journal recorded
  refine List.ext_getElem? (fun i => ?_)
  rw [Journal.since, List.getElem?_map, Nat.sub_zero]
  by_cases below : i < requests.length
  · obtain ⟨_, packet, _, isPacket, _, entry⟩ := recorded_entry g requests packets journal recorded i below
    have packetIs : journal.packet i = packet := congrArg Entry.packet entry
    rw [isPacket, List.getElem?_range' (by omega), Option.map_some, Nat.zero_add, Nat.one_mul, packetIs]
  · rw [List.getElem?_eq_none (by rw [recorded.length]; omega), List.getElem?_eq_none (by rw [List.length_range']; omega)]
    rfl

theorem resident_packets_since (g : Geometry) (ring : RingParams) (requests : List Request) (packets : List RingPacket)
    (journal : Journal) (maxPackets : ring.maxPackets.toNat = g.count)
    (recorded : Recorded g Journal.empty requests packets journal) :
    residentPackets ring packets = journal.since (journal.low g) := by
  have written := recorded_empty g requests packets journal recorded
  have drop : packets.length - residents ring packets.length = journal.low g := by
    rw [recorded.length, residents, maxPackets]
    simp only [Journal.low, oldest]
    omega
  rw [residentPackets, drop, recorded_since g requests packets journal recorded, Journal.since, Journal.since, ← List.map_drop,
    List.drop_range', Nat.sub_zero, Nat.zero_add, Nat.mul_one]

theorem since_unlinked (g : Geometry) (requests : List Request) (packets : List RingPacket) (journal : Journal)
    (recorded : Recorded g Journal.empty requests packets journal) (i : Nat) (below : i < journal.written) :
    unlinked (journal.packet i) = journal.packet i := by
  have written := recorded_empty g requests packets journal recorded
  obtain ⟨request, packet, _, _, writtenAs, entry⟩ := recorded_entry g requests packets journal recorded i (by omega)
  have packetIs : journal.packet i = packet := congrArg Entry.packet entry
  rw [packetIs, written_as_unlinked request packet writtenAs]

theorem count_small (g : Geometry) (ring : RingParams) (journal : Journal) (holds : Holds g ring journal)
    (some : 0 < journal.written) : g.count < 2 ^ 32 := by
  have positive := g.positive
  have size := resident_slot g ring journal holds (journal.low g) ⟨Nat.le_refl _, by simp only [Journal.low, oldest]; omega⟩
  have room := g.room
  have small := g.small
  have least : g.count * 1 ≤ g.count * g.slot := Nat.mul_le_mul_left _ (by omega)
  omega

theorem streams_few (g : Geometry) (ring : RingParams) (journal : Journal) (holds : Holds g ring journal)
    (streams : List RingStream) (distinct : (streams.map (·.streamId)).Nodup)
    (members : ∀ stream, stream ∈ streams ↔ journal.streamFrom (journal.low g) stream.streamId = some stream) :
    streams.length < 2 ^ 32 := by
  have inside : streams.map (·.streamId) ⊆ (journal.since (journal.low g)).map (·.streamId) := by
    intro streamId member
    obtain ⟨stream, isStream, rfl⟩ := List.mem_map.mp member
    obtain ⟨_, i, above, below, same, _⟩ := journal.stream_from_id _ _ _ ((members stream).mp isStream)
    exact List.mem_map.mpr ⟨journal.packet i, (journal.mem_since _ _).mpr ⟨i, above, below, rfl⟩, same⟩
  have few := (List.subperm_of_subset distinct inside).length_le
  rw [List.length_map, List.length_map, Journal.since_length] at few
  by_cases empty : journal.written = 0
  · omega
  · have small := count_small g ring journal holds (by omega)
    simp only [Journal.low, oldest] at few
    omega

theorem holds_indexes_streams (g : Geometry) (ring : RingParams) (requests : List Request) (packets : List RingPacket)
    (journal : Journal) (maxPackets : ring.maxPackets.toNat = g.count) (holds : Holds g ring journal)
    (recorded : Recorded g Journal.empty requests packets journal) : IndexesStreams ring (residentPackets ring packets) := by
  obtain ⟨whole, index, _⟩ := holds.index
  obtain ⟨streams, stack, count, sorted, members⟩ := streams_stack_spec g ring journal holds
  have distinct : (streams.map (·.streamId)).Nodup := sorted.imp ne_of_lt
  rw [resident_packets_since g ring requests packets journal maxPackets recorded]
  refine ⟨fun streamId => ?_, ⟨streams, ?_, ?_, distinct, fun stream => ?_⟩, fun streamId stream isStream => ?_⟩
  · rw [journal.entry_of_since]
    rcases get_stream_idx_spec ring whole _ index streamId with ⟨missing, absent⟩ | ⟨node, stream, found, _, _, present⟩
    · rw [missing, absent]
      rfl
    · rw [found, present]
      rfl
  · exact (stack none).trans (congrArg some (List.filter_eq_self.mpr (fun _ _ => rfl)))
  · rw [count, UInt32.toNat_ofNat', Nat.mod_eq_of_lt (streams_few g ring journal holds streams distinct members)]
  · rw [members, journal.entry_of_since]
  · rw [journal.entry_of_since] at isStream
    obtain ⟨_, i, above, below, same, starts, isFirst⟩ := journal.stream_from_id _ _ _ isStream
    have follow := follow_resident g ring journal holds ((journal.since (journal.low g)).length + 1) i ⟨above, below⟩
      (by rw [Journal.since_length]; omega)
    rw [starts, holds.offsets i ⟨above, below⟩, follow, Option.map_some, List.map_map, journal.packets_of_since,
      indices_first _ _ _ i isFirst, same]
    refine congrArg some (List.map_congr_left (fun k member => ?_))
    obtain ⟨_, belowK, _⟩ := (mem_indices _ _ _ k).mp member
    exact since_unlinked g requests packets journal recorded k belowK

-- GetStreamsStack keeps what Reject matches, so that it agrees with the filters
-- on a stream only when Reject is absent or another filter decides.
theorem listed_accepts (one : RingReader) (streamId : Text) :
    RingBuffer.listed (some one) streamId = accepts (some one) streamId ↔
      (one.reject.isSome = true → ¬ (one.limit.all (· streamId) = true ∧ one.matching.all (· streamId) = true)) := by
  simp only [RingBuffer.listed, accepts, RingBuffer.passes, Option.all_some]
  cases one.reject with
  | none => simp
  | some reject =>
      cases one.limit.all (· streamId) <;> cases one.matching.all (· streamId) <;> cases reject streamId <;> simp_all

theorem lists_accepted_iff (g : Geometry) (ring : RingParams) (requests : List Request) (packets : List RingPacket)
    (journal : Journal) (maxPackets : ring.maxPackets.toNat = g.count) (holds : Holds g ring journal)
    (recorded : Recorded g Journal.empty requests packets journal) (reader : Option RingReader) :
    ListsAccepted ring reader (residentPackets ring packets) ↔ RejectIdle reader (residentPackets ring packets) := by
  obtain ⟨streams, stack, _, sorted, members⟩ := streams_stack_spec g ring journal holds
  have distinct : (streams.map (·.streamId)).Nodup := sorted.imp ne_of_lt
  rw [resident_packets_since g ring requests packets journal maxPackets recorded]
  have present : ∀ streamId, (∃ stream ∈ streams, stream.streamId = streamId) ↔
      ∃ packet ∈ journal.since (journal.low g), packet.streamId = streamId := by
    intro streamId
    constructor
    · rintro ⟨stream, member, rfl⟩
      obtain ⟨_, i, above, below, same, _⟩ := journal.stream_from_id _ _ _ ((members stream).mp member)
      exact ⟨_, (journal.mem_since _ _).mpr ⟨i, above, below, rfl⟩, same⟩
    · rintro ⟨packet, member, rfl⟩
      obtain ⟨i, above, below, rfl⟩ := (journal.mem_since _ _).mp member
      rcases journal.stream_from_cases (journal.low g) (journal.packet i).streamId with ⟨_, nowhere⟩ | ⟨_, _, _, _, isStream⟩
      · exact absurd rfl (nowhere i above below)
      · have isId := (journal.stream_from_id _ _ _ isStream).1
        exact ⟨_, (members _).mpr (isId.symm ▸ isStream), isId⟩
  have listing : ∀ streamId, streamId ∈ (streams.filter fun stream => RingBuffer.listed reader stream.streamId).map (·.streamId) ↔
      (∃ packet ∈ journal.since (journal.low g), packet.streamId = streamId) ∧ RingBuffer.listed reader streamId = true := by
    intro streamId
    rw [← present, List.mem_map]
    constructor
    · rintro ⟨stream, member, rfl⟩
      obtain ⟨inside, isListed⟩ := List.mem_filter.mp member
      exact ⟨⟨stream, inside, rfl⟩, isListed⟩
    · rintro ⟨⟨stream, inside, rfl⟩, isListed⟩
      exact ⟨stream, List.mem_filter.mpr ⟨inside, isListed⟩, rfl⟩
  have idle : RejectIdle reader (journal.since (journal.low g)) ↔
      ∀ packet ∈ journal.since (journal.low g), RingBuffer.listed reader packet.streamId = accepts reader packet.streamId := by
    cases reader with
    | none => exact ⟨fun _ _ _ => rfl, fun _ one isOne => by simp at isOne⟩
    | some one =>
        constructor
        · exact fun idle packet member => (listed_accepts one _).mpr (fun rejects => idle one rfl rejects packet member)
        · rintro same one' isOne rejects packet member
          obtain rfl := Option.some.inj isOne
          exact (listed_accepts _ _).mp (same packet member) rejects
  rw [idle]
  constructor
  · rintro ⟨listed, isStack, _, exactly⟩ packet member
    obtain rfl := Option.some.inj ((stack reader).symm.trans isStack)
    have agrees := (listing packet.streamId).symm.trans (exactly packet.streamId)
    have resident : ∃ other ∈ journal.since (journal.low g), other.streamId = packet.streamId := ⟨packet, member, rfl⟩
    exact Bool.eq_iff_iff.mpr ⟨fun isListed => (agrees.mp ⟨resident, isListed⟩).2, fun accepted => (agrees.mpr ⟨resident, accepted⟩).2⟩
  · intro same
    refine ⟨_, stack reader, distinct.sublist (List.filter_sublist.map _), fun streamId => ?_⟩
    rw [listing]
    refine and_congr_right (fun resident => ?_)
    obtain ⟨packet, member, rfl⟩ := resident
    rw [same packet member]

theorem write_run_indexes_streams (g : Geometry) (ring : RingParams) (fresh : Fresh g ring) (requests : List Request)
    (accepted : ∀ request ∈ requests, Accepted ring request) :
    ∃ ring' packets, writeAll ring requests = some (ring', packets) ∧ KeepsLast ring' requests packets ∧
      IndexesStreams ring' (residentPackets ring' packets) ∧
      ∀ reader, ListsAccepted ring' reader (residentPackets ring' packets) ↔
        RejectIdle reader (residentPackets ring' packets) := by
  obtain ⟨ring', packets, journal, ran, setup, holds, recorded⟩ :=
    write_all_spec g ring Journal.empty (fresh_holds g ring fresh) requests accepted
  have maxPackets : ring'.maxPackets.toNat = g.count := by rw [setup.maxPackets, fresh.maxPackets]
  exact ⟨ring', packets, ran, holds_keeps_last g ring' requests packets journal maxPackets holds recorded,
    holds_indexes_streams g ring' requests packets journal maxPackets holds recorded,
    lists_accepted_iff g ring' requests packets journal maxPackets holds recorded⟩

theorem write_run_indexes_streams_wrapped :
    KeepsLast (writtenRing twoSlotRing threeBytes) threeBytes (writtenPackets twoSlotRing threeBytes) ∧
      IndexesStreams (writtenRing twoSlotRing threeBytes)
        (residentPackets (writtenRing twoSlotRing threeBytes) (writtenPackets twoSlotRing threeBytes)) ∧
      ∀ reader, ListsAccepted (writtenRing twoSlotRing threeBytes) reader
          (residentPackets (writtenRing twoSlotRing threeBytes) (writtenPackets twoSlotRing threeBytes)) ↔
        RejectIdle reader (residentPackets (writtenRing twoSlotRing threeBytes) (writtenPackets twoSlotRing threeBytes)) := by
  obtain ⟨ring', packets, ran, keeps, indexes, lists⟩ :=
    write_run_indexes_streams twoSlots twoSlotRing two_slots_fresh threeBytes (three_bytes_accepted twoSlotRing rfl)
  obtain ⟨isRing, isPackets⟩ := written_of_run twoSlotRing ring' threeBytes packets ran
  rw [isRing, isPackets]
  exact ⟨keeps, indexes, lists⟩

def rejectB : RingReader := ⟨-1, Constants.ringIdNext, NsTime.unset, NsTime.unset, NsTime.unset, none, none, some (· == ['B'])⟩

-- The stream A does not match Reject and is left out.
theorem streams_stack_drops_stream : ∃ ring' packets, writeAll twoSlotRing [byteRequest ⟨5⟩ ['A'] 7] = some (ring', packets) ∧
    (∃ packet ∈ residentPackets ring' packets, packet.streamId = ['A']) ∧ accepts (some rejectB) ['A'] = true ∧
    ¬ ListsAccepted ring' (some rejectB) (residentPackets ring' packets) := by
  obtain ⟨ring', packets, journal, ran, setup, holds, recorded⟩ := write_all_spec twoSlots twoSlotRing Journal.empty
    (fresh_holds twoSlots twoSlotRing two_slots_fresh) [byteRequest ⟨5⟩ ['A'] 7]
    (by simpa using byte_request_accepted twoSlotRing rfl ⟨5⟩ ['A'] 7 (by decide))
  have maxPackets : ring'.maxPackets.toNat = twoSlots.count := by rw [setup.maxPackets, two_slots_fresh.maxPackets]
  obtain ⟨request, packet, isRequest, isPacket, writtenAs, _⟩ := recorded_entry twoSlots _ packets journal recorded 0 (by decide)
  have streamA : packet.streamId = ['A'] := by
    rw [List.getElem?_cons_zero] at isRequest
    rw [writtenAs.fields, ← Option.some.inj isRequest]
    rfl
  have resident : packet ∈ residentPackets ring' packets := by
    have length : packets.length = 1 := recorded.length
    have all : packets.length - residents ring' packets.length = 0 := by rw [residents, maxPackets, length]; rfl
    rw [residentPackets, all, List.drop_zero]
    exact List.mem_of_getElem? isPacket
  refine ⟨ring', packets, ran, ⟨packet, resident, streamA⟩, rfl, fun lists => ?_⟩
  have idle := (lists_accepted_iff twoSlots ring' _ packets journal maxPackets holds recorded (some rejectB)).mp lists
  exact idle rejectB rfl rfl packet resident ⟨rfl, rfl⟩

end RingServer
