import RingServer.Ring.ShutdownFailure

set_option autoImplicit false

namespace RingServer

open Library RingBuffer

-- A server on its files: those it was started from, the ring at its start, and the ring
-- now. It is started on files without a packet buffer to recover, or on those of an
-- orderly shutdown.
inductive LivedOn (pageSize : UInt32) (ringSize : UInt64) (pktSize : UInt32) : RingFiles → RingParams → RingParams → Prop
  | created (files : RingFiles) (ring : RingParams) (unread : Unread files ringSize)
      (init : ringInitialize true files pageSize ringSize pktSize false = some (0, some ring))
      (room : ring.headerSize.toUInt64 ≤ ring.ringSize) (two : 2 ≤ ring.maxPackets) : LivedOn pageSize ringSize pktSize files ring ring
  | wrote (files : RingFiles) (start ring next : RingParams) (request : Request) (code : Int) (packet : RingPacket)
      (lived : LivedOn pageSize ringSize pktSize files start ring) (survives : Survives request.packet.streamId)
      (array : request.dataSize.toNat < 2 ^ 31) (write : writeRequest ring request = some (code, next, packet)) :
      LivedOn pageSize ringSize pktSize files start next
  | restarted (files files' : RingFiles) (start ring old new : RingParams) (lived : LivedOn pageSize ringSize pktSize files start ring)
      (down : ringShutdown true files ring = some (0, files', old))
      (init : ringInitialize true files' pageSize ringSize pktSize false = some (0, some new)) :
      LivedOn pageSize ringSize pktSize files' new new

structure Emptied (ring : RingParams) : Prop where
  earliest : earliestOf ring = noBound
  latest : latestOf ring = noBound
  streamIdx : ring.streamIdx = RBTree.create
  streamCount : ring.streamCount = 0

structure Complete (ring : RingParams) (files : RingFiles) : Prop where
  packetbuf : files.packetbuf = some (packetBytes ring)
  streamidx : files.streamidx = streamFile ring

def Recovers (pageSize : UInt32) (ringSize : UInt64) (pktSize : UInt32) (start ring : RingParams) (files : RingFiles) : Prop :=
  ∀ new, ringInitialize true files pageSize ringSize pktSize false = some (0, some new) →
    Emptied new ∨ Restored start new ∨ Restored ring new

-- Shutdown has a result, and a return value of 0 stands for two complete files.
def Atomic (pageSize : UInt32) (ringSize : UInt64) (pktSize : UInt32) (files : RingFiles) (start ring : RingParams)
    (index buffer : FileWrite) : Prop :=
  ∃ code files', shutdownWith true files ring index buffer = some (code, files') ∧
    Recovers pageSize ringSize pktSize start ring files' ∧ (code = some 0 → Complete ring files')

def indexBytes (ring : RingParams) : List UInt8 := (streamFile ring).getD []

-- Where the packet buffer of the start stays, it finds the records of the start, unless it is
-- empty.
def IndexKept (files : RingFiles) (start : RingParams) (streamidx : Option (List UInt8)) : Prop :=
  0 ≤ start.earliestOffset → wholeRecords streamidx = wholeRecords files.streamidx

-- What the end of the second write asks of the stream index file. A packet buffer that is
-- cut short is not recovered.
def BufferMatched (files : RingFiles) (start ring : RingParams) (streamidx : Option (List UInt8)) : FileWrite → Prop
  | .whole => streamidx = some (indexBytes ring)
  | .throws .untouched => IndexKept files start streamidx
  | .dies .untouched => IndexKept files start streamidx
  | .throws (.part _) => True
  | .dies (.part _) => True

def Matched (files : RingFiles) (start ring : RingParams) : FileWrite → FileWrite → Prop
  | .whole, buffer => BufferMatched files start ring (some (indexBytes ring)) buffer
  | .throws left, buffer => BufferMatched files start ring (left.file files.streamidx (indexBytes ring)) buffer
  | .dies left, _ => IndexKept files start (left.file files.streamidx (indexBytes ring))

theorem entry_of_unlinked (packets : List RingPacket) (streamId : Text) :
    entryOf (packets.map unlinked) streamId = entryOf packets streamId := by
  have filtered : packetsOf streamId (packets.map unlinked) = (packetsOf streamId packets).map unlinked := by
    rw [packetsOf, packetsOf, List.filter_map]
    rfl
  rw [entryOf, entryOf, filtered, List.head?_map, List.getLast?_map]
  cases (packetsOf streamId packets).head? <;> cases (packetsOf streamId packets).getLast? <;> rfl

theorem same_headers_streams (g : Geometry) (journal journal' : Journal)
    (count : journal'.written - journal'.low g = journal.written - journal.low g)
    (same : ∀ k, k < journal.written - journal.low g →
      unlinked (journal'.packet (journal'.low g + k)) = unlinked (journal.packet (journal.low g + k))) (streamId : Text) :
    journal'.streamFrom (journal'.low g) streamId = journal.streamFrom (journal.low g) streamId := by
  have packets : (journal'.since (journal'.low g)).map unlinked = (journal.since (journal.low g)).map unlinked := by
    rw [Journal.since, Journal.since, count, List.map_map, List.map_map, List.range'_eq_map_range, List.range'_eq_map_range,
      List.map_map, List.map_map]
    exact List.map_congr_left fun k member => same k (List.mem_range.mp member)
  rw [← Journal.entry_of_since, ← Journal.entry_of_since, ← entry_of_unlinked, packets, entry_of_unlinked]

theorem same_packets_streams (g : Geometry) (old new : RingParams) (journal journal' : Journal) (holds : Holds g old journal)
    (holds' : Holds g new journal') (earliest : earliestOf new = earliestOf old) (latest : latestOf new = latestOf old)
    (packets : ∀ offset, HeldAt old offset → readPacketAtOffset new offset = readPacketAtOffset old offset) (streamId : Text) :
    journal'.streamFrom (journal'.low g) streamId = journal.streamFrom (journal.low g) streamId := by
  have positive := g.positive
  have stored : 0 < journal'.written ↔ 0 < journal.written := by
    rw [← (end_offsets g new journal' holds').2.2, ← (end_offsets g old journal holds).2.2, earliest_offset_same _ _ earliest]
  by_cases empty : journal.written = 0
  · have none : journal'.written = 0 := by omega
    exact same_headers_streams g journal journal' (by rw [none, empty, Nat.zero_sub, Nat.zero_sub]) (fun k below => by omega) streamId
  have some : 0 < journal.written := Nat.pos_of_ne_zero empty
  have some' := stored.mpr some
  have low : journal.low g < journal.written := by simp only [Journal.low, oldest]; omega
  have low' : journal'.low g < journal'.written := by simp only [Journal.low, oldest]; omega
  have slots (k : Nat) : g.offsetAt (journal'.low g + k) = g.offsetAt (journal.low g + k) := by
    induction k with
    | zero =>
        rw [Nat.add_zero, Nat.add_zero, ← earliest_offset_at g new journal' holds' some', ← earliest_offset_at g old journal holds some]
        exact earliest_offset_same _ _ earliest
    | succ k ih => rw [← Nat.add_assoc, ← Nat.add_assoc, ← next_offset_at g old holds.shaped, ← next_offset_at g old holds.shaped, ih]
  have last : g.offsetAt (journal'.written - 1) = g.offsetAt (journal.written - 1) := by
    rw [← latest_offset_at g new journal' holds' some', ← latest_offset_at g old journal holds some]
    exact congrArg Bound.offset latest
  have ends : journal.low g + (journal.written - journal.low g - 1) = journal.written - 1 := by omega
  have ends' : journal'.low g + (journal'.written - journal'.low g - 1) = journal'.written - 1 := by omega
  -- one ring would meet its latest packet before its end
  have count : journal'.written - journal'.low g = journal.written - journal.low g := by
    rcases Nat.lt_trichotomy (journal'.written - journal'.low g) (journal.written - journal.low g) with fewer | same | more
    · have early := slots (journal'.written - journal'.low g - 1)
      rw [ends', last] at early
      exact absurd early.symm (resident_offset_ne g old journal holds _ _ ⟨Nat.le_add_right _ _, by omega⟩ ⟨by omega, by omega⟩ (by omega))
    · exact same
    · have early := slots (journal.written - journal.low g - 1)
      rw [ends, ← last] at early
      exact absurd early (resident_offset_ne g new journal' holds' _ _ ⟨Nat.le_add_right _ _, by omega⟩ ⟨by omega, by omega⟩ (by omega))
  refine same_headers_streams g journal journal' count (fun k below => ?_) streamId
  have resident : journal.Resident g (journal.low g + k) := ⟨Nat.le_add_right _ _, by omega⟩
  have resident' : journal'.Resident g (journal'.low g + k) := ⟨Nat.le_add_right _ _, by omega⟩
  have held : HeldAt old (g.offsetAt (journal.low g + k)) := (held_at_resident g old journal holds _).mpr ⟨_, resident, rfl⟩
  have same := packets _ held
  rw [read_resident g old journal holds _ resident, ← slots k, read_resident g new journal' holds' _ resident', Option.some.injEq] at same
  rw [← header_unlinked g journal', ← header_unlinked g journal, same]

def StreamRecords (g : Geometry) (journal : Journal) (streamidx : Option (List UInt8)) : Prop :=
  ∃ streams : List RingStream, streamidx = some (streams.flatMap serializeRingStream) ∧
    (streams.map (·.streamId)).Pairwise (fun a b => b < a) ∧
    ∀ stream, stream ∈ streams ↔ journal.streamFrom (journal.low g) stream.streamId = some stream

theorem stream_file_records (g : Geometry) (ring : RingParams) (journal : Journal) (holds : Holds g ring journal) :
    StreamRecords g journal (streamFile ring) := by
  obtain ⟨streams, file, _, sorted, members⟩ := stream_file_spec g ring journal holds
  exact ⟨streams, file, sorted, members⟩

structure Course (pageSize : UInt32) (ringSize : UInt64) (pktSize : UInt32) (files : RingFiles) (start ring : RingParams)
    (g : Geometry) (journal journal' : Journal) (headerSize : UInt32) (maxPackets : UInt64) (maxOffset : Int64) : Prop where
  before : Alive pageSize ringSize pktSize start g journal headerSize maxPackets maxOffset
  now : Alive pageSize ringSize pktSize ring g journal' headerSize maxPackets maxOffset
  init : ringInitialize true files pageSize ringSize pktSize false = some (0, some start)
  stored : 0 ≤ start.earliestOffset → StreamRecords g journal files.streamidx

theorem lived_on_course (pageSize : UInt32) (ringSize : UInt64) (pktSize : UInt32) (files : RingFiles) (start ring : RingParams)
    (lived : LivedOn pageSize ringSize pktSize files start ring) :
    ∃ g journal journal' headerSize maxPackets maxOffset,
      Course pageSize ringSize pktSize files start ring g journal journal' headerSize maxPackets maxOffset := by
  induction lived with
  | created files ring unread init room two =>
      obtain ⟨g, headerSize, maxPackets, maxOffset, fresh, opens, setUp, base⟩ :=
        initialize_fresh true files pageSize ringSize pktSize false ring init (Or.inr unread) room two
      have alive : Alive pageSize ringSize pktSize ring g Journal.empty headerSize maxPackets maxOffset :=
        ⟨opens, setUp, base, fresh_holds g ring fresh⟩
      refine ⟨g, Journal.empty, Journal.empty, headerSize, maxPackets, maxOffset, alive, alive, init, fun stored => ?_⟩
      have empty : ring.earliestOffset = -1 := congrArg Bound.offset fresh.earliest
      rw [empty] at stored
      exact absurd stored (by decide)
  | wrote files start ring next request code packet _ survives array write ih =>
      obtain ⟨g, journal, journal', headerSize, maxPackets, maxOffset, course⟩ := ih
      obtain ⟨journal'', alive⟩ := write_alive pageSize ringSize pktSize ring next request code packet g journal' headerSize maxPackets
        maxOffset course.now survives array write
      exact ⟨g, journal, journal'', headerSize, maxPackets, maxOffset, course.before, alive, course.init, course.stored⟩
  | restarted files files' start ring old new _ down init ih =>
      obtain ⟨g, journal, journal', headerSize, maxPackets, maxOffset, course⟩ := ih
      have alive := restart_alive pageSize ringSize pktSize ring old new files files' g journal' headerSize maxPackets maxOffset
        course.now down init
      refine ⟨g, journal', journal', headerSize, maxPackets, maxOffset, alive, alive, init, fun _ => ?_⟩
      obtain ⟨streams, _, stopped, _, sorted, members⟩ := shutdown_spec g ring journal' course.now.holds files course.now.setUp.volatileFlag
      rw [stopped] at down
      cases down
      exact ⟨streams, rfl, sorted, members⟩

theorem index_streams (ring : RingParams) (tree : RBTree Text RingStream) (count : UInt32) (whole : ColorTree NodeId)
    (contents : Text → Option RingStream) (index : RBTree.Index tree whole contents) :
    ∃ streams, indexedStreams (withIndex ring tree count) = some streams ∧
      ∀ stream, stream ∈ streams ↔ ∃ streamId, contents streamId = some stream := by
  obtain ⟨entries, _, data, _, members⟩ := RBTree.index_entries tree whole contents index
  have traversed := RBTree.index_traverse tree whole contents index
  refine ⟨entries.map Prod.snd, ?_, fun stream => ?_⟩
  · simp only [indexedStreams, withIndex, traversed, data, Option.bind_eq_bind, Option.bind_some]
  · rw [List.mem_map]
    constructor
    · intro inside
      obtain ⟨⟨streamId, data⟩, member, rfl⟩ := inside
      exact ⟨streamId, (members streamId data).mp member⟩
    · intro isStream
      obtain ⟨streamId, isStream⟩ := isStream
      exact ⟨(streamId, stream), (members streamId stream).mpr isStream, rfl⟩

theorem descending_streams_unique (first second : List RingStream) (sortedFirst : (first.map (·.streamId)).Pairwise (fun a b => b < a))
    (sortedSecond : (second.map (·.streamId)).Pairwise (fun a b => b < a)) (same : ∀ stream, stream ∈ first ↔ stream ∈ second) :
    first = second := by
  have ascends (streams : List RingStream) (sorted : (streams.map (·.streamId)).Pairwise (fun a b => b < a)) :
      (streams.reverse.map (·.streamId)).Pairwise (· < ·) := by
    rw [List.map_reverse]
    exact List.pairwise_reverse.mpr sorted
  have reversed := sorted_streams_unique first.reverse second.reverse (ascends first sortedFirst) (ascends second sortedSecond)
    (fun stream => by rw [List.mem_reverse, List.mem_reverse, same])
  exact List.reverse_injective reversed

section

variable (pageSize : UInt32) (ringSize : UInt64) (pktSize : UInt32) (files files' : RingFiles) (start ring : RingParams) (g : Geometry)
  (journal journal' : Journal) (headerSize : UInt32) (maxPackets : UInt64) (maxOffset : Int64)
  (course : Course pageSize ringSize pktSize files start ring g journal journal' headerSize maxPackets maxOffset)

include course

theorem kept_recovers (same : files'.packetbuf = files.packetbuf) (kept : IndexKept files start files'.streamidx) :
    Recovers pageSize ringSize pktSize start ring files' := by
  have again : ringInitialize true files' pageSize ringSize pktSize false = some (0, some start) := by
    by_cases stored : 0 ≤ start.earliestOffset
    · rw [initialize_same_records true files files' pageSize ringSize pktSize false same (kept stored), course.init]
    · exact initialize_empty true files files' pageSize ringSize pktSize false same start course.init (Int64.not_le.mp stored)
  intro new init
  rw [again] at init
  cases init
  exact .inr (.inl (same_journal_restored g start start journal (same_setup_refl start) course.before.holds course.before.holds))

theorem complete_recovers (streams : List UInt8) (file : streamFile ring = some streams) :
    Recovers pageSize ringSize pktSize start ring ⟨some (packetBytes ring), some streams⟩ := by
  obtain ⟨_, old, ring', down, started, same, holds⟩ := restart_spec g ring journal' course.now.holds pageSize ringSize pktSize headerSize
    maxPackets maxOffset course.now.opens course.now.setUp course.now.base files
  have complete := shutdown_with_goes_on files ring .whole .whole streams course.now.setUp.volatileFlag file (fun _ => nofun)
  rw [shutdown_without_failure, down] at complete
  cases complete
  intro new init
  have isNew : some ((0 : Int), some ring') = some (0, some new) := started.symm.trans init
  cases isNew
  exact .inr (.inr (same_journal_restored g ring ring' journal' same course.now.holds holds))

omit course in
theorem cut_recovers (unread : Unread files' ringSize) : Recovers pageSize ringSize pktSize start ring files' := by
  intro new init
  obtain ⟨_, _, _, _, _, read, streamIdx, streamCount, _, _, _, rfl⟩ :=
    initialize_reset true files' pageSize ringSize pktSize false new init (Or.inr unread)
  exact .inl ⟨rfl, rfl, streamIdx, streamCount⟩

-- A ring with the packets of the start and some first streams of the ring at Shutdown is
-- accepted for one of them only if these are the streams of the start.
theorem restored_streams (new : RingParams) (streams : List RingStream) (indexed : indexedStreams new = some streams)
    (earliest : earliestOf new = earliestOf start) (latest : latestOf new = latestOf start)
    (packets : ∀ offset, readPacketAtOffset new offset = readPacketAtOffset start offset)
    (restored : Restored start new ∨ Restored ring new) (stream : RingStream) :
    stream ∈ streams ↔ journal.streamFrom (journal.low g) stream.streamId = some stream := by
  have streamsOf (old : RingParams) (kept : Journal) (holds : Holds g old kept) (restored : Restored old new) :
      stream ∈ streams ↔ kept.streamFrom (kept.low g) stream.streamId = some stream := by
    obtain ⟨nodes, known, traversed, data, _, _, members⟩ := indexed_streams g old kept holds
    obtain ⟨same, isOld, isNew⟩ := restored.streams
    have isKnown : indexedStreams old = some known := by
      simp only [indexedStreams, traversed, data, Option.bind_eq_bind, Option.bind_some]
    rw [isOld, Option.some.injEq] at isKnown
    rw [indexed, Option.some.injEq] at isNew
    rw [isNew, isKnown, members]
  rcases restored with restored | restored
  · exact streamsOf start journal course.before.holds restored
  · rw [streamsOf ring journal' course.now.holds restored]
    have same := same_packets_streams g ring start journal' journal course.now.holds course.before.holds
      (earliest.symm.trans restored.earliest) (latest.symm.trans restored.latest) (fun offset held => ?_) stream.streamId
    · rw [same]
    · obtain ⟨packet, _, isOld, isNew, _⟩ := restored.packets offset held
      rw [← packets, isNew, isOld]

theorem recovers_kept (same : files'.packetbuf = files.packetbuf) (streams : List RingStream)
    (plain : ∀ stream ∈ streams, Plain stream.streamId) (sorted : (streams.map (·.streamId)).Pairwise (fun a b => b < a))
    (cut : files'.streamidx = files.streamidx ∨ ∃ n, files'.streamidx = some ((streams.flatMap serializeRingStream).take n))
    (recovers : Recovers pageSize ringSize pktSize start ring files') : IndexKept files start files'.streamidx := by
  intro stored
  rcases cut with unchanged | ⟨n, cut⟩
  · rw [unchanged]
  obtain ⟨k, records⟩ := whole_records_take streams plain n
  rw [← cut] at records
  have first : (streams.take k).Sublist streams := List.take_sublist k streams
  have descends : ((streams.take k).map (·.streamId)).Pairwise (fun a b => b < a) := sorted.sublist (first.map _)
  obtain ⟨tree, count, whole, contents, init, index, entries⟩ := initialize_streams true files files' pageSize ringSize pktSize same start
    course.init stored (streams.take k) (fun stream member => plain stream (first.subset member)) (descends.imp ne_of_gt) records
  obtain ⟨found, indexed, members⟩ := index_streams start tree count whole contents index
  have isFirst (stream : RingStream) : stream ∈ found ↔ stream ∈ streams.take k := by
    rw [members]
    constructor
    · intro isStream
      obtain ⟨streamId, isStream⟩ := isStream
      exact ((entries streamId stream).mp isStream).1
    · exact fun member => ⟨stream.streamId, (entries stream.streamId stream).mpr ⟨member, rfl⟩⟩
  have restored : Restored start (withIndex start tree count) ∨ Restored ring (withIndex start tree count) := by
    refine (recovers _ init).resolve_left (fun emptied => ?_)
    have empty : start.earliestOffset = -1 := congrArg Bound.offset emptied.earliest
    rw [empty] at stored
    exact absurd stored (by decide)
  obtain ⟨old, oldFile, oldSorted, oldMembers⟩ := course.stored stored
  have oldPlain := streams_plain g journal old course.before.holds.survive oldMembers
  have isOld : streams.take k = old := by
    refine descending_streams_unique _ _ descends oldSorted (fun stream => ?_)
    rw [← isFirst, oldMembers]
    exact restored_streams pageSize ringSize pktSize files start ring g journal journal' headerSize maxPackets maxOffset course _ found
      indexed rfl rfl (fun _ => rfl) restored stream
  rw [records, isOld, oldFile, whole_records_all old oldPlain]

theorem kept_atomic_iff (index buffer : FileWrite) (code : Option Int) (failed : code ≠ some 0)
    (result : shutdownWith true files ring index buffer = some (code, files')) (same : files'.packetbuf = files.packetbuf)
    (streams : List RingStream) (plain : ∀ stream ∈ streams, Plain stream.streamId)
    (sorted : (streams.map (·.streamId)).Pairwise (fun a b => b < a))
    (cut : files'.streamidx = files.streamidx ∨ ∃ n, files'.streamidx = some ((streams.flatMap serializeRingStream).take n)) :
    Atomic pageSize ringSize pktSize files start ring index buffer ↔ IndexKept files start files'.streamidx := by
  constructor
  · intro atomic
    obtain ⟨code', files'', answer, recovers, _⟩ := atomic
    rw [result] at answer
    cases answer
    exact recovers_kept pageSize ringSize pktSize files files' start ring g journal journal' headerSize maxPackets maxOffset course same
      streams plain sorted cut recovers
  · intro kept
    exact ⟨code, files', result, kept_recovers pageSize ringSize pktSize files files' start ring g journal journal' headerSize maxPackets
      maxOffset course same kept, fun success => absurd success failed⟩

theorem whole_atomic_iff (index : FileWrite) (streams : List UInt8) (streamidx : Option (List UInt8))
    (file : streamFile ring = some streams)
    (result : shutdownWith true files ring index .whole = some (some 0, ⟨some (packetBytes ring), streamidx⟩)) :
    Atomic pageSize ringSize pktSize files start ring index .whole ↔ streamidx = some streams := by
  constructor
  · intro atomic
    obtain ⟨code, files', answer, _, complete⟩ := atomic
    rw [result] at answer
    cases answer
    exact (complete rfl).streamidx.trans file
  · rintro rfl
    exact ⟨some 0, _, result, complete_recovers pageSize ringSize pktSize files start ring g journal journal' headerSize maxPackets
      maxOffset course streams file, fun _ => ⟨rfl, file.symm⟩⟩

theorem part_unread (n : Nat) (streamidx : Option (List UInt8)) :
    Unread ⟨(Left.part n).file files.packetbuf (packetBytes ring), streamidx⟩ ringSize := by
  intro bytes isPart
  obtain rfl := Option.some.inj isPart
  have setUp := course.now.setUp
  have least := header_size_least pageSize headerSize course.now.opens.header
  have room := g.place_room 0
  have isLength := setUp.length
  rw [course.now.holds.shaped.length] at isLength
  have base := course.now.base
  have whole : (packetBytes ring).length = ringSize.toNat := by rw [packetBytes, Buffer.slice_length, setUp.length]
  rw [List.length_take, List.length_dropLast, whole]
  omega

theorem buffer_atomic_iff (index buffer : FileWrite) (streams : List RingStream) (streamidx : Option (List UInt8))
    (file : streamFile ring = some (streams.flatMap serializeRingStream)) (plain : ∀ stream ∈ streams, Plain stream.streamId)
    (sorted : (streams.map (·.streamId)).Pairwise (fun a b => b < a))
    (cut : streamidx = files.streamidx ∨ ∃ n, streamidx = some ((streams.flatMap serializeRingStream).take n))
    (result : shutdownWith true files ring index buffer = some
    (buffer.outcome, ⟨buffer.file files.packetbuf (packetBytes ring), streamidx⟩)) :
    Atomic pageSize ringSize pktSize files start ring index buffer ↔ BufferMatched files start ring streamidx buffer := by
  have bytes : indexBytes ring = streams.flatMap serializeRingStream := by rw [indexBytes, file, Option.getD_some]
  have kept (failed : buffer.outcome ≠ some 0) (same : buffer.file files.packetbuf (packetBytes ring) = files.packetbuf) :=
    kept_atomic_iff pageSize ringSize pktSize files _ start ring g journal journal' headerSize maxPackets maxOffset course index buffer _
      failed result same streams plain sorted cut
  have lost (n : Nat) (failed : buffer.outcome ≠ some 0)
      (part : buffer.file files.packetbuf (packetBytes ring) = (Left.part n).file files.packetbuf (packetBytes ring)) :
      Atomic pageSize ringSize pktSize files start ring index buffer := by
    rw [part] at result
    have unread := part_unread pageSize ringSize pktSize files start ring g journal journal' headerSize maxPackets maxOffset course n
      streamidx
    exact ⟨_, _, result, cut_recovers pageSize ringSize pktSize _ start ring unread, fun success => absurd success failed⟩
  cases buffer with
  | whole =>
      rw [BufferMatched, bytes]
      exact whole_atomic_iff pageSize ringSize pktSize files start ring g journal journal' headerSize maxPackets maxOffset course index _
        streamidx file result
  | throws left =>
      cases left with
      | untouched => exact kept nofun rfl
      | part n => exact iff_of_true (lost n nofun rfl) trivial
  | dies left =>
      cases left with
      | untouched => exact kept nofun rfl
      | part n => exact iff_of_true (lost n nofun rfl) trivial

end

theorem left_cut (old : Option (List UInt8)) (contents : List UInt8) (left : Left) :
    left.file old contents = old ∨ ∃ n, left.file old contents = some (contents.take n) := by
  cases left with
  | untouched => exact .inl rfl
  | part n => exact .inr ⟨min n (contents.length - 1), by rw [Left.file, List.dropLast_eq_take, List.take_take]⟩

theorem shutdown_atomic_iff (pageSize : UInt32) (ringSize : UInt64) (pktSize : UInt32) (files : RingFiles) (start ring : RingParams)
    (index buffer : FileWrite) (lived : LivedOn pageSize ringSize pktSize files start ring) :
    Atomic pageSize ringSize pktSize files start ring index buffer ↔ Matched files start ring index buffer := by
  obtain ⟨g, journal, journal', headerSize, maxPackets, maxOffset, course⟩ :=
    lived_on_course pageSize ringSize pktSize files start ring lived
  obtain ⟨streams, file, sorted, members⟩ := stream_file_records g ring journal' course.now.holds
  have plain := streams_plain g journal' streams course.now.holds.survive members
  have persistent := course.now.setUp.volatileFlag
  have bytes : indexBytes ring = streams.flatMap serializeRingStream := by rw [indexBytes, file, Option.getD_some]
  have goesOn (index : FileWrite) := shutdown_with_goes_on files ring index buffer _ persistent file
  have buffered := buffer_atomic_iff pageSize ringSize pktSize files start ring g journal journal' headerSize maxPackets maxOffset course
  cases index with
  | whole =>
      rw [Matched, bytes]
      refine buffered .whole buffer streams _ file plain sorted (.inr ⟨(streams.flatMap serializeRingStream).length, ?_⟩)
        (goesOn .whole (fun _ => nofun))
      rw [List.take_length]
  | throws left =>
      rw [Matched, bytes]
      exact buffered (.throws left) buffer streams _ file plain sorted (left_cut _ _ left) (goesOn (.throws left) (fun _ => nofun))
  | dies left =>
      rw [Matched, bytes]
      exact kept_atomic_iff pageSize ringSize pktSize files _ start ring g journal journal' headerSize maxPackets maxOffset course
        (.dies left) buffer none nofun (shutdown_with_dies files ring left buffer _ persistent file) rfl streams plain sorted
        (left_cut _ _ left)

theorem two_slot_file_ring_lived_on : LivedOn 4096 4352 128 ⟨none, none⟩ twoSlotFileRing twoSlotFileRing :=
  .created ⟨none, none⟩ twoSlotFileRing (fun _ missing => nomatch missing) rfl (by decide) (by decide)

def oneByteFileRing : RingParams := ((writeRequest twoSlotFileRing (byteRequest ⟨5⟩ ['A'] 7)).map (·.2.1)).getD twoSlotFileRing

theorem one_byte_file_ring_lived_on : LivedOn 4096 4352 128 ⟨none, none⟩ twoSlotFileRing oneByteFileRing := by
  have ran : (writeRequest twoSlotFileRing (byteRequest ⟨5⟩ ['A'] 7)).isSome = true := by decide +kernel
  obtain ⟨⟨code, next, packet⟩, write⟩ := Option.isSome_iff_exists.mp ran
  have isNext : oneByteFileRing = next := by
    rw [oneByteFileRing, write]
    rfl
  rw [isNext]
  exact .wrote ⟨none, none⟩ twoSlotFileRing twoSlotFileRing next _ code packet two_slot_file_ring_lived_on (by decide) (by decide) write

theorem shutdown_atomic_one_byte :
    ¬ Atomic 4096 4352 128 ⟨none, none⟩ twoSlotFileRing oneByteFileRing (.throws .untouched) .whole ∧
      Atomic 4096 4352 128 ⟨none, none⟩ twoSlotFileRing oneByteFileRing .whole (.dies (.part 4200)) := by
  refine ⟨fun atomic => ?_, (shutdown_atomic_iff 4096 4352 128 ⟨none, none⟩ twoSlotFileRing oneByteFileRing .whole (.dies (.part 4200))
    one_byte_file_ring_lived_on).mpr trivial⟩
  have matched := (shutdown_atomic_iff 4096 4352 128 ⟨none, none⟩ twoSlotFileRing oneByteFileRing (.throws .untouched) .whole
    one_byte_file_ring_lived_on).mp atomic
  have missing : none = some (indexBytes oneByteFileRing) := matched
  cases missing

-- The stream index cannot be written, Shutdown returns 0 all the same, and the packet comes
-- back without its stream.
theorem shutdown_loses_stream : LivedOn 4096 4352 128 ⟨none, none⟩ twoSlotFileRing oneByteFileRing ∧
    ∃ files, shutdownWith true ⟨none, none⟩ oneByteFileRing (.throws .untouched) .whole = some (some 0, files) ∧
      ¬ Complete oneByteFileRing files ∧ ¬ Recovers 4096 4352 128 twoSlotFileRing oneByteFileRing files := by
  have persistent : oneByteFileRing.volatileFlag = 0 := by decide +kernel
  have written : (streamFile oneByteFileRing).isSome = true := by decide +kernel
  obtain ⟨streams, file⟩ := Option.isSome_iff_exists.mp written
  refine ⟨one_byte_file_ring_lived_on, _,
    shutdown_with_goes_on ⟨none, none⟩ oneByteFileRing (.throws .untouched) .whole streams persistent file (fun _ => nofun), ?_, ?_⟩
  · intro complete
    have missing : none = streamFile oneByteFileRing := complete.streamidx
    rw [file] at missing
    cases missing
  · intro recovers
    have counts : ((ringInitialize true ⟨some (packetBytes oneByteFileRing), none⟩ 4096 4352 128 false).bind fun result =>
        result.2.map fun new => (result.1, new.earliestOffset.toInt, new.streamCount.toNat)) = some (0, 0, 0) := by decide +kernel
    rw [Option.bind_eq_some_iff] at counts
    obtain ⟨⟨code, new⟩, init, counts⟩ := counts
    rw [Option.map_eq_some_iff] at counts
    obtain ⟨new, rfl, counts⟩ := counts
    obtain ⟨rfl, earliest, streamCount⟩ : code = 0 ∧ new.earliestOffset.toInt = 0 ∧ new.streamCount.toNat = 0 := by
      simpa only [Prod.mk.injEq] using counts
    rcases recovers new init with emptied | restored | restored
    · have minusOne : new.earliestOffset = -1 := congrArg Bound.offset emptied.earliest
      rw [minusOne] at earliest
      exact absurd earliest (by decide)
    · have minusOne : new.earliestOffset = -1 := congrArg Bound.offset restored.earliest
      rw [minusOne] at earliest
      exact absurd earliest (by decide)
    · have one : oneByteFileRing.streamCount.toNat = 1 := by decide +kernel
      rw [← restored.streamCount, streamCount] at one
      exact absurd one (by decide)

end RingServer
