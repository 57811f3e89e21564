import RingServer.Ring.Initialize
import RingServer.Ring.StreamFile
import RingServer.Ring.Search

set_option autoImplicit false

namespace RingServer

open Library

def headerGeometry (ring : RingParams) : List UInt8 :=
  encodeASCII Constants.ringSignature ++ (putUInt16 ring.version ++ (putUInt64 ring.ringSize ++ (putUInt32 ring.pktSize ++
    (putUInt64 ring.maxPackets ++ (putInt64 ring.maxOffset ++ (putUInt32 ring.headerSize ++ [ring.corruptFlag, ring.fluxFlag]))))))

def headerBounds (ring : RingParams) : List UInt8 :=
  putUInt64 ring.earliestId ++ (putInt64 ring.earliestPTime.value ++ (putInt64 ring.earliestDsTime.value ++
    (putInt64 ring.earliestDeTime.value ++ (putInt64 ring.earliestOffset ++ (putUInt64 ring.latestId ++
      (putInt64 ring.latestPTime.value ++ (putInt64 ring.latestDsTime.value ++ (putInt64 ring.latestDeTime.value ++
        putInt64 ring.latestOffset))))))))

theorem header_geometry_length (ring : RingParams) : (headerGeometry ring).length = 40 := by
  simp [headerGeometry, Constants.ringSignature]

theorem header_bounds_length (ring : RingParams) : (headerBounds ring).length = 80 := by
  simp [headerBounds]

theorem geometry_slice (ring : RingParams) (start count : Nat) (inside : start + count ≤ 40) :
    (RingBuffer.writeHeaderToBuffer ring).dataBuffer.slice start count = ((headerGeometry ring).drop start).take count := by
  have apart : (RingBuffer.writeHeaderToBuffer ring).dataBuffer.slice 0 40 = (ring.dataBuffer.blit 0 (headerGeometry ring)).slice 0 40 :=
    Buffer.slice_blit_apart _ 144 0 40 _ (Or.inl (by omega))
  have here := Buffer.slice_blit_same ring.dataBuffer 0 (headerGeometry ring)
  rw [header_geometry_length] at here
  have part := Buffer.slice_part (RingBuffer.writeHeaderToBuffer ring).dataBuffer 0 40 start count _ (apart.trans here) inside
  rwa [Nat.zero_add] at part

theorem bounds_slice (ring : RingParams) (start count : Nat) (inside : start + count ≤ 80) :
    (RingBuffer.writeHeaderToBuffer ring).dataBuffer.slice (144 + start) count = ((headerBounds ring).drop start).take count := by
  have here := Buffer.slice_blit_same (ring.dataBuffer.blit 0 (headerGeometry ring)) 144 (headerBounds ring)
  rw [header_bounds_length] at here
  exact Buffer.slice_part (RingBuffer.writeHeaderToBuffer ring).dataBuffer 144 80 start count _ here inside

theorem slot_slice (ring : RingParams) (start count : Nat) (beyond : 224 ≤ start) :
    (RingBuffer.writeHeaderToBuffer ring).dataBuffer.slice start count = ring.dataBuffer.slice start count := by
  have bounds := header_bounds_length ring
  have geometry := header_geometry_length ring
  have outer : (RingBuffer.writeHeaderToBuffer ring).dataBuffer.slice start count =
      (ring.dataBuffer.blit 0 (headerGeometry ring)).slice start count :=
    Buffer.slice_blit_apart _ 144 start count (headerBounds ring) (Or.inr (by omega))
  exact outer.trans (Buffer.slice_blit_apart _ 0 start count (headerGeometry ring) (Or.inr (by omega)))

theorem get_uint16_take (span : List UInt8) : getUInt16 (span.take 8) = getUInt16 span := by
  simp [getUInt16, List.take_take]

theorem get_uint64_take (span : List UInt8) : getUInt64 (span.take 8) = getUInt64 span := by
  simp [getUInt64, List.take_take]

theorem get_int64_take (span : List UInt8) : getInt64 (span.take 8) = getInt64 span := by
  rw [getInt64, get_uint64_take, getInt64]

theorem get_uint32_slice (buffer : Buffer) (start : Nat) (span : List UInt8) (known : buffer.slice start 4 = span.take 4) :
    getUInt32 (buffer.slice start 8) = getUInt32 span := by
  rw [getUInt32, Buffer.slice_take _ _ _ _ (by decide), known, getUInt32]

theorem skip_field (first tail : List UInt8) (count : Nat) (short : first.length ≤ count) :
    (first ++ tail).drop count = tail.drop (count - first.length) := by
  rw [List.drop_append, List.drop_eq_nil_of_le short, List.nil_append]

structure GeometryFields (ring : RingParams) (span : List UInt8) : Prop where
  version : getUInt16 (span.drop 4) = ring.version
  ringSize : getUInt64 (span.drop 6) = ring.ringSize
  pktSize : getUInt32 (span.drop 14) = ring.pktSize
  maxPackets : getUInt64 (span.drop 18) = ring.maxPackets
  maxOffset : getInt64 (span.drop 26) = ring.maxOffset
  headerSize : getUInt32 (span.drop 34) = ring.headerSize
  flags : ((span.drop 38).take 1).head? = some ring.corruptFlag

theorem header_geometry_fields (ring : RingParams) : GeometryFields ring (headerGeometry ring) := by
  have name : (encodeASCII Constants.ringSignature).length = 4 := rfl
  constructor
  all_goals simp (disch := simp [name]) only [headerGeometry, skip_field, name, put_uint16_length, put_uint32_length,
    put_uint64_length, put_int64_length, Nat.reduceSub, List.drop_zero, get_put_uint16, get_put_uint32, get_put_uint64, get_put_int64]
  rfl

structure BoundsFields (ring : RingParams) (span : List UInt8) : Prop where
  earliest : Bound.mk (getUInt64 (span.drop 0)) ⟨getInt64 (span.drop 8)⟩ ⟨getInt64 (span.drop 16)⟩ ⟨getInt64 (span.drop 24)⟩
    (getInt64 (span.drop 32)) = earliestOf ring
  latest : Bound.mk (getUInt64 (span.drop 40)) ⟨getInt64 (span.drop 48)⟩ ⟨getInt64 (span.drop 56)⟩ ⟨getInt64 (span.drop 64)⟩
    (getInt64 (span.drop 72)) = latestOf ring

theorem header_bounds_fields (ring : RingParams) : BoundsFields ring (headerBounds ring) := by
  have last : getInt64 (putInt64 ring.latestOffset) = ring.latestOffset := by
    have padded := get_put_int64 ring.latestOffset []
    rwa [List.append_nil] at padded
  constructor
  all_goals simp (disch := simp) only [headerBounds, skip_field, put_uint64_length, put_int64_length, Nat.reduceSub, List.drop_zero,
    get_put_uint64, get_put_int64, last, earliestOf, latestOf]

def Reloaded (old new : Buffer) : Prop :=
  new.length = old.length ∧ ∀ start count, start + count ≤ old.length → new.slice start count = old.slice start count

theorem read_header_restores (ring new : RingParams) (reloaded : Reloaded (RingBuffer.writeHeaderToBuffer ring).dataBuffer new.dataBuffer)
    (long : 224 ≤ ring.dataBuffer.length) :
    (RingBuffer.readHeader new).signature = encodeASCII Constants.ringSignature ∧
      (RingBuffer.readHeader new).version = ring.version ∧ (RingBuffer.readHeader new).ringSize = ring.ringSize ∧
      (RingBuffer.readHeader new).pktSize = ring.pktSize ∧ (RingBuffer.readHeader new).maxPackets = ring.maxPackets ∧
      (RingBuffer.readHeader new).maxOffset = ring.maxOffset ∧ (RingBuffer.readHeader new).headerSize = ring.headerSize ∧
      (RingBuffer.readHeader new).corruptFlag = ring.corruptFlag ∧ earliestOf (RingBuffer.readHeader new) = earliestOf ring ∧
      latestOf (RingBuffer.readHeader new) = latestOf ring := by
  have length : (RingBuffer.writeHeaderToBuffer ring).dataBuffer.length = ring.dataBuffer.length := rfl
  have geometry : ∀ start count, start + count ≤ 40 →
      new.dataBuffer.slice start count = ((headerGeometry ring).drop start).take count := by
    intro start count inside
    rw [reloaded.2 start count (by omega), geometry_slice ring start count inside]
  have bounds : ∀ start count, start + count ≤ 80 →
      new.dataBuffer.slice (144 + start) count = ((headerBounds ring).drop start).take count := by
    intro start count inside
    rw [reloaded.2 _ count (by omega), bounds_slice ring start count inside]
  have fields := header_geometry_fields ring
  have ends := header_bounds_fields ring
  have signature : new.dataBuffer.slice 0 4 = encodeASCII Constants.ringSignature := by
    rw [geometry 0 4 (by decide)]
    rfl
  have corrupt : new.dataBuffer.byte 38 = ring.corruptFlag := by
    have one := congrArg List.head? (geometry 38 1 (by decide))
    have byte : (new.dataBuffer.slice 38 1).head? = some (new.dataBuffer.byte 38) := rfl
    rw [byte, fields.flags] at one
    exact Option.some.inj one
  refine ⟨signature, ?_, ?_, ?_, ?_, ?_, ?_, corrupt, ?_, ?_⟩
  · simp only [RingBuffer.readHeader, geometry 4 8 (by decide), get_uint16_take, fields.version]
  · simp only [RingBuffer.readHeader, geometry 6 8 (by decide), get_uint64_take, fields.ringSize]
  · simp only [RingBuffer.readHeader, get_uint32_slice _ 14 _ (geometry 14 4 (by decide)), fields.pktSize]
  · simp only [RingBuffer.readHeader, geometry 18 8 (by decide), get_uint64_take, fields.maxPackets]
  · simp only [RingBuffer.readHeader, geometry 26 8 (by decide), get_int64_take, fields.maxOffset]
  · simp only [RingBuffer.readHeader, get_uint32_slice _ 34 _ (geometry 34 4 (by decide)), fields.headerSize]
  · simp only [earliestOf, RingBuffer.readHeader, bounds 0 8 (by decide), bounds 8 8 (by decide), bounds 16 8 (by decide),
      bounds 24 8 (by decide), bounds 32 8 (by decide), get_uint64_take, get_int64_take, ends.earliest]
  · simp only [latestOf, RingBuffer.readHeader, bounds 40 8 (by decide), bounds 48 8 (by decide), bounds 56 8 (by decide),
      bounds 64 8 (by decide), bounds 72 8 (by decide), get_uint64_take, get_int64_take, ends.latest]

theorem stream_file_spec (g : Geometry) (ring : RingParams) (journal : Journal) (holds : Holds g ring journal) :
    ∃ streams : List RingStream, RingBuffer.streamFile ring = some (streams.flatMap RingBuffer.serializeRingStream) ∧
      ring.streamCount = UInt32.ofNat streams.length ∧ (streams.map (·.streamId)).Pairwise (fun a b => b < a) ∧
      ∀ stream, stream ∈ streams ↔ journal.streamFrom (journal.low g) stream.streamId = some stream := by
  obtain ⟨nodes, streams, traversed, data, count, sorted, members⟩ := indexed_streams g ring journal holds
  refine ⟨streams.reverse, ?_, by rw [List.length_reverse, count], ?_, fun stream => ?_⟩
  · simp only [RingBuffer.streamFile, traversed, data, Option.bind_eq_bind, Option.bind_some]
  · rw [List.map_reverse]
    exact List.pairwise_reverse.mpr sorted
  · rw [List.mem_reverse, members]

theorem shutdown_spec (g : Geometry) (ring : RingParams) (journal : Journal) (holds : Holds g ring journal)
    (files : RingBuffer.RingFiles) (persistent : ring.volatileFlag = 0) :
    ∃ (streams : List RingStream) (old : RingParams), RingBuffer.ringShutdown true files ring =
        some (0, ⟨some ((RingBuffer.writeHeaderToBuffer ring).dataBuffer.slice 0 ring.dataBuffer.length),
          some (streams.flatMap RingBuffer.serializeRingStream)⟩, old) ∧
      ring.streamCount = UInt32.ofNat streams.length ∧ (streams.map (·.streamId)).Pairwise (fun a b => b < a) ∧
      ∀ stream, stream ∈ streams ↔ journal.streamFrom (journal.low g) stream.streamId = some stream := by
  obtain ⟨streams, file, count, sorted, members⟩ := stream_file_spec g ring journal holds
  have written : RingBuffer.streamFile (RingBuffer.writeHeaderToBuffer ring) = some (streams.flatMap RingBuffer.serializeRingStream) := file
  refine ⟨streams, { RingBuffer.writeHeaderToBuffer ring with fluxFlag := 0, streamIdx := ring.streamIdx.destroy }, ?_, count, sorted,
    members⟩
  have named : ¬ (ring.volatileFlag = 0 ∧ true = false) := fun both => Bool.noConfusion both.2
  have notVolatile : ¬ ring.volatileFlag > 0 := by rw [persistent]; decide
  rw [RingBuffer.ringShutdown, if_neg named, if_neg notVolatile]
  simp only [written, Option.bind_eq_bind, Option.bind_some]
  rfl

theorem reload (files : RingBuffer.RingFiles) (buffer : Buffer) (ringSize : UInt64) (pktSize : UInt32) (maxPackets : UInt64)
    (maxOffset : Int64) (headerSize : UInt32) (length : buffer.length = ringSize.toNat)
    (packetbuf : files.packetbuf = some (buffer.slice 0 buffer.length)) :
    Reloaded buffer (RingBuffer.newRingParams files ringSize pktSize maxPackets maxOffset headerSize false).dataBuffer := by
  refine ⟨length.symm, fun start count inside => Buffer.slice_congr _ _ _ _ (fun i below => ?_)⟩
  have size : (buffer.slice 0 buffer.length).length = ringSize.toNat := by rw [Buffer.slice_length, length]
  have byte := Buffer.slice_get buffer 0 buffer.length (start + i) (by omega)
  rw [Nat.zero_add] at byte
  simp only [RingBuffer.newRingParams, packetbuf, size, Bool.not_false, decide_true, Bool.and_self, if_true,
    List.getD_eq_getElem?_getD, byte, Option.getD_some]

theorem header_accepted (ring new : RingParams) (ringSize : UInt64) (pktSize headerSize : UInt32) (maxPackets : UInt64)
    (maxOffset : Int64) (setUp : SetUp ring ringSize pktSize headerSize maxPackets maxOffset false)
    (reloaded : Reloaded (RingBuffer.writeHeaderToBuffer ring).dataBuffer new.dataBuffer) (long : 224 ≤ ring.dataBuffer.length) :
    RingBuffer.mustReset (RingBuffer.readHeader new) ringSize pktSize maxPackets maxOffset headerSize false = false := by
  obtain ⟨signature, version, isRingSize, isPktSize, isMaxPackets, isMaxOffset, isHeaderSize, _, _, _⟩ :=
    read_header_restores ring new reloaded long
  have name : (trimEndNul (decodeASCII (encodeASCII Constants.ringSignature)) != Constants.ringSignature) = false := by decide
  simp only [RingBuffer.mustReset, signature, name, version, setUp.version, isRingSize, setUp.ringSize, isPktSize, setUp.pktSize,
    isMaxPackets, setUp.maxPackets, isMaxOffset, setUp.maxOffset, isHeaderSize, setUp.headerSize, bne_self_eq_false, Bool.or_self]

theorem streams_plain (g : Geometry) (journal : Journal) (streams : List RingStream)
    (survive : ∀ i, journal.Resident g i → Survives (journal.streamId i))
    (members : ∀ stream, stream ∈ streams ↔ journal.streamFrom (journal.low g) stream.streamId = some stream) :
    ∀ stream ∈ streams, Plain stream.streamId := by
  intro stream member
  obtain ⟨_, i, above, below, same, _⟩ := journal.stream_from_id _ _ _ ((members stream).mp member)
  exact survives_plain _ (same ▸ survive i ⟨above, below⟩)

theorem load_index (g : Geometry) (journal : Journal) (ring : RingParams) (streams : List RingStream)
    (empty : ring.streamIdx = RBTree.create) (zero : ring.streamCount = 0) (distinct : (streams.map (·.streamId)).Nodup)
    (survive : ∀ i, journal.Resident g i → Survives (journal.streamId i))
    (members : ∀ stream, stream ∈ streams ↔ journal.streamFrom (journal.low g) stream.streamId = some stream) :
    ∃ tree count whole, RingBuffer.loadStreams ((streams.flatMap RingBuffer.serializeRingStream).length / RingBuffer.streamRecordSize)
        (streams.flatMap RingBuffer.serializeRingStream) ring = some (withIndex ring tree count) ∧
      RBTree.Index tree whole (journal.streamFrom (journal.low g)) ∧ count = UInt32.ofNat whole.labels.length ∧
      count = UInt32.ofNat streams.length := by
  have plain := streams_plain g journal streams survive members
  have index : RBTree.Index ring.streamIdx .nil (fun _ => none) := empty ▸ RBTree.index_create
  obtain ⟨tree, whole, contents, loaded, index', size, entries⟩ := load_streams streams ring .nil (fun _ => none) index plain distinct
    (fun _ _ => rfl)
  have records : (streams.flatMap RingBuffer.serializeRingStream).length / RingBuffer.streamRecordSize = streams.length := by
    rw [flat_map_records streams plain, Nat.mul_div_cancel _ (by decide)]
  have same : contents = journal.streamFrom (journal.low g) := by
    funext streamId
    refine Option.ext (fun stream => ?_)
    rw [entries]
    constructor
    · intro cases
      cases cases with
      | inl impossible => simp at impossible
      | inr inside => exact inside.2 ▸ (members stream).mp inside.1
    · intro isStream
      have isId := (journal.stream_from_id _ _ _ isStream).1
      exact Or.inr ⟨(members stream).mpr (isId.symm ▸ isStream), isId⟩
  have start : ring.streamCount + UInt32.ofNat streams.length = UInt32.ofNat streams.length := by rw [zero, UInt32.zero_add]
  have labels : whole.labels.length = streams.length := by rw [size]; exact Nat.zero_add _
  refine ⟨tree, UInt32.ofNat streams.length, whole, ?_, same ▸ index', by rw [labels], rfl⟩
  rw [records, loaded, start]
  rfl

theorem offset_at_most (g : Geometry) (ring : RingParams) (shaped : Shaped g ring) (i : Nat) : ¬ g.offsetAt i > ring.maxOffset := by
  have below := Nat.mod_lt i g.positive
  have places : g.place i ≤ (g.count - 1) * g.slot := Nat.mul_le_mul_right _ (by omega)
  rw [gt_iff_lt, Int64.lt_iff_toInt_lt, shaped.maxOffset, g.offset_at_int]
  exact not_lt.mpr (Int.ofNat_le.mpr places)

theorem end_offsets (g : Geometry) (ring : RingParams) (journal : Journal) (holds : Holds g ring journal) :
    ¬ ring.earliestOffset > ring.maxOffset ∧ ¬ ring.latestOffset > ring.maxOffset ∧
      (ring.earliestOffset ≥ 0 ↔ 0 < journal.written) := by
  by_cases empty : journal.written = 0
  · have earliest := congrArg Bound.offset holds.earliest
    have latest := congrArg Bound.offset holds.latest
    rw [if_pos empty] at earliest latest
    have isEarliest : ring.earliestOffset = -1 := earliest
    have isLatest : ring.latestOffset = -1 := latest
    have negative : ¬ (-1 : Int64) > ring.maxOffset := by
      rw [gt_iff_lt, Int64.lt_iff_toInt_lt, holds.shaped.maxOffset]
      have minusOne : (-1 : Int64).toInt = -1 := by decide
      omega
    rw [isEarliest, isLatest, empty]
    exact ⟨negative, negative, by decide⟩
  · rw [earliest_offset_at g ring journal holds (by omega), latest_offset_at g ring journal holds (by omega)]
    exact ⟨offset_at_most g ring holds.shaped _, offset_at_most g ring holds.shaped _,
      fun _ => by omega, fun _ => g.offset_at_nonneg _⟩

theorem reloaded_holds (g : Geometry) (ring new : RingParams) (journal : Journal) (holds : Holds g ring journal)
    (reloaded : Reloaded (RingBuffer.writeHeaderToBuffer ring).dataBuffer new.dataBuffer) (base : 224 ≤ g.base)
    (dataOffset : new.dataOffset = ring.dataOffset) (tree : RBTree Text RingStream) (count : UInt32) (whole : ColorTree NodeId)
    (index : RBTree.Index tree whole (journal.streamFrom (journal.low g))) (counted : count = UInt32.ofNat whole.labels.length) :
    Holds g (withIndex (RingBuffer.readHeader new) tree count) journal := by
  have room := g.place_room 0
  have length : (RingBuffer.writeHeaderToBuffer ring).dataBuffer.length = g.length := holds.shaped.length
  obtain ⟨_, _, _, pktSize, _, maxOffset, _, _, earliest, latest⟩ :=
    read_header_restores ring new reloaded (by rw [holds.shaped.length]; omega)
  have shaped : Shaped g (withIndex (RingBuffer.readHeader new) tree count) :=
    ⟨(congrArg UInt32.toNat pktSize).trans holds.shaped.pktSize, (congrArg Int64.toInt maxOffset).trans holds.shaped.maxOffset,
      (congrArg Int32.toInt dataOffset).trans holds.shaped.dataOffset, reloaded.1.trans length⟩
  refine ⟨shaped, earliest.trans holds.earliest, latest.trans holds.latest, fun i resident => ?_, holds.offsets, holds.survive,
    ⟨whole, index, counted⟩⟩
  have inside := g.place_room i
  have slot := reloaded.2 (g.base + g.place i) g.slot (by omega)
  rw [slot_slice ring _ _ (by omega), holds.slots i resident] at slot
  exact slot

theorem load_stored (ring fresh loaded : RingParams) (files : RingBuffer.RingFiles) (bytes : List UInt8)
    (stored : ring.earliestOffset ≥ 0) (streamFile : files.streamidx = some bytes)
    (load : RingBuffer.loadStreams (bytes.length / RingBuffer.streamRecordSize) bytes ring = some loaded)
    (earliestOk : ¬ loaded.earliestOffset > loaded.maxOffset) (latestOk : ¬ loaded.latestOffset > loaded.maxOffset) :
    RingBuffer.loadRing files ring false false fresh = some (0, some loaded) := by
  simp only [RingBuffer.loadRing, true_and, if_pos stored, Bool.false_eq_true, if_false, streamFile, load, Option.bind_eq_bind,
    Option.bind_some,
    if_neg earliestOk, if_neg latestOk]

theorem load_empty (ring fresh : RingParams) (files : RingBuffer.RingFiles) (empty : ¬ ring.earliestOffset ≥ 0)
    (earliestOk : ¬ ring.earliestOffset > ring.maxOffset) (latestOk : ¬ ring.latestOffset > ring.maxOffset) :
    RingBuffer.loadRing files ring false false fresh = some (0, some ring) := by
  simp only [RingBuffer.loadRing, true_and, if_neg empty, Bool.false_eq_true, if_false, Option.bind_eq_bind, Option.bind_some,
    if_neg earliestOk, if_neg latestOk]

theorem load_spec (g : Geometry) (read fresh : RingParams) (journal : Journal)
    (completed : ∀ tree count whole, RBTree.Index tree whole (journal.streamFrom (journal.low g)) →
      count = UInt32.ofNat whole.labels.length → Holds g (withIndex read tree count) journal)
    (stored : read.earliestOffset ≥ 0 ↔ 0 < journal.written) (emptyIndex : read.streamIdx = RBTree.create)
    (zero : read.streamCount = 0) (survive : ∀ i, journal.Resident g i → Survives (journal.streamId i))
    (files : RingBuffer.RingFiles) (streams : List RingStream) (distinct : (streams.map (·.streamId)).Nodup)
    (members : ∀ stream, stream ∈ streams ↔ journal.streamFrom (journal.low g) stream.streamId = some stream)
    (streamFile : files.streamidx = some (streams.flatMap RingBuffer.serializeRingStream)) :
    ∃ tree count, RingBuffer.loadRing files read false false fresh = some (0, some (withIndex read tree count)) ∧
      Holds g (withIndex read tree count) journal := by
  cases Nat.eq_zero_or_pos journal.written with
  | inl empty =>
    have contents : journal.streamFrom (journal.low g) = fun _ => none := by
      funext streamId
      exact Journal.stream_from_none _ _ _ ((first_in_none _ _ _).mpr fun i _ below => absurd below (by omega))
    have index : RBTree.Index read.streamIdx .nil (journal.streamFrom (journal.low g)) := by
      rw [contents, emptyIndex]
      exact RBTree.index_create
    have holds := completed read.streamIdx read.streamCount .nil index zero
    have offsets := end_offsets g _ journal holds
    refine ⟨read.streamIdx, read.streamCount, ?_, holds⟩
    exact load_empty read fresh files (fun nonneg => by have := stored.mp nonneg; omega) offsets.1 offsets.2.1
  | inr some =>
    obtain ⟨tree, count, whole, loaded, index, counted, _⟩ := load_index g journal read streams emptyIndex zero distinct survive members
    have holds := completed tree count whole index counted
    have offsets := end_offsets g _ journal holds
    exact ⟨tree, count, load_stored read fresh _ files _ (stored.mpr some) streamFile loaded offsets.1 offsets.2.1, holds⟩

theorem earliest_offset_same (old new : RingParams) (same : earliestOf new = earliestOf old) :
    new.earliestOffset = old.earliestOffset :=
  congrArg Bound.offset same

theorem load_reloaded (g : Geometry) (ring new fresh : RingParams) (journal : Journal) (holds : Holds g ring journal)
    (named : ring.signature = encodeASCII Constants.ringSignature)
    (reloaded : Reloaded (RingBuffer.writeHeaderToBuffer ring).dataBuffer new.dataBuffer) (base : 224 ≤ g.base)
    (dataOffset : new.dataOffset = ring.dataOffset) (isVolatile : new.volatileFlag = ring.volatileFlag)
    (emptyIndex : new.streamIdx = RBTree.create) (zero : new.streamCount = 0) (files : RingBuffer.RingFiles)
    (streams : List RingStream) (distinct : (streams.map (·.streamId)).Nodup)
    (members : ∀ stream, stream ∈ streams ↔ journal.streamFrom (journal.low g) stream.streamId = some stream)
    (streamFile : files.streamidx = some (streams.flatMap RingBuffer.serializeRingStream)) :
    ∃ loaded, RingBuffer.loadRing files (RingBuffer.readHeader new) false false fresh = some (0, some loaded) ∧
      SameSetup ring loaded ∧ Holds g loaded journal := by
  have room := g.place_room 0
  obtain ⟨signature, version, ringSize, pktSize, maxPackets, maxOffset, headerSize, corrupt, earliest, _⟩ :=
    read_header_restores ring new reloaded (by rw [holds.shaped.length]; omega)
  have earliestOffset : (RingBuffer.readHeader new).earliestOffset = ring.earliestOffset := earliest_offset_same _ _ earliest
  have stored : (RingBuffer.readHeader new).earliestOffset ≥ 0 ↔ 0 < journal.written := by
    rw [earliestOffset]
    exact (end_offsets g ring journal holds).2.2
  have completed := reloaded_holds g ring new journal holds reloaded base dataOffset
  obtain ⟨tree, count, loaded, holds'⟩ := load_spec g (RingBuffer.readHeader new) fresh journal completed stored emptyIndex zero
    holds.survive files streams distinct members streamFile
  have same : SameSetup ring (withIndex (RingBuffer.readHeader new) tree count) :=
    ⟨signature.trans named.symm, version, ringSize, pktSize, maxPackets, maxOffset, headerSize, corrupt, isVolatile, dataOffset,
      reloaded.1⟩
  exact ⟨withIndex (RingBuffer.readHeader new) tree count, loaded, same, holds'⟩

theorem open_accepted (files : RingBuffer.RingFiles) (ringSize : UInt64) (pktSize : UInt32) (maxPackets : UInt64)
    (maxOffset : Int64) (headerSize : UInt32) (new : RingParams) (array : ringSize.toNat ≤ RingBuffer.maxArrayLength)
    (fits : headerSize.toUInt64 ≤ ringSize)
    (isNew : RingBuffer.newRingParams files ringSize pktSize maxPackets maxOffset headerSize false = new)
    (accepted : RingBuffer.mustReset (RingBuffer.readHeader new) ringSize pktSize maxPackets maxOffset headerSize false = false) :
    RingBuffer.openRing files ringSize pktSize maxPackets maxOffset headerSize false =
      RingBuffer.loadRing files (RingBuffer.readHeader new) false false
        (RingBuffer.resetRingParams (RingBuffer.readHeader new) ringSize pktSize maxPackets maxOffset headerSize) := by
  simp only [RingBuffer.openRing, if_neg (not_lt.mpr array), if_pos fits, isNew, accepted]

theorem restart_spec (g : Geometry) (ring : RingParams) (journal : Journal) (holds : Holds g ring journal) (pageSize : UInt32)
    (ringSize : UInt64) (pktSize headerSize : UInt32) (maxPackets : UInt64) (maxOffset : Int64)
    (opens : Opens pageSize ringSize pktSize headerSize maxPackets maxOffset)
    (setUp : SetUp ring ringSize pktSize headerSize maxPackets maxOffset false) (base : g.base = headerSize.toNat)
    (files : RingBuffer.RingFiles) :
    ∃ files' old new, RingBuffer.ringShutdown true files ring = some (0, files', old) ∧
      RingBuffer.ringInitialize true files' pageSize ringSize pktSize false = some (0, some new) ∧ SameSetup ring new ∧
      Holds g new journal := by
  obtain ⟨streams, old, down, _, sorted, members⟩ := shutdown_spec g ring journal holds files setUp.volatileFlag
  have distinct : (streams.map (·.streamId)).Nodup := sorted.imp ne_of_gt
  have least := header_size_least pageSize headerSize opens.header
  have room := g.place_room 0
  have long : 224 ≤ ring.dataBuffer.length := by rw [holds.shaped.length]; omega
  have fits : headerSize.toUInt64 ≤ ringSize := by
    rw [UInt64.le_iff_toNat_le, UInt32.toNat_toUInt64, ← setUp.length, holds.shaped.length]
    omega
  generalize isFiles : RingBuffer.RingFiles.mk (some ((RingBuffer.writeHeaderToBuffer ring).dataBuffer.slice 0 ring.dataBuffer.length))
    (some (streams.flatMap RingBuffer.serializeRingStream)) = files' at down
  obtain ⟨packetbuf, streamFile⟩ : files'.packetbuf = some ((RingBuffer.writeHeaderToBuffer ring).dataBuffer.slice 0
      ring.dataBuffer.length) ∧ files'.streamidx = some (streams.flatMap RingBuffer.serializeRingStream) := by
    rw [← isFiles]
    exact ⟨rfl, rfl⟩
  have reloaded := reload files' (RingBuffer.writeHeaderToBuffer ring).dataBuffer ringSize pktSize maxPackets maxOffset headerSize
    setUp.length packetbuf
  generalize isNew : RingBuffer.newRingParams files' ringSize pktSize maxPackets maxOffset headerSize false = new at reloaded
  obtain ⟨dataOffset, isVolatile, emptyIndex, zero⟩ : new.dataOffset = headerSize.toInt32 ∧ new.volatileFlag = 0 ∧
      new.streamIdx = RBTree.create ∧ new.streamCount = 0 := by
    rw [← isNew]
    exact ⟨rfl, rfl, rfl, rfl⟩
  have accepted := header_accepted ring new ringSize pktSize headerSize maxPackets maxOffset setUp reloaded long
  have opening := open_accepted files' ringSize pktSize maxPackets maxOffset headerSize new setUp.array fits isNew accepted
  obtain ⟨ring', loaded, same, holds'⟩ := load_reloaded g ring new
    (RingBuffer.resetRingParams (RingBuffer.readHeader new) ringSize pktSize maxPackets maxOffset headerSize) journal holds
    setUp.signature reloaded (by omega) (dataOffset.trans setUp.dataOffset.symm) (isVolatile.trans setUp.volatileFlag.symm)
    emptyIndex zero files' streams distinct members streamFile
  refine ⟨files', old, ring', down, ?_, same, holds'⟩
  rw [RingBuffer.ringInitialize, if_neg (by decide), opens.header, Option.bind_eq_bind, Option.bind_some, if_neg opens.fits,
    if_neg opens.some, ← loaded, ← opening, opens.offset, opens.packets]

end RingServer
