import RingServer.Ring.Journal

set_option autoImplicit false

namespace RingServer

open Library

theorem read_slot (g : Geometry) (ring : RingParams) (shaped : Shaped g ring) (i : Nat) (packet : RingPacket) (body : List UInt8)
    (slot : ring.dataBuffer.slice (g.base + g.place i) g.slot = packet.serialize ++ body)
    (survives : Survives packet.streamId) : RingBuffer.readPacketAtOffset ring (g.offsetAt i) = some packet := by
  have size : 112 ≤ g.slot := by
    have lengths := congrArg List.length slot
    simp only [Buffer.slice_length, List.length_append, serialize_length] at lengths
    omega
  have header : ring.dataBuffer.slice (g.base + g.place i) 112 = packet.serialize := by
    rw [← Buffer.slice_take _ _ _ _ size, slot, List.take_left' (serialize_length packet)]
  have decoded := deserialize_serialize packet [] survives
  rw [List.append_nil] at decoded
  rw [read_packet_slice g ring shaped i size, header, decoded]

theorem read_resident (g : Geometry) (ring : RingParams) (journal : Journal) (holds : Holds g ring journal) (i : Nat)
    (resident : journal.Resident g i) : RingBuffer.readPacketAtOffset ring (g.offsetAt i) = some (journal.header g i) :=
  read_slot g ring holds.shaped i _ _ (holds.slots i resident) (holds.survive i resident)

theorem get_stream_idx_spec (ring : RingParams) (whole : ColorTree NodeId) (contents : Text → Option RingStream)
    (index : RBTree.Index ring.streamIdx whole contents) (streamId : Text) :
    (RingBuffer.getStreamIdx ring streamId = some none ∧ contents streamId = none) ∨
      ∃ node stream, RingBuffer.getStreamIdx ring streamId = some (some (node, stream)) ∧ node ∈ whole.labels ∧
        RBTree.Stored ring.streamIdx node streamId stream ∧ contents streamId = some stream := by
  rcases RBTree.index_find ring.streamIdx whole contents streamId index with ⟨missing, absent⟩ |
    ⟨node, stream, found, member, stored, present⟩
  · refine Or.inl ⟨?_, absent⟩
    simp only [RingBuffer.getStreamIdx, missing, Option.bind_eq_bind, Option.bind_some, Option.bind_none]
  · refine Or.inr ⟨node, stream, ?_, member, stored, present⟩
    simp only [RingBuffer.getStreamIdx, found, Option.bind_eq_bind, Option.bind_some, stored.2, Option.map_some]

def withIndex (ring : RingParams) (tree : RBTree Text RingStream) (count : UInt32) : RingParams :=
  { ring with streamIdx := tree, streamCount := count }

def withEarliest (ring : RingParams) (bound : Bound) : RingParams :=
  { ring with
    earliestId := bound.id
    earliestPTime := bound.pTime
    earliestDsTime := bound.dsTime
    earliestDeTime := bound.deTime
    earliestOffset := bound.offset }

theorem count_succ (n : Nat) : UInt32.ofNat n + 1 = UInt32.ofNat (n + 1) := (UInt32.ofNat_add n 1).symm

theorem count_pred (n : Nat) : UInt32.ofNat (n + 1) - 1 = UInt32.ofNat n := by
  rw [← count_succ, UInt32.add_sub_cancel]

theorem resident_slot (g : Geometry) (ring : RingParams) (journal : Journal) (holds : Holds g ring journal) (i : Nat)
    (resident : journal.Resident g i) : (journal.entry i).body.length + 112 = g.slot := by
  have lengths := congrArg List.length (holds.slots i resident)
  simp only [Buffer.slice_length, List.length_append, serialize_length] at lengths
  omega

theorem resident_offset_ne (g : Geometry) (ring : RingParams) (journal : Journal) (holds : Holds g ring journal) (i j : Nat)
    (residentI : journal.Resident g i) (residentJ : journal.Resident g j) (different : i ≠ j) :
    g.offsetAt i ≠ g.offsetAt j := by
  have size := resident_slot g ring journal holds i residentI
  refine g.offset_at_ne i j (by omega) (fun same => different ?_)
  exact slot_injective g.count journal.written i j residentI.1 residentI.2 residentJ.1 residentJ.2 same

theorem drop_oldest_alone (ring : RingParams) (journal : Journal) (start : Nat) (whole : ColorTree NodeId) (node : NodeId)
    (stream : RingStream) (index : RBTree.Index ring.streamIdx whole (journal.streamFrom start))
    (member : node ∈ whole.labels) (stored : RBTree.Stored ring.streamIdx node (journal.streamId start) stream)
    (count : ring.streamCount = UInt32.ofNat whole.labels.length) (alone : journal.next start = none) :
    ∃ tree whole', RingBuffer.delStreamIdx ring (journal.streamId start) = some { ring with streamIdx := tree } ∧
      RBTree.Index tree whole' (journal.streamFrom (start + 1)) ∧
      ring.streamCount - 1 = UInt32.ofNat whole'.labels.length := by
  obtain ⟨tree, whole', deleted, index', order⟩ := RBTree.index_delete ring.streamIdx whole _ node _ index member stored.1
  have found : ring.streamIdx.find (journal.streamId start) = some (some node) := by
    rcases RBTree.index_find ring.streamIdx whole _ (journal.streamId start) index with ⟨_, absent⟩ | ⟨other, _, found, inside, isKey, _⟩
    · have present := (index.holds _ _).mpr ⟨node, member, stored⟩
      rw [absent] at present
      simp at present
    · rw [found, RBTree.ascending_unique ring.streamIdx whole.labels other node _ index.ascending inside member isKey.1 stored.1]
  refine ⟨tree, whole', ?_, ?_, ?_⟩
  · simp only [RingBuffer.delStreamIdx, found, Option.bind_eq_bind, Option.bind_some, deleted, Option.map_some]
  · have contents : RBTree.assign (journal.streamFrom start) (journal.streamId start) none = journal.streamFrom (start + 1) := by
      funext streamId
      by_cases same : streamId = journal.streamId start
      · subst same
        rw [RBTree.assign_self, journal.stream_from_alone start alone]
      · rw [RBTree.assign_other _ _ _ _ same, journal.stream_from_other start streamId (Ne.symm same)]
    exact contents ▸ index'
  · rw [count, order.length_eq, List.length_cons, count_pred]

theorem drop_oldest_next (ring : RingParams) (journal : Journal) (start next last : Nat) (whole : ColorTree NodeId) (node : NodeId)
    (stream : RingStream) (index : RBTree.Index ring.streamIdx whole (journal.streamFrom start))
    (member : node ∈ whole.labels) (stored : RBTree.Stored ring.streamIdx node (journal.streamId start) stream)
    (isNext : journal.next start = some next)
    (isLast : lastIn (fun k => journal.streamId k = journal.streamId start) start journal.written = some last)
    (later : start < last) :
    RBTree.Index (ring.streamIdx.setData node (streamOf (journal.streamId start) (journal.packet next) (journal.packet last)))
      whole (journal.streamFrom (start + 1)) := by
  have contents : RBTree.assign (journal.streamFrom start) (journal.streamId start)
      (some (streamOf (journal.streamId start) (journal.packet next) (journal.packet last))) = journal.streamFrom (start + 1) := by
    funext streamId
    by_cases same : streamId = journal.streamId start
    · subst same
      rw [RBTree.assign_self, journal.stream_from_next start next last isNext isLast later]
    · rw [RBTree.assign_other _ _ _ _ same, journal.stream_from_other start streamId (Ne.symm same)]
  exact contents ▸ RBTree.index_set_data ring.streamIdx whole _ node _ _ index member stored.1

theorem remove_earliest_spec (g : Geometry) (ring : RingParams) (journal : Journal) (holds : Holds g ring journal)
    (full : g.count ≤ journal.written) :
    ∃ tree count whole, RingBuffer.removeEarliest ring (journal.header g (journal.low g)) =
        some (withEarliest (withIndex ring tree count) (boundOf (journal.packet (journal.low g + 1)))) ∧
      RBTree.Index tree whole (journal.streamFrom (journal.low g + 1)) ∧ count = UInt32.ofNat whole.labels.length := by
  have two := g.two
  have lowIs : journal.low g = journal.written - g.count := rfl
  have residentLow : journal.Resident g (journal.low g) := ⟨Nat.le_refl _, by omega⟩
  have residentNext : journal.Resident g (journal.low g + 1) := ⟨by omega, by omega⟩
  have headerOffset : (journal.header g (journal.low g)).offset = g.offsetAt (journal.low g) := holds.offsets _ residentLow
  have nextRead : RingBuffer.readPacketAtOffset ring (RingBuffer.nextOffset (g.offsetAt (journal.low g)) ring.maxOffset
      ring.pktSize) = some (journal.header g (journal.low g + 1)) := by
    rw [next_offset_at g ring holds.shaped, read_resident g ring journal holds _ residentNext]
  obtain ⟨whole, index, count⟩ := holds.index
  have isFirst : firstIn (fun k => journal.streamId k = journal.streamId (journal.low g)) (journal.low g) journal.written =
      some (journal.low g) := first_in_head _ _ _ residentLow.2 rfl
  rcases journal.stream_from_cases (journal.low g) (journal.streamId (journal.low g)) with ⟨_, nowhere⟩ |
    ⟨first, last, wasFirst, isLast, present⟩
  · exact absurd rfl (nowhere _ (Nat.le_refl _) residentLow.2)
  obtain rfl : journal.low g = first := Option.some.inj (isFirst.symm.trans wasFirst)
  obtain ⟨lowLast, lastOld, _⟩ := (last_in_some _ _ _ _).mp isLast
  have residentLast : journal.Resident g last := ⟨lowLast, lastOld⟩
  rcases get_stream_idx_spec ring whole _ index (journal.streamId (journal.low g)) with ⟨_, absent⟩ |
    ⟨node, stream, found, member, stored, isStream⟩
  · rw [absent] at present
    simp at present
  obtain rfl := Option.some.inj (isStream.symm.trans present)
  have headerStream : (journal.header g (journal.low g)).streamId = journal.streamId (journal.low g) := rfl
  have earliestIs : g.offsetAt (journal.low g) = (journal.packet (journal.low g)).offset := (holds.offsets _ residentLow).symm
  have latestIs : (journal.packet last).offset = g.offsetAt last := holds.offsets last residentLast
  by_cases alone : last = journal.low g
  · have isNone := (journal.next_none_iff _ _ isLast).mpr alone
    obtain ⟨tree, whole', deleted, index', count'⟩ := drop_oldest_alone
      (withEarliest ring (boundOf (journal.packet (journal.low g + 1)))) journal _ whole node _ index member stored count isNone
    refine ⟨tree, ring.streamCount - 1, whole', ?_, index', count'⟩
    have only : g.offsetAt (journal.low g) = (journal.packet last).offset := by rw [latestIs, alone]
    simp only [RingBuffer.removeEarliest, nextRead, headerStream, found, Option.bind_eq_bind, Option.bind_some, headerOffset,
      streamOf, Option.elim_some]
    rw [if_pos ⟨earliestIs, only⟩]
    exact congrArg (Option.map fun ring : RingParams => { ring with streamCount := ring.streamCount - 1 }) deleted
  · have isSome : ∃ next, journal.next (journal.low g) = some next := by
      cases isNext : journal.next (journal.low g) with
      | none => exact absurd ((journal.next_none_iff _ _ isLast).mp isNext) alone
      | some next => exact ⟨next, rfl⟩
    obtain ⟨next, isNext⟩ := isSome
    obtain ⟨nextAbove, nextOld, _⟩ := (first_in_some _ _ _ _).mp isNext
    have residentStream : journal.Resident g next := ⟨by omega, nextOld⟩
    have index' := drop_oldest_next ring journal _ next last whole node _ index member stored isNext isLast (by omega)
    refine ⟨_, ring.streamCount, whole, ?_, index', count⟩
    have notOnly : ¬ g.offsetAt (journal.low g) = (journal.packet last).offset := by
      rw [latestIs]
      exact resident_offset_ne g ring journal holds _ _ residentLow residentLast (Ne.symm alone)
    have link : (journal.header g (journal.low g)).nextInStream = g.offsetAt next := by simp [Journal.header, isNext]
    simp only [RingBuffer.removeEarliest, nextRead, headerStream, found, Option.bind_eq_bind, Option.bind_some, headerOffset,
      streamOf, Option.elim_some, link]
    rw [if_neg (fun both => notOnly both.2), if_pos (g.offset_at_nonneg next), read_resident g ring journal holds next residentStream]
    rfl

def freshStream (packet : RingPacket) : RingStream where
  streamId := packet.streamId
  earliestDsTime := packet.dataStart
  earliestDeTime := packet.dataEnd
  earliestPTime := packet.pktTime
  earliestId := packet.pktId
  earliestOffset := packet.offset
  latestDsTime := ⟨0⟩
  latestDeTime := ⟨0⟩
  latestPTime := ⟨0⟩
  latestId := 0
  latestOffset := -1

theorem add_stream_spec (ring : RingParams) (whole : ColorTree NodeId) (contents : Text → Option RingStream)
    (packet : RingPacket) (index : RBTree.Index ring.streamIdx whole contents)
    (count : ring.streamCount = UInt32.ofNat whole.labels.length) :
    ∃ tree count' whole' node stream, RingBuffer.addStream ring packet = some (withIndex ring tree count', node, stream) ∧
      RBTree.Index tree whole' (RBTree.assign contents packet.streamId (some stream)) ∧ node ∈ whole'.labels ∧
      (tree.nodes node).key = some packet.streamId ∧ count' = UInt32.ofNat whole'.labels.length ∧
      stream = (contents packet.streamId).getD (freshStream packet) := by
  rcases get_stream_idx_spec ring whole contents index packet.streamId with ⟨missing, absent⟩ |
    ⟨node, stream, found, member, stored, present⟩
  · obtain ⟨tree, whole', inserted, index', order, stored⟩ :=
      RBTree.index_insert ring.streamIdx whole contents packet.streamId (freshStream packet) index absent
    have member : ring.streamIdx.next ∈ whole'.labels := order.mem_iff.mpr (by simp)
    refine ⟨tree, ring.streamCount + 1, whole', ring.streamIdx.next, freshStream packet, ?_, index', member, stored.1, ?_, ?_⟩
    · simp only [RingBuffer.addStream, missing, Option.bind_eq_bind, Option.bind_some]
      have same : ring.streamIdx.insert packet.streamId (freshStream packet) = some (tree, ring.streamIdx.next) := inserted
      simp only [freshStream] at same ⊢
      rw [same]
      rfl
    · rw [count, order.length_eq, List.length_cons, count_succ]
    · rw [absent]; rfl
  · refine ⟨ring.streamIdx, ring.streamCount, whole, node, stream, ?_, ?_, member, stored.1, count, ?_⟩
    · simp only [RingBuffer.addStream, found, Option.bind_eq_bind, Option.bind_some]
      rfl
    · have same : RBTree.assign contents packet.streamId (some stream) = contents := by
        funext other
        by_cases atKey : other = packet.streamId
        · rw [atKey, RBTree.assign_self, present]
        · rw [RBTree.assign_other _ _ _ _ atKey]
      rw [same]
      exact index
    · rw [present]; rfl

def slotBody (slot : Nat) (packetData : List UInt8) (dataSize : UInt32) : List UInt8 :=
  let payload := packetData.take dataSize.toNat
  payload ++ List.replicate (slot - 112 - payload.length) 0

theorem slot_body_length (slot : Nat) (packetData : List UInt8) (dataSize : UInt32) (fits : dataSize.toNat + 112 ≤ slot) :
    (slotBody slot packetData dataSize).length + 112 = slot := by
  simp only [slotBody, List.length_append, List.length_take, List.length_replicate]
  omega

theorem packet_span_spec (pktSize : UInt32) (packet : RingPacket) (packetData : List UInt8) (dataSize : UInt32)
    (fits : dataSize.toNat + 112 ≤ pktSize.toNat) (small : pktSize.toNat < 2 ^ 31) :
    RingBuffer.packetSpan pktSize packet packetData dataSize =
      some (packet.serialize ++ slotBody pktSize.toNat packetData dataSize) := by
  have cast : dataSize.toInt32.toInt = dataSize.toNat := by
    have same : dataSize.toInt32 = Int32.ofNat dataSize.toNat := by
      rw [← UInt32.toInt32_ofNat', UInt32.ofNat_toNat]
    rw [same, Int32.toInt_ofNat_of_lt (by omega)]
  have size : RingPacket.serializedSize = 112 := rfl
  have count : (min (dataSize.toNat : Int) (packetData.length : Int)).toNat = min dataSize.toNat packetData.length := by
    omega
  have bounds : ¬ (dataSize > 0 ∧ (min (dataSize.toNat : Int) (packetData.length : Int) < 0 ∨
      (pktSize.toNat : Int) < (112 : Nat) + min (dataSize.toNat : Int) (packetData.length : Int))) := by
    rintro ⟨_, bad⟩
    omega
  have taken : packetData.take (min dataSize.toNat packetData.length) = packetData.take dataSize.toNat := by
    rw [← List.take_take, List.take_length]
  simp only [RingBuffer.packetSpan, cast, size, if_neg (by omega : ¬ pktSize.toNat < 112), if_neg bounds, count, taken, slotBody]
  by_cases some : dataSize > 0
  · simp only [if_pos some]
  · have zero : dataSize.toNat = 0 := by
      rw [gt_iff_lt, UInt32.lt_iff_toNat_lt] at some
      have constant : (0 : UInt32).toNat = 0 := rfl
      omega
    simp only [if_neg some, zero, List.take_zero]

theorem copy_to_slot (g : Geometry) (ring : RingParams) (shaped : Shaped g ring) (i : Nat) (bytes : List UInt8)
    (fits : bytes.length ≤ g.slot) : RingBuffer.copyTo ring (RingBuffer.bufOffset ring (g.offsetAt i)) bytes =
      some { ring with dataBuffer := ring.dataBuffer.blit (g.base + g.place i) bytes } := by
  have room := g.place_room i
  have start := buf_offset_at g ring shaped i
  rw [RingBuffer.copyTo, start, shaped.length, if_neg (by omega)]
  rfl

theorem copy_span (g : Geometry) (ring : RingParams) (shaped : Shaped g ring) (i : Nat) (dataSize : UInt32)
    (fits : dataSize.toNat + 112 ≤ g.slot) (buffer : List UInt8) (room : dataSize.toNat ≤ buffer.length) :
    ∃ bytes, RingBuffer.spanAt ring (RingBuffer.bufOffset ring (g.offsetAt i) + 112) dataSize.toNat = some bytes ∧
      bytes = ring.dataBuffer.slice (g.base + g.place i + 112) dataSize.toNat ∧
      RingBuffer.copyData ring (g.offsetAt i) dataSize (some buffer) = some (some (bytes ++ buffer.drop dataSize.toNat)) := by
  have constant : (112 : Int32) = Int32.ofNat 112 := rfl
  have whole := span_at_slot g ring shaped i 112 dataSize.toNat (by omega)
  rw [← constant] at whole
  refine ⟨_, whole, rfl, ?_⟩
  by_cases some : dataSize > 0
  · have place := g.place_room i
    have small := g.small
    have start := buf_offset_add g ring shaped i 112 (by omega)
    have count : dataSize.toInt32.toInt = dataSize.toNat := by
      have same : dataSize.toInt32 = Int32.ofNat dataSize.toNat := by
        rw [← UInt32.toInt32_ofNat', UInt32.ofNat_toNat]
      rw [same, Int32.toInt_ofNat_of_lt (by omega)]
    have stop : (RingBuffer.bufOffset ring (g.offsetAt i) + 112 + dataSize.toInt32).toInt ≤ ring.dataBuffer.length := by
      rw [constant, int32_add_small _ _ (by rw [start, count]; omega) (by rw [start, count]; omega), start, count, shaped.length]
      omega
    simp only [RingBuffer.copyData, if_pos some, if_pos stop, count, Int.toNat_natCast, whole, Option.map_some]
    rw [if_neg (by omega)]
  · have zero : dataSize.toNat = 0 := by
      rw [gt_iff_lt, UInt32.lt_iff_toNat_lt] at some
      have constant : (0 : UInt32).toNat = 0 := rfl
      omega
    have nothing : ring.dataBuffer.slice (g.base + g.place i + 112) 0 = [] := List.length_eq_zero_iff.mp (Buffer.slice_length _ _ _)
    simp only [RingBuffer.copyData, if_neg some, zero, nothing, List.drop_zero, List.nil_append]

theorem copy_slot (g : Geometry) (ring : RingParams) (shaped : Shaped g ring) (i : Nat) (header : RingPacket) (body : List UInt8)
    (slot : ring.dataBuffer.slice (g.base + g.place i) g.slot = header.serialize ++ body) (dataSize : UInt32)
    (fits : dataSize.toNat + 112 ≤ g.slot) (buffer : List UInt8) (room : dataSize.toNat ≤ buffer.length) :
    RingBuffer.copyData ring (g.offsetAt i) dataSize (some buffer) =
      some (some (body.take dataSize.toNat ++ buffer.drop dataSize.toNat)) := by
  obtain ⟨bytes, _, isSlice, copied⟩ := copy_span g ring shaped i dataSize fits buffer room
  have part := Buffer.slice_part ring.dataBuffer (g.base + g.place i) g.slot 112 dataSize.toNat _ slot (by omega)
  rw [List.drop_left' (serialize_length _)] at part
  rw [copied, isSlice, part]

theorem slice_other_slot (g : Geometry) (buffer : Buffer) (i j : Nat) (bytes : List UInt8) (fits : bytes.length ≤ g.slot)
    (different : i % g.count ≠ j % g.count) : (buffer.blit (g.base + g.place j) bytes).slice (g.base + g.place i) g.slot =
      buffer.slice (g.base + g.place i) g.slot := by
  apply Buffer.slice_blit_apart
  rcases g.place_apart i j different with before | after
  · left; omega
  · right; omega

theorem slice_header (g : Geometry) (buffer : Buffer) (i : Nat) (old new : RingPacket) (body : List UInt8)
    (slot : buffer.slice (g.base + g.place i) g.slot = old.serialize ++ body) :
    (buffer.blit (g.base + g.place i) new.serialize).slice (g.base + g.place i) g.slot = new.serialize ++ body := by
  have size : g.slot = 112 + body.length := by
    have lengths := congrArg List.length slot
    simpa using lengths
  have rest := Buffer.slice_drop buffer (g.base + g.place i) g.slot 112 (by omega)
  rw [slot, List.drop_left' (serialize_length old)] at rest
  have kept : g.slot - 112 = body.length := by omega
  rw [kept] at rest
  have header := Buffer.slice_blit_same buffer (g.base + g.place i) new.serialize
  rw [serialize_length] at header
  rw [size, Buffer.slice_append, header, Buffer.slice_blit_apart _ _ _ _ _ (Or.inr (by rw [serialize_length])), ← rest]

theorem link_previous_spec (g : Geometry) (ring : RingParams) (shaped : Shaped g ring) (journal : Journal) (start : Nat)
    (packet : RingPacket) (low : oldest g.count (journal.written + 1) ≤ start)
    (slots : ∀ i, start ≤ i → i < journal.written → ring.dataBuffer.slice (g.base + g.place i) g.slot =
      (journal.header g i).serialize ++ (journal.entry i).body)
    (survive : ∀ i, start ≤ i → i < journal.written → Survives (journal.streamId i))
    (offsets : ∀ i, start ≤ i → i < journal.written → (journal.packet i).offset = g.offsetAt i)
    (stream : RingStream) (isStream : stream = (journal.streamFrom start packet.streamId).getD (freshStream packet)) :
    ∃ buffer, RingBuffer.linkPrevious ring stream packet = some { ring with dataBuffer := buffer } ∧
      buffer.length = ring.dataBuffer.length ∧
      buffer.slice (g.base + g.place journal.written) g.slot = ring.dataBuffer.slice (g.base + g.place journal.written) g.slot ∧
      ∀ i, start ≤ i → i < journal.written → buffer.slice (g.base + g.place i) g.slot =
        (if journal.next i = none ∧ journal.streamId i = packet.streamId then
          { journal.header g i with nextInStream := packet.offset } else journal.header g i).serialize ++
            (journal.entry i).body := by
  rcases journal.stream_from_cases start packet.streamId with ⟨absent, nowhere⟩ | ⟨first, last, isFirst, isLast, present⟩
  · refine ⟨ring.dataBuffer, ?_, rfl, rfl, fun i above below => ?_⟩
    · have none : ¬ stream.latestOffset ≥ 0 := by
        rw [isStream, absent]
        exact (by decide : ¬ (-1 : Int64) ≥ 0)
      rw [RingBuffer.linkPrevious, if_neg none]
    · rw [if_neg (fun both => nowhere i above below both.2)]
      exact slots i above below
  · obtain ⟨above, below, same, _⟩ := (last_in_some _ _ _ _).mp isLast
    have latest : stream.latestOffset = g.offsetAt last := by
      rw [isStream, present]
      exact offsets last above below
    have previous := read_slot g ring shaped last _ _ (slots last above below) (survive last above below)
    have fits : ∀ packet : RingPacket, packet.serialize.length ≤ g.slot := by
      intro packet
      have lengths := congrArg List.length (slots last above below)
      simp only [Buffer.slice_length, List.length_append, serialize_length] at lengths ⊢
      omega
    refine ⟨ring.dataBuffer.blit (g.base + g.place last) { journal.header g last with nextInStream := packet.offset }.serialize,
      ?_, rfl, ?_, fun i aboveI belowI => ?_⟩
    · rw [RingBuffer.linkPrevious, latest, if_pos (g.offset_at_nonneg last), previous]
      exact copy_to_slot g ring shaped last _ (fits _)
    · exact slice_other_slot g _ _ _ _ (fits _) (Ne.symm (slot_fresh g.count journal.written last (by omega) below))
    · by_cases here : i = last
      · subst here
        rw [if_pos ((journal.last_iff_next start i packet.streamId above below).mp isLast)]
        exact slice_header g _ i _ _ _ (slots i above below)
      · have notLast : ¬ (journal.next i = none ∧ journal.streamId i = packet.streamId) := by
          intro both
          have again := (journal.last_iff_next start i packet.streamId aboveI belowI).mpr both
          exact here (Option.some.inj (again.symm.trans isLast))
        have apart : i % g.count ≠ last % g.count := by
          intro equal
          exact here (slot_injective g.count (journal.written + 1) i last (by omega) (by omega) (by omega) (by omega) equal)
        rw [if_neg notLast, slice_other_slot g _ _ _ _ (fits _) apart]
        exact slots i aboveI belowI

structure SameSetup (old new : RingParams) : Prop where
  signature : new.signature = old.signature
  version : new.version = old.version
  ringSize : new.ringSize = old.ringSize
  pktSize : new.pktSize = old.pktSize
  maxPackets : new.maxPackets = old.maxPackets
  maxOffset : new.maxOffset = old.maxOffset
  headerSize : new.headerSize = old.headerSize
  corruptFlag : new.corruptFlag = old.corruptFlag
  volatileFlag : new.volatileFlag = old.volatileFlag
  dataOffset : new.dataOffset = old.dataOffset
  length : new.dataBuffer.length = old.dataBuffer.length

theorem same_setup_refl (ring : RingParams) : SameSetup ring ring :=
  ⟨rfl, rfl, rfl, rfl, rfl, rfl, rfl, rfl, rfl, rfl, rfl⟩

theorem same_setup_trans (first second third : RingParams) (before : SameSetup first second) (after : SameSetup second third) :
    SameSetup first third :=
  ⟨after.signature.trans before.signature, after.version.trans before.version, after.ringSize.trans before.ringSize,
    after.pktSize.trans before.pktSize, after.maxPackets.trans before.maxPackets, after.maxOffset.trans before.maxOffset,
    after.headerSize.trans before.headerSize, after.corruptFlag.trans before.corruptFlag,
    after.volatileFlag.trans before.volatileFlag, after.dataOffset.trans before.dataOffset, after.length.trans before.length⟩

def Journal.stamp (journal : Journal) (g : Geometry) (clock : NsTime) (packet : RingPacket) : RingPacket :=
  { packet with
    pktId := if packet.pktId = Constants.ringIdNone then
        (if journal.written = 0 then 1 else RingBuffer.nextPktId (journal.packet (journal.written - 1)))
      else packet.pktId
    offset := g.offsetAt journal.written
    pktTime := clock
    nextInStream := -1 }

theorem shaped_of_same (g : Geometry) (old new : RingParams) (same : SameSetup old new) (shaped : Shaped g old) : Shaped g new :=
  ⟨by rw [same.pktSize]; exact shaped.pktSize, by rw [same.maxOffset]; exact shaped.maxOffset,
    by rw [same.dataOffset]; exact shaped.dataOffset, by rw [same.length]; exact shaped.length⟩

theorem slot_span_length (slot : Nat) (packet : RingPacket) (packetData : List UInt8) (dataSize : UInt32)
    (fits : dataSize.toNat + 112 ≤ slot) : (packet.serialize ++ slotBody slot packetData dataSize).length = slot := by
  have body := slot_body_length slot packetData dataSize fits
  rw [List.length_append, serialize_length]
  omega

structure Filled (copy : RingParams) (first : Bool) (packet : RingPacket) (filled : RingParams) : Prop where
  setup : SameSetup copy filled
  dataBuffer : filled.dataBuffer = copy.dataBuffer
  streamIdx : filled.streamIdx = copy.streamIdx
  streamCount : filled.streamCount = copy.streamCount
  latest : filled.latestOffset = packet.offset
  earliest : filled.earliestOffset = if first then packet.offset else copy.earliestOffset

theorem fill_ends (copy : RingParams) (first : Bool) (packet : RingPacket) : Filled copy first packet
    (if first = true then RingBuffer.setEarliest (RingBuffer.setLatest copy packet) packet else RingBuffer.setLatest copy packet) := by
  cases first with
  | true => exact ⟨⟨rfl, rfl, rfl, rfl, rfl, rfl, rfl, rfl, rfl, rfl, rfl⟩, rfl, rfl, rfl, rfl, rfl⟩
  | false => exact ⟨⟨rfl, rfl, rfl, rfl, rfl, rfl, rfl, rfl, rfl, rfl, rfl⟩, rfl, rfl, rfl, rfl, rfl⟩

theorem fill_bounds (copy : RingParams) (first : Bool) (packet : RingPacket) (filled : RingParams)
    (isFilled : (if first = true then RingBuffer.setEarliest (RingBuffer.setLatest copy packet) packet
      else RingBuffer.setLatest copy packet) = filled) :
    latestOf filled = boundOf packet ∧ earliestOf filled = if first then boundOf packet else earliestOf copy := by
  rw [← isFilled]
  cases first with
  | true => exact ⟨rfl, rfl⟩
  | false => exact ⟨rfl, rfl⟩

def withSlot (ring : RingParams) (place : Nat) (bytes : List UInt8) : RingParams :=
  { ring with dataBuffer := ring.dataBuffer.blit place bytes }

theorem placed_setup (ring : RingParams) (tree : RBTree Text RingStream) (count : UInt32) (place : Nat) (bytes : List UInt8) :
    SameSetup ring (withSlot (withIndex ring tree count) place bytes) :=
  ⟨rfl, rfl, rfl, rfl, rfl, rfl, rfl, rfl, rfl, rfl, rfl⟩

theorem store_linked (g : Geometry) (ring cleared : RingParams) (earliest latest : Option RingPacket) (packet : RingPacket)
    (packetData : List UInt8) (dataSize : UInt32) (fits : dataSize.toNat + 112 ≤ g.slot) (i : Nat) (offset : packet.offset = g.offsetAt i)
    (removed : RingBuffer.makeRoom ring earliest latest packet = some cleared) (shaped : Shaped g cleared)
    (tree : RBTree Text RingStream) (count : UInt32) (node : NodeId) (stream : RingStream)
    (added : RingBuffer.addStream cleared packet = some (withIndex cleared tree count, node, stream)) :
    ∃ ended, Filled (withSlot (withIndex cleared tree count) (g.base + g.place i) (packet.serialize ++ slotBody g.slot packetData dataSize))
        earliest.isNone packet ended ∧
      latestOf ended = boundOf packet ∧ (earliestOf ended = if earliest.isNone then boundOf packet else earliestOf cleared) ∧
      RingBuffer.store ring earliest latest packet packetData dataSize = (RingBuffer.linkPrevious ended stream packet).map fun ring =>
        { ring with streamIdx := ring.streamIdx.setData node (stream.extend packet), fluxFlag := 0 } := by
  have small : g.slot < 2 ^ 31 := by
    have room := g.place_room 0
    have bound := g.small
    omega
  have spanned : RingBuffer.packetSpan (withIndex cleared tree count).pktSize packet packetData dataSize =
      some (packet.serialize ++ slotBody g.slot packetData dataSize) := by
    have span := packet_span_spec cleared.pktSize packet packetData dataSize (by rw [shaped.pktSize]; exact fits)
      (by rw [shaped.pktSize]; exact small)
    rw [shaped.pktSize] at span
    exact span
  have indexed : Shaped g (withIndex cleared tree count) := ⟨shaped.pktSize, shaped.maxOffset, shaped.dataOffset, shaped.length⟩
  have copied : RingBuffer.copyTo (withIndex cleared tree count) (RingBuffer.bufOffset (withIndex cleared tree count) packet.offset)
      (packet.serialize ++ slotBody g.slot packetData dataSize) = some (withSlot (withIndex cleared tree count) (g.base + g.place i)
        (packet.serialize ++ slotBody g.slot packetData dataSize)) := by
    rw [offset]
    exact copy_to_slot g _ indexed i _ (le_of_eq (slot_span_length g.slot packet packetData dataSize fits))
  have same : earliestOf (withSlot (withIndex cleared tree count) (g.base + g.place i)
      (packet.serialize ++ slotBody g.slot packetData dataSize)) = earliestOf cleared := rfl
  rw [← same]
  generalize withSlot (withIndex cleared tree count) (g.base + g.place i) (packet.serialize ++ slotBody g.slot packetData dataSize) = copy
    at copied ⊢
  have bounds := fill_bounds copy earliest.isNone packet _ rfl
  refine ⟨_, fill_ends copy earliest.isNone packet, bounds.1, bounds.2, ?_⟩
  rw [RingBuffer.store, removed, Option.bind_eq_bind, Option.bind_some, added, Option.bind_eq_bind, Option.bind_some]
  dsimp only
  rw [spanned, Option.bind_eq_bind, Option.bind_some, copied, Option.bind_some, Option.map_eq_bind]
  rfl

theorem append_resident (g : Geometry) (journal : Journal) (entry : Entry) (i : Nat) (resident : (journal.append entry).Resident g i) :
    i = journal.written ∨ (oldest g.count (journal.written + 1) ≤ i ∧ i < journal.written) := by
  have above : oldest g.count (journal.written + 1) ≤ i := resident.1
  have below : i < journal.written + 1 := resident.2
  omega

structure Cleared (g : Geometry) (ring : RingParams) (journal : Journal) (start : Nat) : Prop where
  shaped : Shaped g ring
  startIs : start = oldest g.count (journal.written + 1)
  earliest : journal.written ≠ 0 → earliestOf ring = boundOf (journal.packet start)
  slots : ∀ i, start ≤ i → i < journal.written → ring.dataBuffer.slice (g.base + g.place i) g.slot =
    (journal.header g i).serialize ++ (journal.entry i).body
  survive : ∀ i, start ≤ i → i < journal.written → Survives (journal.streamId i)
  offsets : ∀ i, start ≤ i → i < journal.written → (journal.packet i).offset = g.offsetAt i
  index : ∃ whole, RBTree.Index ring.streamIdx whole (journal.streamFrom start) ∧
    ring.streamCount = UInt32.ofNat whole.labels.length

theorem clear_spec (g : Geometry) (ring : RingParams) (journal : Journal) (holds : Holds g ring journal) (slots : 0 < g.slot)
    (packet : RingPacket) (offset : packet.offset = g.offsetAt journal.written) :
    ∃ cleared, RingBuffer.makeRoom ring (if journal.written = 0 then none else some (journal.header g (journal.low g)))
        (if journal.written = 0 then none else some (journal.header g (journal.written - 1))) packet = some cleared ∧
      SameSetup ring cleared ∧ Cleared g cleared journal (oldest g.count (journal.written + 1)) := by
  have positive := g.positive
  by_cases full : g.count ≤ journal.written
  · have some : journal.written ≠ 0 := by omega
    have lowIs : oldest g.count (journal.written + 1) = journal.low g + 1 := oldest_full g.count journal.written full
    obtain ⟨tree, count, whole, removed, index, counted⟩ := remove_earliest_spec g ring journal holds full
    have earliestOffset : ring.earliestOffset = g.offsetAt (journal.low g) := by
      have bound := congrArg Bound.offset holds.earliest
      rw [if_neg some] at bound
      exact bound.trans (holds.offsets _ ⟨Nat.le_refl _, by simp only [Journal.low, oldest]; omega⟩)
    have same : packet.offset = ring.earliestOffset := by
      rw [offset, earliestOffset]
      exact g.offset_at_congr _ _ (slot_reused g.count journal.written full)
    rw [lowIs]
    refine ⟨withEarliest (withIndex ring tree count) (boundOf (journal.packet (journal.low g + 1))), ?_,
      ⟨rfl, rfl, rfl, rfl, rfl, rfl, rfl, rfl, rfl, rfl, rfl⟩, ⟨?_, lowIs.symm, fun _ => rfl, ?_, ?_, ?_, ⟨whole, index, counted⟩⟩⟩
    · simp only [RingBuffer.makeRoom, if_neg some, Option.isSome_some, true_and, if_pos same]
      exact removed
    · exact ⟨holds.shaped.pktSize, holds.shaped.maxOffset, holds.shaped.dataOffset, holds.shaped.length⟩
    · exact fun i above below => holds.slots i ⟨by omega, below⟩
    · exact fun i above below => holds.survive i ⟨by omega, below⟩
    · exact fun i above below => holds.offsets i ⟨by omega, below⟩
  · obtain ⟨oldLow, newLow⟩ := oldest_filling g.count journal.written (by omega)
    have lowIs : journal.low g = 0 := oldLow
    rw [newLow]
    refine ⟨ring, ?_, ⟨rfl, rfl, rfl, rfl, rfl, rfl, rfl, rfl, rfl, rfl, rfl⟩, ⟨holds.shaped, newLow.symm, fun some => ?_,
      fun i above below => holds.slots i ⟨by omega, below⟩, fun i above below => holds.survive i ⟨by omega, below⟩,
      fun i above below => holds.offsets i ⟨by omega, below⟩, ?_⟩⟩
    · by_cases none : journal.written = 0
      · simp only [RingBuffer.makeRoom, if_pos none]
      · have apart : ¬ packet.offset = ring.earliestOffset := by
          have bound := congrArg Bound.offset holds.earliest
          rw [if_neg none, lowIs] at bound
          have earliestOffset : ring.earliestOffset = g.offsetAt 0 := bound.trans (holds.offsets 0 ⟨by omega, by omega⟩)
          rw [offset, earliestOffset]
          refine g.offset_at_ne _ _ slots ?_
          rw [Nat.mod_eq_of_lt (by omega), Nat.zero_mod]
          exact none
        simp only [RingBuffer.makeRoom, if_neg none, Option.isSome_some, true_and, if_neg apart]
    · rw [holds.earliest, if_neg some, lowIs]
    · rw [← lowIs]
      exact holds.index

theorem extended_streams (journal : Journal) (entry : Entry) (start : Nat) (ordered : start ≤ journal.written) (stream : RingStream)
    (isStream : stream = (journal.streamFrom start entry.packet.streamId).getD (freshStream entry.packet)) :
    RBTree.assign (RBTree.assign (journal.streamFrom start) entry.packet.streamId (some stream)) entry.packet.streamId
      (some (stream.extend entry.packet)) = (journal.append entry).streamFrom start := by
  funext streamId
  by_cases same : streamId = entry.packet.streamId
  · subst same
    have fresh (found : Option RingStream) : (found.getD (freshStream entry.packet)).extend entry.packet =
        (found.getD (streamOf entry.packet.streamId entry.packet entry.packet)).extend entry.packet := by
      cases found <;> rfl
    rw [RBTree.assign_self, isStream, fresh, ← journal.append_stream_same entry _ ordered]
  · rw [RBTree.assign_other _ _ _ _ same, RBTree.assign_other _ _ _ _ same, journal.append_stream_other entry _ _ ordered (Ne.symm same)]

theorem append_earliest (g : Geometry) (journal : Journal) (entry : Entry) (cleared : RingParams)
    (earliest : journal.written ≠ 0 → earliestOf cleared = boundOf (journal.packet (oldest g.count (journal.written + 1)))) :
    (if journal.written = 0 then boundOf entry.packet else earliestOf cleared) =
      boundOf ((journal.append entry).packet ((journal.append entry).low g)) := by
  have lowNow : (journal.append entry).low g = oldest g.count (journal.written + 1) := rfl
  have two := g.two
  rw [lowNow]
  by_cases none : journal.written = 0
  · have start : oldest g.count (journal.written + 1) = journal.written := by
      simp only [oldest]
      omega
    rw [if_pos none, start, journal.append_packet_new entry]
  · have low : oldest g.count (journal.written + 1) < journal.written := by
      simp only [oldest]
      omega
    rw [if_neg none, journal.append_packet_old entry _ low, earliest none]

theorem store_spec (g : Geometry) (ring : RingParams) (journal : Journal) (holds : Holds g ring journal) (packet : RingPacket)
    (packetData : List UInt8) (dataSize : UInt32) (fits : dataSize.toNat + 112 ≤ g.slot) (survives : Survives packet.streamId)
    (offset : packet.offset = g.offsetAt journal.written) (unlinked : packet.nextInStream = -1) :
    ∃ ring', RingBuffer.store ring (if journal.written = 0 then none else some (journal.header g (journal.low g)))
        (if journal.written = 0 then none else some (journal.header g (journal.written - 1))) packet packetData dataSize =
        some ring' ∧ SameSetup ring ring' ∧ ring'.fluxFlag = 0 ∧
      Holds g ring' (journal.append ⟨packet, slotBody g.slot packetData dataSize⟩) := by
  obtain ⟨cleared, removed, setup, clear⟩ := clear_spec g ring journal holds (by omega) packet offset
  obtain ⟨whole, index, count⟩ := clear.index
  obtain ⟨tree, count', whole', node, stream, added, index', member, key, counted, isStream⟩ :=
    add_stream_spec cleared whole _ packet index count
  obtain ⟨ended, filled, atLatest, atEarliest, linkedFrom⟩ := store_linked g ring cleared _ _ packet packetData dataSize fits
    journal.written offset removed clear.shaped tree count' node stream added
  have spanLength := slot_span_length g.slot packet packetData dataSize fits
  have isNone : (if journal.written = 0 then none else some (journal.header g (journal.low g))).isNone = decide (journal.written = 0) := by
    by_cases none : journal.written = 0
    · rw [if_pos none, decide_eq_true none]
      rfl
    · rw [if_neg none, decide_eq_false none]
      rfl
  rw [isNone] at atEarliest
  simp only [decide_eq_true_eq] at atEarliest
  have endedSetup := same_setup_trans _ _ _ (placed_setup cleared tree count' _ _) filled.setup
  have startLe : oldest g.count (journal.written + 1) ≤ journal.written := by
    have positive := g.positive
    simp only [oldest]
    omega
  have endedSlots : ∀ i, oldest g.count (journal.written + 1) ≤ i → i < journal.written →
      ended.dataBuffer.slice (g.base + g.place i) g.slot = (journal.header g i).serialize ++ (journal.entry i).body := by
    intro i above below
    rw [filled.dataBuffer]
    have apart := slot_fresh g.count journal.written i above below
    exact (slice_other_slot g cleared.dataBuffer i journal.written _ (le_of_eq spanLength) apart).trans (clear.slots i above below)
  have endedHere : ended.dataBuffer.slice (g.base + g.place journal.written) g.slot =
      packet.serialize ++ slotBody g.slot packetData dataSize := by
    have same := Buffer.slice_blit_same cleared.dataBuffer (g.base + g.place journal.written)
      (packet.serialize ++ slotBody g.slot packetData dataSize)
    rw [spanLength] at same
    rw [filled.dataBuffer]
    exact same
  obtain ⟨buffer, linked, bufferLength, bufferHere, bufferSlots⟩ := link_previous_spec g ended
    (shaped_of_same g _ _ endedSetup clear.shaped) journal _ packet (Nat.le_refl _) endedSlots clear.survive clear.offsets
    stream isStream
  have linkSetup : SameSetup ended { ended with
      dataBuffer := buffer, streamIdx := ended.streamIdx.setData node (stream.extend packet), fluxFlag := 0 } :=
    ⟨rfl, rfl, rfl, rfl, rfl, rfl, rfl, rfl, rfl, rfl, bufferLength⟩
  have setup' := same_setup_trans _ _ _ (same_setup_trans _ _ _ setup endedSetup) linkSetup
  generalize isEntry : (⟨packet, slotBody g.slot packetData dataSize⟩ : Entry) = entry
  have isPacket : entry.packet = packet := by rw [← isEntry]
  have isBody : entry.body = slotBody g.slot packetData dataSize := by rw [← isEntry]
  have nonempty : ¬ (journal.append entry).written = 0 := Nat.succ_ne_zero _
  refine ⟨_, by rw [linkedFrom, linked, Option.map_some], setup', rfl, shaped_of_same g _ _ setup' holds.shaped, ?_, ?_,
    fun i resident => ?_, fun i resident => ?_, fun i resident => ?_, ?_⟩
  · rw [if_neg nonempty, ← append_earliest g journal entry cleared clear.earliest, isPacket]
    exact atEarliest
  · have last : (journal.append entry).written - 1 = journal.written := rfl
    rw [if_neg nonempty, last, journal.append_packet_new entry, isPacket]
    exact atLatest
  · cases append_resident g journal entry i resident with
    | inl new =>
        have same : { entry.packet with nextInStream := -1 } = packet := by
          rw [isPacket, ← unlinked]
        rw [new, journal.append_header_new g entry, journal.append_entry_new entry, same, isBody]
        exact bufferHere.trans endedHere
    | inr old =>
        rw [journal.append_header_old g entry i old.2, journal.append_entry_old entry i old.2, ← offset, isPacket]
        exact bufferSlots i old.1 old.2
  · cases append_resident g journal entry i resident with
    | inl new =>
        rw [new, journal.append_packet_new entry, isPacket]
        exact offset
    | inr old =>
        rw [journal.append_packet_old entry i old.2]
        exact clear.offsets i old.1 old.2
  · cases append_resident g journal entry i resident with
    | inl new =>
        rw [new, journal.append_stream_id_new entry, isPacket]
        exact survives
    | inr old =>
        rw [journal.append_stream_id_old entry i old.2]
        exact clear.survive i old.1 old.2
  · have isTree : ended.streamIdx = tree := filled.streamIdx
    have final := RBTree.index_set_data tree whole' _ node packet.streamId (stream.extend packet) index' member key
    have contents := extended_streams journal entry _ startLe stream (by rw [isPacket]; exact isStream)
    have lowNow : (journal.append entry).low g = oldest g.count (journal.written + 1) := rfl
    rw [isPacket] at contents
    rw [← isTree, contents] at final
    rw [lowNow]
    exact ⟨whole', final, filled.streamCount.trans counted⟩

end RingServer
