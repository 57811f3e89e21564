import RingServer.Ring.Run
import RingServer.Ring.StreamFile

set_option autoImplicit false

namespace RingServer

open Library

theorem plain_survives (streamId : Text) (plain : Plain streamId) : Survives streamId := by
  have fits := plain.length
  have size : Constants.maxStreamId = 60 := rfl
  have field : RingPacket.putStreamId streamId = encodeASCII (streamId ++ List.replicate (60 - streamId.length) (Char.ofNat 0)) := by
    have padding : encodeASCII (List.replicate (60 - streamId.length) (Char.ofNat 0)) = List.replicate (60 - streamId.length) 0 :=
      encode_nul _
    rw [RingPacket.putStreamId, encode_length, size, Nat.min_eq_left fits, List.take_of_length_le (by simp), ← padding]
    exact List.map_append.symm
  have ascii : ∀ c ∈ streamId ++ List.replicate (60 - streamId.length) (Char.ofNat 0), c.toNat < 128 := by
    intro c member
    cases List.mem_append.mp member with
    | inl inside => exact plain.ascii c inside
    | inr padding =>
        rw [(List.mem_replicate.mp padding).2]
        decide
  have whole : (encodeASCII (streamId ++ List.replicate (60 - streamId.length) (Char.ofNat 0))).length ≤ 60 := by
    rw [encode_length, List.length_append, List.length_replicate]
    omega
  have rest : (List.replicate (60 - streamId.length) (Char.ofNat 0)).takeWhile (· ≠ Char.ofNat 0) = [] := by
    cases 60 - streamId.length with
    | zero => rfl
    | succ count => rw [List.replicate_succ, List.takeWhile_cons_of_neg (by decide)]
  rw [Survives, RingPacket.getStreamId, field, size, List.take_of_length_le whole, decode_encode _ ascii, untilNul,
    List.takeWhile_append_of_pos (fun c member => decide_eq_true (plain.noNul c member)), rest, List.append_nil]

theorem stored_survives (streamId : Text) : Survives (storedId streamId) := by
  have sublist := List.takeWhile_sublist (fun c => decide (c ≠ Char.ofNat 0))
    (l := decodeASCII ((RingPacket.putStreamId streamId).take Constants.maxStreamId))
  apply plain_survives
  refine ⟨?_, fun c member => decode_small _ c (sublist.subset member), fun c member => ?_⟩
  · have shorter := sublist.length_le
    rw [decodeASCII, List.length_map, List.length_take] at shorter
    exact shorter.trans (Nat.min_le_left _ _)
  · simpa using List.mem_takeWhile_imp member

-- A header in a slot: the packet as it was written, but for the link and for the
-- text of its stream ID.
structure HeaderOf (packet header : RingPacket) : Prop where
  fields : header = { packet with nextInStream := header.nextInStream, streamId := header.streamId }
  streamId : storedId header.streamId = storedId packet.streamId

def SlotKeeps (g : Geometry) (buffer : Buffer) (journal : Journal) (i : Nat) : Prop :=
  ∃ header, HeaderOf (journal.packet i) header ∧
    buffer.slice (g.base + g.place i) g.slot = header.serialize ++ (journal.entry i).body

def Indexed (g : Geometry) (ring : RingParams) (written : Nat) : Prop :=
  ∃ whole contents, RBTree.Index ring.streamIdx whole contents ∧ ring.streamCount = UInt32.ofNat whole.labels.length ∧
    ∀ streamId stream, contents streamId = some stream → ∃ i, i < written ∧ stream.latestOffset = g.offsetAt i

-- What Write keeps for stream IDs of any text and packet IDs of any value.
structure Keeps (g : Geometry) (ring : RingParams) (journal : Journal) : Prop where
  shaped : Shaped g ring
  earliest : ring.earliestOffset = if journal.written = 0 then -1 else g.offsetAt (journal.low g)
  latest : ring.latestOffset = if journal.written = 0 then -1 else g.offsetAt (journal.written - 1)
  slots : ∀ i, journal.Resident g i → SlotKeeps g ring.dataBuffer journal i
  offsets : ∀ i, journal.Resident g i → (journal.packet i).offset = g.offsetAt i
  index : Indexed g ring journal.written

inductive Ends (g : Geometry) (journal : Journal) : Option RingPacket → Option RingPacket → Prop
  | empty (isEmpty : journal.written = 0) : Ends g journal none none
  | packets (earliest latest : RingPacket) (nonempty : journal.written ≠ 0)
    (isEarliest : HeaderOf (journal.packet (journal.low g)) earliest)
      (isLatest : HeaderOf (journal.packet (journal.written - 1)) latest) : Ends g journal (some earliest) (some latest)

theorem header_of_self (packet : RingPacket) : HeaderOf packet packet := ⟨rfl, rfl⟩

theorem HeaderOf.offset {packet header : RingPacket} (isHeader : HeaderOf packet header) : header.offset = packet.offset := by
  rw [isHeader.fields]

theorem HeaderOf.pktId {packet header : RingPacket} (isHeader : HeaderOf packet header) : header.pktId = packet.pktId := by
  rw [isHeader.fields]

theorem slot_keeps_size (g : Geometry) (buffer : Buffer) (journal : Journal) (i : Nat) (kept : SlotKeeps g buffer journal i) :
    112 ≤ g.slot := by
  obtain ⟨header, _, slot⟩ := kept
  have lengths := congrArg List.length slot
  simp only [Buffer.slice_length, List.length_append, serialize_length] at lengths
  omega

theorem read_kept (g : Geometry) (ring : RingParams) (shaped : Shaped g ring) (journal : Journal) (i : Nat)
    (kept : SlotKeeps g ring.dataBuffer journal i) : ∃ header, RingBuffer.readPacketAtOffset ring (g.offsetAt i) = some header ∧
      HeaderOf (journal.packet i) header ∧ header.streamId = storedId (journal.streamId i) := by
  have size := slot_keeps_size g _ journal i kept
  obtain ⟨header, isHeader, slot⟩ := kept
  have bytes : ring.dataBuffer.slice (g.base + g.place i) 112 = header.serialize := by
    rw [← Buffer.slice_take _ _ _ _ size, slot, List.take_left' (serialize_length header)]
  have decoded := deserialize_stored header []
  rw [List.append_nil] at decoded
  have again : storedId (storedId header.streamId) = storedId header.streamId := stored_survives header.streamId
  refine ⟨{ header with streamId := storedId header.streamId }, ?_, ⟨?_, again.trans isHeader.streamId⟩, isHeader.streamId⟩
  · rw [read_packet_slice g ring shaped i size, bytes, decoded]
  · rw [isHeader.fields]

theorem ends_kept (g : Geometry) (ring : RingParams) (journal : Journal) (keeps : Keeps g ring journal) :
    Ends g journal (if ring.earliestOffset ≥ 0 then RingBuffer.readPacketAtOffset ring ring.earliestOffset else none)
      (if ring.latestOffset ≥ 0 then RingBuffer.readPacketAtOffset ring ring.latestOffset else none) := by
  have positive := g.positive
  by_cases empty : journal.written = 0
  · have none : ¬ (-1 : Int64) ≥ 0 := by decide
    rw [keeps.earliest, keeps.latest, if_pos empty, if_pos empty, if_neg none]
    exact .empty empty
  · have residentLow : journal.Resident g (journal.low g) := ⟨Nat.le_refl _, by simp only [Journal.low, oldest]; omega⟩
    have residentLast : journal.Resident g (journal.written - 1) := ⟨by simp only [Journal.low, oldest]; omega, by omega⟩
    obtain ⟨earliest, readEarliest, isEarliest, _⟩ := read_kept g ring keeps.shaped journal _ (keeps.slots _ residentLow)
    obtain ⟨latest, readLatest, isLatest, _⟩ := read_kept g ring keeps.shaped journal _ (keeps.slots _ residentLast)
    rw [keeps.earliest, keeps.latest, if_neg empty, if_neg empty, if_pos (g.offset_at_nonneg _), if_pos (g.offset_at_nonneg _),
      readEarliest, readLatest]
    exact .packets earliest latest empty isEarliest isLatest

theorem del_stream_spec (ring : RingParams) (whole : ColorTree NodeId) (contents : Text → Option RingStream) (streamId : Text)
    (stream : RingStream) (index : RBTree.Index ring.streamIdx whole contents) (present : contents streamId = some stream) :
    ∃ tree whole', RingBuffer.delStreamIdx ring streamId = some { ring with streamIdx := tree } ∧
      RBTree.Index tree whole' (RBTree.assign contents streamId none) ∧ whole.labels.length = whole'.labels.length + 1 := by
  cases RBTree.index_find ring.streamIdx whole contents streamId index with
  | inl missing =>
      rw [missing.2] at present
      cases present
  | inr found =>
      obtain ⟨node, data, isFound, member, stored, _⟩ := found
      obtain ⟨tree, whole', deleted, index', order⟩ := RBTree.index_delete ring.streamIdx whole contents node streamId index member stored.1
      refine ⟨tree, whole', ?_, index', ?_⟩
      · simp only [RingBuffer.delStreamIdx, isFound, Option.bind_eq_bind, Option.bind_some, deleted, Option.map_some]
      · rw [order.length_eq, List.length_cons]

theorem remove_keeps (g : Geometry) (ring : RingParams) (journal : Journal) (keeps : Keeps g ring journal)
    (full : g.count ≤ journal.written) (header : RingPacket) (isHeader : HeaderOf (journal.packet (journal.low g)) header) :
    ∃ tree count bound, RingBuffer.removeEarliest ring header = some (withEarliest (withIndex ring tree count) bound) ∧
      bound.offset = g.offsetAt (journal.low g + 1) ∧ Indexed g (withIndex ring tree count) journal.written := by
  have two := g.two
  have lowIs : journal.low g = journal.written - g.count := rfl
  have residentLow : journal.Resident g (journal.low g) := ⟨Nat.le_refl _, by omega⟩
  have residentNext : journal.Resident g (journal.low g + 1) := ⟨by omega, by omega⟩
  obtain ⟨next, readNext, isNext, _⟩ := read_kept g ring keeps.shaped journal _ (keeps.slots _ residentNext)
  have nextRead : RingBuffer.readPacketAtOffset ring (RingBuffer.nextOffset header.offset ring.maxOffset ring.pktSize) = some next := by
    rw [isHeader.offset, keeps.offsets _ residentLow, next_offset_at g ring keeps.shaped, readNext]
  have nextOffset : next.offset = g.offsetAt (journal.low g + 1) := isNext.offset.trans (keeps.offsets _ residentNext)
  obtain ⟨whole, contents, index, count, latest⟩ := keeps.index
  have unchanged : Indexed g (withIndex ring ring.streamIdx ring.streamCount) journal.written := ⟨whole, contents, index, count, latest⟩
  cases get_stream_idx_spec ring whole contents index header.streamId with
  | inl missing =>
      refine ⟨ring.streamIdx, ring.streamCount, boundOf next, ?_, nextOffset, unchanged⟩
      simp only [RingBuffer.removeEarliest, nextRead, missing.1, Option.bind_eq_bind, Option.bind_some, Option.elim_some]
      rfl
  | inr found =>
      obtain ⟨node, stream, isFound, member, stored, present⟩ := found
      by_cases alone : header.offset = stream.earliestOffset ∧ header.offset = stream.latestOffset
      · obtain ⟨tree, whole', deleted, index', fewer⟩ := del_stream_spec (withEarliest ring (boundOf next)) whole contents
          header.streamId stream index present
        refine ⟨tree, ring.streamCount - 1, boundOf next, ?_, nextOffset, whole', _, index', ?_, fun streamId other isOther => ?_⟩
        · simp only [RingBuffer.removeEarliest, nextRead, isFound, Option.bind_eq_bind, Option.bind_some, Option.elim_some, if_pos alone]
          exact congrArg (Option.map fun ring : RingParams => { ring with streamCount := ring.streamCount - 1 }) deleted
        · show ring.streamCount - 1 = _
          rw [count, fewer, count_pred]
        · by_cases same : streamId = header.streamId
          · rw [same, RBTree.assign_self] at isOther
            cases isOther
          · rw [RBTree.assign_other _ _ _ _ same] at isOther
            exact latest streamId other isOther
      · cases link : (if header.nextInStream ≥ 0 then RingBuffer.readPacketAtOffset ring header.nextInStream else none) with
        | none =>
            refine ⟨ring.streamIdx, ring.streamCount, boundOf next, ?_, nextOffset, unchanged⟩
            simp only [RingBuffer.removeEarliest, nextRead, isFound, link, Option.bind_eq_bind, Option.bind_some, Option.elim_some,
              if_neg alone]
            rfl
        | some following =>
            let stream' : RingStream := { stream with
              earliestDsTime := following.dataStart
              earliestDeTime := following.dataEnd
              earliestPTime := following.pktTime
              earliestId := following.pktId
              earliestOffset := following.offset }
            have index' := RBTree.index_set_data ring.streamIdx whole contents node header.streamId stream' index member stored.1
            refine ⟨ring.streamIdx.setData node stream', ring.streamCount, boundOf next, ?_, nextOffset, whole, _, index', count,
              fun streamId other isOther => ?_⟩
            · simp only [RingBuffer.removeEarliest, nextRead, isFound, link, Option.bind_eq_bind, Option.bind_some, Option.elim_some,
                if_neg alone]
              rfl
            · by_cases same : streamId = header.streamId
              · rw [same, RBTree.assign_self] at isOther
                obtain rfl := Option.some.inj isOther
                exact latest header.streamId stream present
              · rw [RBTree.assign_other _ _ _ _ same] at isOther
                exact latest streamId other isOther

theorem clear_keeps (g : Geometry) (ring : RingParams) (journal : Journal) (keeps : Keeps g ring journal) (slots : 0 < g.slot)
    (earliest latest : Option RingPacket) (ends : Ends g journal earliest latest) (packet : RingPacket)
    (offset : packet.offset = g.offsetAt journal.written) :
    ∃ cleared, RingBuffer.makeRoom ring earliest latest packet = some cleared ∧ SameSetup ring cleared ∧
      cleared.dataBuffer = ring.dataBuffer ∧ Indexed g cleared journal.written ∧
      (journal.written ≠ 0 → cleared.earliestOffset = g.offsetAt (oldest g.count (journal.written + 1))) := by
  have positive := g.positive
  have setup : SameSetup ring ring := same_setup_refl ring
  cases ends with
  | empty isEmpty => exact ⟨ring, rfl, setup, rfl, keeps.index, fun nonempty => absurd isEmpty nonempty⟩
  | packets earliest latest nonempty isEarliest isLatest =>
      have atLow : ring.earliestOffset = g.offsetAt (journal.low g) := by rw [keeps.earliest, if_neg nonempty]
      by_cases full : g.count ≤ journal.written
      · obtain ⟨tree, count, bound, removed, next, indexed⟩ := remove_keeps g ring journal keeps full earliest isEarliest
        have same : packet.offset = ring.earliestOffset := by
          rw [offset, atLow]
          exact g.offset_at_congr _ _ (slot_reused g.count journal.written full)
        refine ⟨withEarliest (withIndex ring tree count) bound, ?_, ⟨rfl, rfl, rfl, rfl, rfl, rfl, rfl, rfl, rfl, rfl, rfl⟩, rfl, indexed,
          fun _ => ?_⟩
        · simp only [RingBuffer.makeRoom, Option.isSome_some, true_and, if_pos same]
          exact removed
        · rw [oldest_full g.count journal.written full]
          exact next
      · obtain ⟨oldLow, newLow⟩ := oldest_filling g.count journal.written (by omega)
        have apart : ¬ packet.offset = ring.earliestOffset := by
          have lowIs : journal.low g = 0 := oldLow
          rw [offset, atLow, lowIs]
          apply g.offset_at_ne _ _ slots
          rw [Nat.mod_eq_of_lt (by omega), Nat.zero_mod]
          exact nonempty
        refine ⟨ring, ?_, setup, rfl, keeps.index, fun _ => ?_⟩
        · simp only [RingBuffer.makeRoom, Option.isSome_some, true_and, if_neg apart]
        · rw [atLow, Journal.low, oldLow, newLow]

theorem resident_of_slot (g : Geometry) (journal : Journal) (i : Nat) (written : i < journal.written) :
    ∃ j, journal.Resident g j ∧ g.offsetAt i = g.offsetAt j := by
  have positive := g.positive
  by_cases full : g.count ≤ journal.written
  · have low : journal.low g = journal.written - g.count := rfl
    have bound := Nat.mod_lt (i + (g.count - journal.low g % g.count)) positive
    have lowBound := Nat.mod_lt (journal.low g) positive
    refine ⟨journal.low g + (i + (g.count - journal.low g % g.count)) % g.count, ⟨Nat.le_add_right _ _, by omega⟩,
      g.offset_at_congr _ _ ?_⟩
    have split := Nat.div_add_mod (journal.low g) g.count
    have sum : journal.low g + (i + (g.count - journal.low g % g.count)) = i + g.count * (journal.low g / g.count + 1) := by
      rw [Nat.mul_add, Nat.mul_one]
      omega
    rw [Nat.add_mod_mod, sum, Nat.add_mul_mod_self_left]
  · exact ⟨i, ⟨by simp only [Journal.low, oldest]; omega, written⟩, rfl⟩

theorem link_keeps (g : Geometry) (ring : RingParams) (shaped : Shaped g ring) (journal : Journal)
    (slots : ∀ i, journal.Resident g i → SlotKeeps g ring.dataBuffer journal i) (stream : RingStream) (packet : RingPacket)
    (latest : stream.latestOffset = -1 ∨ ∃ i, i < journal.written ∧ stream.latestOffset = g.offsetAt i) :
    ∃ buffer, RingBuffer.linkPrevious ring stream packet = some { ring with dataBuffer := buffer } ∧
      buffer.length = ring.dataBuffer.length ∧ ∀ i, journal.Resident g i → SlotKeeps g buffer journal i := by
  cases latest with
  | inl none =>
      refine ⟨ring.dataBuffer, ?_, rfl, slots⟩
      rw [RingBuffer.linkPrevious, none, if_neg (by decide)]
  | inr used =>
      obtain ⟨k, written, isSlot⟩ := used
      obtain ⟨j, resident, same⟩ := resident_of_slot g journal k written
      obtain ⟨previous, readPrevious, isPrevious, _⟩ := read_kept g ring shaped journal j (slots j resident)
      have size := slot_keeps_size g _ journal j (slots j resident)
      have fits : ({ previous with nextInStream := packet.offset } : RingPacket).serialize.length ≤ g.slot := by
        rw [serialize_length]
        exact size
      refine ⟨ring.dataBuffer.blit (g.base + g.place j) { previous with nextInStream := packet.offset }.serialize, ?_, rfl,
        fun i residentI => ?_⟩
      · rw [RingBuffer.linkPrevious, isSlot, if_pos (g.offset_at_nonneg k), same, readPrevious]
        exact copy_to_slot g ring shaped j _ fits
      · by_cases here : i = j
        · subst here
          obtain ⟨header, _, slot⟩ := slots i residentI
          refine ⟨{ previous with nextInStream := packet.offset }, ⟨?_, isPrevious.streamId⟩, slice_header g _ i header _ _ slot⟩
          rw [isPrevious.fields]
        · have apart : i % g.count ≠ j % g.count := fun equal =>
            here (slot_injective g.count journal.written i j residentI.1 residentI.2 resident.1 resident.2 equal)
          obtain ⟨header, isHeader, slot⟩ := slots i residentI
          exact ⟨header, isHeader, (slice_other_slot g _ _ _ _ fits apart).trans slot⟩

theorem slot_keeps_append (g : Geometry) (buffer : Buffer) (journal : Journal) (entry : Entry) (i : Nat) (old : i < journal.written)
    (kept : SlotKeeps g buffer journal i) : SlotKeeps g buffer (journal.append entry) i := by
  rw [SlotKeeps, journal.append_packet_old entry i old, journal.append_entry_old entry i old]
  exact kept

theorem store_keeps (g : Geometry) (ring : RingParams) (journal : Journal) (keeps : Keeps g ring journal)
    (earliest latest : Option RingPacket) (ends : Ends g journal earliest latest) (packet : RingPacket) (packetData : List UInt8)
    (dataSize : UInt32) (fits : dataSize.toNat + 112 ≤ g.slot) (offset : packet.offset = g.offsetAt journal.written) :
    ∃ ring', RingBuffer.store ring earliest latest packet packetData dataSize = some ring' ∧ SameSetup ring ring' ∧
      Keeps g ring' (journal.append ⟨packet, slotBody g.slot packetData dataSize⟩) := by
  obtain ⟨cleared, removed, setup, sameBuffer, indexed, start⟩ := clear_keeps g ring journal keeps (by omega) earliest latest ends
    packet offset
  obtain ⟨whole, contents, index, count, slotsUsed⟩ := indexed
  obtain ⟨tree, count', whole', node, stream, added, index', member, key, counted, isStream⟩ :=
    add_stream_spec cleared whole contents packet index count
  have shaped := shaped_of_same g ring cleared setup keeps.shaped
  obtain ⟨ended, filled, _, _, linkedFrom⟩ := store_linked g ring cleared earliest latest packet packetData dataSize fits
    journal.written offset removed shaped tree count' node stream added
  have spanLength := slot_span_length g.slot packet packetData dataSize fits
  have endedSetup := same_setup_trans _ _ _ (placed_setup cleared tree count' _ _) filled.setup
  have endedShaped := shaped_of_same g cleared ended endedSetup shaped
  generalize isEntry : (⟨packet, slotBody g.slot packetData dataSize⟩ : Entry) = entry
  have isPacket : entry.packet = packet := by rw [← isEntry]
  have isBody : entry.body = slotBody g.slot packetData dataSize := by rw [← isEntry]
  have older : ∀ i, oldest g.count (journal.written + 1) ≤ i → i < journal.written → journal.Resident g i := by
    intro i above below
    exact ⟨(oldest_mono g.count _ _ (Nat.le_succ _)).trans above, below⟩
  have endedSlots : ∀ i, (journal.append entry).Resident g i → SlotKeeps g ended.dataBuffer (journal.append entry) i := by
    intro i resident
    rw [filled.dataBuffer]
    cases append_resident g journal entry i resident with
    | inl new =>
        subst new
        have same := Buffer.slice_blit_same cleared.dataBuffer (g.base + g.place journal.written)
          (packet.serialize ++ slotBody g.slot packetData dataSize)
        rw [spanLength] at same
        refine ⟨packet, ?_, ?_⟩
        · rw [journal.append_packet_new entry, isPacket]
          exact header_of_self packet
        · rw [journal.append_entry_new entry, isBody]
          exact same
    | inr old =>
        have apart := slot_fresh g.count journal.written i old.1 old.2
        obtain ⟨header, isHeader, slot⟩ := slot_keeps_append g _ journal entry i old.2 (keeps.slots i (older i old.1 old.2))
        rw [← sameBuffer] at slot
        exact ⟨header, isHeader, (slice_other_slot g _ _ _ _ (le_of_eq spanLength) apart).trans slot⟩
  have latest : stream.latestOffset = -1 ∨ ∃ i, i < (journal.append entry).written ∧ stream.latestOffset = g.offsetAt i := by
    rw [isStream]
    cases known : contents packet.streamId with
    | none => exact Or.inl rfl
    | some stream =>
        obtain ⟨i, below, isSlot⟩ := slotsUsed _ _ known
        exact Or.inr ⟨i, Nat.lt_succ_of_lt below, isSlot⟩
  obtain ⟨buffer, linked, bufferLength, bufferSlots⟩ := link_keeps g ended endedShaped (journal.append entry) endedSlots stream packet
    latest
  have linkSetup : SameSetup ended { ended with
      dataBuffer := buffer, streamIdx := ended.streamIdx.setData node (stream.extend packet), fluxFlag := 0 } :=
    ⟨rfl, rfl, rfl, rfl, rfl, rfl, rfl, rfl, rfl, rfl, bufferLength⟩
  have setup' := same_setup_trans _ _ _ (same_setup_trans _ _ _ setup endedSetup) linkSetup
  have nonempty : ¬ (journal.append entry).written = 0 := Nat.succ_ne_zero _
  refine ⟨_, by rw [linkedFrom, linked, Option.map_some], setup', ⟨shaped_of_same g _ _ setup' keeps.shaped, ?_, ?_, bufferSlots,
    fun i resident => ?_, ?_⟩⟩
  · rw [if_neg nonempty]
    apply filled.earliest.trans
    cases ends with
    | empty isEmpty =>
        have low : (journal.append entry).low g = 0 := by
          have two := g.two
          simp only [Journal.low, oldest, Journal.append_written, isEmpty]
          omega
        rw [Option.isNone_none, if_pos rfl, low, offset, isEmpty]
    | packets earliest latest nonempty _ _ => exact start nonempty
  · have last : (journal.append entry).written - 1 = journal.written := rfl
    rw [if_neg nonempty, last, ← offset]
    exact filled.latest
  · cases append_resident g journal entry i resident with
    | inl new =>
        rw [new, journal.append_packet_new entry, isPacket]
        exact offset
    | inr old =>
        rw [journal.append_packet_old entry i old.2]
        exact keeps.offsets i (older i old.1 old.2)
  · have final := RBTree.index_set_data tree whole' _ node packet.streamId (stream.extend packet) index' member key
    have isTree : ended.streamIdx = tree := filled.streamIdx
    rw [← isTree] at final
    refine ⟨whole', _, final, filled.streamCount.trans counted, fun streamId other isOther => ?_⟩
    by_cases same : streamId = packet.streamId
    · rw [same, RBTree.assign_self] at isOther
      obtain rfl := Option.some.inj isOther
      exact ⟨journal.written, Nat.lt_succ_self _, offset⟩
    · rw [RBTree.assign_other _ _ _ _ same, RBTree.assign_other _ _ _ _ same] at isOther
      obtain ⟨i, below, isSlot⟩ := slotsUsed streamId other isOther
      exact ⟨i, Nat.lt_succ_of_lt below, isSlot⟩

structure Fits (ring : RingParams) (request : Request) : Prop where
  passes : ¬ 112 + request.dataSize > ring.pktSize
  array : request.dataSize.toNat < 2 ^ 31

theorem fits_slot (g : Geometry) (ring : RingParams) (shaped : Shaped g ring) (request : Request) (fits : Fits ring request) :
    request.dataSize.toNat + 112 ≤ g.slot := by
  have passes := fits.passes
  have array := fits.array
  rw [gt_iff_lt, UInt32.lt_iff_toNat_lt, UInt32.toNat_add, shaped.pktSize] at passes
  have constant : (112 : UInt32).toNat = 112 := rfl
  rw [constant, Nat.mod_eq_of_lt (by omega)] at passes
  omega

theorem keeps_flux (g : Geometry) (ring : RingParams) (journal : Journal) (flag : UInt8) (keeps : Keeps g ring journal) :
    Keeps g { ring with fluxFlag := flag } journal :=
  ⟨⟨keeps.shaped.pktSize, keeps.shaped.maxOffset, keeps.shaped.dataOffset, keeps.shaped.length⟩, keeps.earliest, keeps.latest,
    keeps.slots, keeps.offsets, keeps.index⟩

theorem write_keeps (g : Geometry) (ring : RingParams) (journal : Journal) (keeps : Keeps g ring journal) (request : Request)
    (fits : Fits ring request) :
    ∃ ring', writeRequest ring request = some (0, ring', journal.stamp g request.clock request.packet) ∧
      SameSetup ring ring' ∧ Keeps g ring' (journal.record g request) := by
  have fluxed := keeps_flux g ring journal 1 keeps
  have ends := ends_kept g _ journal fluxed
  have bounded := fits_slot g ring keeps.shaped request fits
  generalize isEarliest : (if ({ ring with fluxFlag := 1 } : RingParams).earliestOffset ≥ 0 then
    RingBuffer.readPacketAtOffset { ring with fluxFlag := 1 } ({ ring with fluxFlag := 1 } : RingParams).earliestOffset else none) =
      earliest at ends
  generalize isLatest : (if ({ ring with fluxFlag := 1 } : RingParams).latestOffset ≥ 0 then
    RingBuffer.readPacketAtOffset { ring with fluxFlag := 1 } ({ ring with fluxFlag := 1 } : RingParams).latestOffset else none) =
      latest at ends
  have offset : latest.elim 0 (fun latest => RingBuffer.nextOffset latest.offset ring.maxOffset ring.pktSize) =
      g.offsetAt journal.written := by
    cases ends with
    | empty isEmpty => rw [Option.elim_none, isEmpty]; simp [Geometry.offsetAt, Geometry.place]
    | packets earliest latest nonempty _ isLast =>
        have positive := g.positive
        have resident : journal.Resident g (journal.written - 1) := ⟨by simp only [Journal.low, oldest]; omega, by omega⟩
        have step := next_offset_at g ring keeps.shaped (journal.written - 1)
        rw [Nat.sub_add_cancel (by omega)] at step
        rw [Option.elim_some, isLast.offset, keeps.offsets _ resident, step]
  have pktId : latest.elim 1 RingBuffer.nextPktId =
      if journal.written = 0 then 1 else RingBuffer.nextPktId (journal.packet (journal.written - 1)) := by
    cases ends with
    | empty isEmpty => rw [Option.elim_none, if_pos isEmpty]
    | packets earliest latest nonempty _ isLast =>
        rw [Option.elim_some, if_neg nonempty, RingBuffer.nextPktId, RingBuffer.nextPktId, isLast.pktId]
  obtain ⟨ring', stored, setup, kept⟩ := store_keeps g _ journal fluxed earliest latest ends (journal.stamp g request.clock request.packet)
    request.packetData request.dataSize bounded rfl
  refine ⟨ring', ?_, ⟨setup.signature, setup.version, setup.ringSize, setup.pktSize, setup.maxPackets, setup.maxOffset,
    setup.headerSize, setup.corruptFlag, setup.volatileFlag, setup.dataOffset, setup.length⟩, kept⟩
  simp only [writeRequest, RingBuffer.write, if_neg fits.passes]
  rw [isEarliest, isLatest, offset, pktId]
  simp only [Journal.stamp] at stored
  rw [stored]
  rfl

theorem fresh_keeps (g : Geometry) (ring : RingParams) (fresh : Fresh g ring) : Keeps g ring Journal.empty := by
  have nowhere : ∀ i, ¬ Journal.empty.Resident g i := fun i resident => absurd resident.2 (Nat.not_lt_zero i)
  refine ⟨fresh.shaped, congrArg Bound.offset fresh.earliest, congrArg Bound.offset fresh.latest,
    fun i resident => absurd resident (nowhere i), fun i resident => absurd resident (nowhere i), .nil, fun _ => none, ?_,
    fresh.streamCount, fun streamId stream isStream => nomatch isStream⟩
  rw [fresh.streamIdx]
  exact RBTree.index_create

end RingServer
