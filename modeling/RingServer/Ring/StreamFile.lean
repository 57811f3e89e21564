import RingServer.Ring.RingFile
import RingServer.Types.RBTreeMap

set_option autoImplicit false

namespace RingServer

open Library

theorem decode_small (bytes : List UInt8) (c : Char) (member : c ∈ decodeASCII bytes) : c.toNat < 128 := by
  obtain ⟨b, _, rfl⟩ := List.mem_map.mp member
  by_cases small : b.toNat < 128
  · rw [if_pos small, ascii_char _ small]
    exact small
  · rw [if_neg small]
    decide

structure Plain (streamId : Text) : Prop where
  length : streamId.length ≤ 60
  ascii : ∀ c ∈ streamId, c.toNat < 128
  noNul : ∀ c ∈ streamId, c ≠ Char.ofNat 0

theorem survives_plain (streamId : Text) (survives : Survives streamId) : Plain streamId := by
  rw [Survives, RingPacket.getStreamId, untilNul] at survives
  have whole : ((RingPacket.putStreamId streamId).take Constants.maxStreamId).length ≤ 60 := by
    rw [List.length_take]
    exact Nat.min_le_left _ _
  have prefixOf := List.takeWhile_sublist (fun c => decide (c ≠ Char.ofNat 0))
    (l := decodeASCII ((RingPacket.putStreamId streamId).take Constants.maxStreamId))
  rw [survives] at prefixOf
  refine ⟨?_, fun c member => decode_small _ c (prefixOf.subset member), fun c member => ?_⟩
  · have shorter := prefixOf.length_le
    rw [decodeASCII, List.length_map] at shorter
    omega
  · rw [← survives] at member
    simpa using List.mem_takeWhile_imp member

theorem decode_encode (text : Text) (ascii : ∀ c ∈ text, c.toNat < 128) : decodeASCII (encodeASCII text) = text := by
  rw [decodeASCII, encodeASCII, List.map_map]
  have same : ∀ c ∈ text, ((fun b : UInt8 => if b.toNat < 128 then Char.ofNat b.toNat else '?') ∘
      fun c : Char => if c.toNat < 128 then UInt8.ofNat c.toNat else 63) c = c := by
    intro c member
    have small := ascii c member
    have byte : (UInt8.ofNat c.toNat).toNat = c.toNat := by
      rw [UInt8.toNat_ofNat', Nat.mod_eq_of_lt (by omega)]
    simp only [Function.comp_apply, if_pos small, byte, Char.ofNat_toNat]
  rw [List.map_congr_left same, List.map_id']

theorem encode_nul (count : Nat) : encodeASCII (List.replicate count (Char.ofNat 0)) = List.replicate count 0 := by
  rw [encodeASCII, List.map_replicate]
  rfl

theorem trim_nul (text : Text) (count : Nat) (noNul : ∀ c ∈ text, c ≠ Char.ofNat 0) :
    trimEndNul (text ++ List.replicate count (Char.ofNat 0)) = text := by
  induction count with
  | zero =>
      rw [List.replicate_zero, List.append_nil, trimEndNul, List.rdropWhile_eq_self_iff]
      intro nonempty isNul
      exact noNul _ (List.getLast_mem nonempty) (by simpa using isNul)
  | succ count ih =>
      rw [List.replicate_succ', ← List.append_assoc, trimEndNul, List.rdropWhile_concat_pos _ _ _ (by decide)]
      exact ih

theorem pad_right_field (streamId : Text) (plain : Plain streamId) :
    ((encodeASCII (RingBuffer.padRight streamId 60)).take 60).length = 60 ∧
      trimEndNul (decodeASCII ((encodeASCII (RingBuffer.padRight streamId 60)).take 60)) = streamId := by
  have fits := plain.length
  have whole : (encodeASCII (RingBuffer.padRight streamId 60)).length = 60 := by
    rw [encode_length, RingBuffer.padRight, List.length_append, List.length_replicate]
    omega
  have ascii : ∀ c ∈ RingBuffer.padRight streamId 60, c.toNat < 128 := by
    intro c member
    rcases List.mem_append.mp member with inside | padding
    · exact plain.ascii c inside
    · rw [(List.mem_replicate.mp padding).2]
      decide
  rw [List.take_of_length_le (by omega), decode_encode _ ascii]
  exact ⟨whole, trim_nul streamId _ plain.noNul⟩

theorem serialize_ring_stream_length (stream : RingStream) (plain : Plain stream.streamId) :
    (RingBuffer.serializeRingStream stream).length = RingBuffer.streamRecordSize := by
  have field := (pad_right_field stream.streamId plain).1
  rw [RingBuffer.serializeRingStream, List.length_append, field]
  simp [RingBuffer.streamRecordSize]

theorem deserialize_serialize_ring_stream (stream : RingStream) (plain : Plain stream.streamId) :
    RingBuffer.deserializeRingStream (RingBuffer.serializeRingStream stream) = stream := by
  obtain ⟨long, text⟩ := pad_right_field stream.streamId plain
  have skip : ∀ (first tail : List UInt8) (count : Nat), first.length ≤ count →
      (first ++ tail).drop count = tail.drop (count - first.length) := by
    intro first tail count short
    rw [List.drop_append, List.drop_eq_nil_of_le short, List.nil_append]
  have last : ∀ value : Int64, getInt64 (putInt64 value) = value := by
    intro value
    have padded := get_put_int64 value []
    rwa [List.append_nil] at padded
  generalize isField : (encodeASCII (RingBuffer.padRight stream.streamId 60)).take 60 = field at long text
  obtain ⟨streamId, a, b, c, d, e, f, g, h, i, j⟩ := stream
  simp only at isField text
  simp only [RingBuffer.serializeRingStream, isField, RingBuffer.deserializeRingStream, List.take_left' long, text]
  simp (disch := simp [long]) only [skip, long, put_int64_length, put_uint64_length, Nat.reduceSub, Nat.sub_self, List.drop_zero]
  simp only [get_put_int64, get_put_uint64, last]

theorem count_add (count : UInt32) (n : Nat) : count + 1 + UInt32.ofNat n = count + UInt32.ofNat (n + 1) := by
  rw [UInt32.add_assoc, UInt32.add_comm 1, UInt32.ofNat_add]
  rfl

theorem load_streams (streams : List RingStream) (ring : RingParams) (whole : ColorTree NodeId)
    (contents : Text → Option RingStream) (index : RBTree.Index ring.streamIdx whole contents)
    (plain : ∀ stream ∈ streams, Plain stream.streamId) (distinct : (streams.map (·.streamId)).Nodup)
    (absent : ∀ stream ∈ streams, contents stream.streamId = none) :
    ∃ tree whole' contents', RingBuffer.loadStreams streams.length (streams.flatMap RingBuffer.serializeRingStream) ring =
        some { ring with streamIdx := tree, streamCount := ring.streamCount + UInt32.ofNat streams.length } ∧
      RBTree.Index tree whole' contents' ∧ whole'.labels.length = whole.labels.length + streams.length ∧
      ∀ streamId stream, contents' streamId = some stream ↔
        contents streamId = some stream ∨ (stream ∈ streams ∧ stream.streamId = streamId) := by
  induction streams generalizing ring whole contents with
  | nil =>
      refine ⟨ring.streamIdx, whole, contents, ?_, index, rfl, fun streamId stream => by simp⟩
      have zero : ring.streamCount + UInt32.ofNat 0 = ring.streamCount := UInt32.add_zero _
      rw [List.length_nil, zero]
      rfl
  | cons stream rest ih =>
      obtain ⟨next, whole1, inserted, index1, order, _⟩ := RBTree.index_insert ring.streamIdx whole contents stream.streamId stream
        index (absent stream (by simp))
      rw [List.map_cons, List.nodup_cons] at distinct
      obtain ⟨others, distinctRest⟩ := distinct
      have differ : ∀ other ∈ rest, other.streamId ≠ stream.streamId := by
        intro other member same
        exact others (List.mem_map.mpr ⟨other, member, same⟩)
      obtain ⟨tree, whole', contents', loaded, index', size, members⟩ := ih
        { ring with streamIdx := next, streamCount := ring.streamCount + 1 } whole1 _ index1
        (fun other member => plain other (List.mem_cons_of_mem _ member)) distinctRest (fun other member => by
          rw [RBTree.assign_other _ _ _ _ (differ other member)]
          exact absent other (List.mem_cons_of_mem _ member))
      refine ⟨tree, whole', contents', ?_, index', ?_, fun streamId data => ?_⟩
      · have record := serialize_ring_stream_length stream (plain stream (by simp))
        rw [List.length_cons, List.flatMap_cons, RingBuffer.loadStreams]
        simp only [List.take_left' record, List.drop_left' record,
          deserialize_serialize_ring_stream stream (plain stream (by simp)), inserted, Option.bind_eq_bind, Option.bind_some]
        rw [loaded, count_add]
      · rw [size, order.length_eq, List.length_cons, List.length_cons]
        omega
      · rw [members]
        by_cases same : streamId = stream.streamId
        · subst same
          rw [RBTree.assign_self, absent stream (by simp), Option.some.injEq]
          constructor
          · intro cases
            cases cases with
            | inl isStream => exact Or.inr ⟨isStream ▸ List.mem_cons_self, isStream ▸ rfl⟩
            | inr inRest => exact Or.inr ⟨List.mem_cons_of_mem _ inRest.1, inRest.2⟩
          · intro cases
            cases cases with
            | inl impossible => simp at impossible
            | inr inside =>
                cases List.mem_cons.mp inside.1 with
                | inl isStream => exact Or.inl isStream.symm
                | inr inRest => exact Or.inr ⟨inRest, inside.2⟩
        · rw [RBTree.assign_other _ _ _ _ same]
          refine or_congr_right ?_
          constructor
          · exact fun inRest => ⟨List.mem_cons_of_mem _ inRest.1, inRest.2⟩
          · intro inside
            cases List.mem_cons.mp inside.1 with
            | inl isStream => exact absurd (inside.2.symm.trans (congrArg RingStream.streamId isStream)) same
            | inr inRest => exact ⟨inRest, inside.2⟩

theorem flat_map_records (streams : List RingStream) (plain : ∀ stream ∈ streams, Plain stream.streamId) :
    (streams.flatMap RingBuffer.serializeRingStream).length = streams.length * RingBuffer.streamRecordSize := by
  induction streams with
  | nil => simp
  | cons stream rest ih =>
      rw [List.flatMap_cons, List.length_append, ih (fun other member => plain other (List.mem_cons_of_mem _ member)),
        serialize_ring_stream_length stream (plain stream (by simp)), List.length_cons, Nat.succ_mul, Nat.add_comm]

end RingServer
