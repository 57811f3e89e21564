import RingServer.Ring.Lifetime

set_option autoImplicit false

namespace RingServer.RingBuffer

-- What a write that fails leaves of a file: the old one where it could not be opened, or
-- some first bytes, without the last one at least.
inductive Left where
  | untouched
  | part (n : Nat)

inductive FileWrite where
  | whole
  | throws (left : Left)
  | dies (left : Left)

def Left.file (old : Option (List UInt8)) (contents : List UInt8) : Left → Option (List UInt8)
  | .untouched => old
  | .part n => some (contents.dropLast.take n)

def FileWrite.file (old : Option (List UInt8)) (contents : List UInt8) : FileWrite → Option (List UInt8)
  | .whole => some contents
  | .throws left => left.file old contents
  | .dies left => left.file old contents

-- Shutdown where its writes come to these ends. An exception is caught: that of the stream
-- index is passed over. The inner none is a process that has died.
def shutdownWith (named : Bool) (files : RingFiles) (ring : RingParams) (index buffer : FileWrite) :
    Option (Option Int × RingFiles) :=
  if ring.volatileFlag = 0 ∧ named = false then some (some (-1), files)
  else if ring.volatileFlag > 0 then some (some 0, files)
  else do
    let ring := writeHeaderToBuffer ring
    let streams ← streamFile ring
    let packetbuf := buffer.file files.packetbuf (ring.dataBuffer.slice 0 ring.dataBuffer.length)
    let streamidx := index.file files.streamidx streams
    match index, buffer with
    | .dies _, _ => some (none, ⟨files.packetbuf, streamidx⟩)
    | _, .whole => some (some 0, ⟨packetbuf, streamidx⟩)
    | _, .throws _ => some (some (-1), ⟨packetbuf, streamidx⟩)
    | _, .dies _ => some (none, ⟨packetbuf, streamidx⟩)

def FileWrite.outcome : FileWrite → Option Int
  | .whole => some 0
  | .throws _ => some (-1)
  | .dies _ => none

def packetBytes (ring : RingParams) : List UInt8 := (writeHeaderToBuffer ring).dataBuffer.slice 0 ring.dataBuffer.length

theorem shutdown_with_dies (files : RingFiles) (ring : RingParams) (left : Left) (buffer : FileWrite) (streams : List UInt8)
    (persistent : ring.volatileFlag = 0) (file : streamFile ring = some streams) :
    shutdownWith true files ring (.dies left) buffer = some (none, ⟨files.packetbuf, left.file files.streamidx streams⟩) := by
  have named : ¬ (ring.volatileFlag = 0 ∧ true = false) := fun both => Bool.noConfusion both.2
  have notVolatile : ¬ ring.volatileFlag > 0 := by rw [persistent]; decide
  have written : streamFile (writeHeaderToBuffer ring) = some streams := file
  rw [shutdownWith, if_neg named, if_neg notVolatile]
  simp only [written, Option.bind_eq_bind, Option.bind_some, FileWrite.file]

theorem shutdown_with_goes_on (files : RingFiles) (ring : RingParams) (index buffer : FileWrite) (streams : List UInt8)
    (persistent : ring.volatileFlag = 0) (file : streamFile ring = some streams) (lives : ∀ left, index ≠ .dies left) :
    shutdownWith true files ring index buffer =
      some (buffer.outcome, ⟨buffer.file files.packetbuf (packetBytes ring), index.file files.streamidx streams⟩) := by
  have named : ¬ (ring.volatileFlag = 0 ∧ true = false) := fun both => Bool.noConfusion both.2
  have notVolatile : ¬ ring.volatileFlag > 0 := by rw [persistent]; decide
  have written : streamFile (writeHeaderToBuffer ring) = some streams := file
  rw [shutdownWith, if_neg named, if_neg notVolatile]
  simp only [written, Option.bind_eq_bind, Option.bind_some]
  cases index with
  | dies left => exact absurd rfl (lives left)
  | whole => cases buffer <;> rfl
  | throws left => cases buffer <;> rfl

theorem shutdown_without_failure (named : Bool) (files : RingFiles) (ring : RingParams) :
    shutdownWith named files ring .whole .whole = (ringShutdown named files ring).map fun result => (some result.1, result.2.1) := by
  rw [shutdownWith, ringShutdown]
  split
  · rfl
  split
  · rfl
  · dsimp only
    cases streamFile (writeHeaderToBuffer ring) with
    | none => rfl
    | some streams => rfl

def wholeRecords (streamidx : Option (List UInt8)) : List UInt8 :=
  streamidx.elim [] fun bytes => bytes.take (bytes.length / streamRecordSize * streamRecordSize)

theorem flat_map_take (streams : List RingStream) (plain : ∀ stream ∈ streams, Plain stream.streamId) (k : Nat) :
    (streams.flatMap serializeRingStream).take (k * streamRecordSize) = (streams.take k).flatMap serializeRingStream := by
  induction streams generalizing k with
  | nil => simp
  | cons stream rest ih =>
      cases k with
      | zero => simp
      | succ k =>
          have record := serialize_ring_stream_length stream (plain stream (by simp))
          have size : (k + 1) * streamRecordSize = (serializeRingStream stream).length + k * streamRecordSize := by
            rw [record, Nat.succ_mul, Nat.add_comm]
          rw [List.flatMap_cons, List.take_succ_cons, List.flatMap_cons, size, List.take_length_add_append,
            ih (fun other member => plain other (List.mem_cons_of_mem _ member))]

theorem whole_records_take (streams : List RingStream) (plain : ∀ stream ∈ streams, Plain stream.streamId) (n : Nat) :
    ∃ k, wholeRecords (some ((streams.flatMap serializeRingStream).take n)) = (streams.take k).flatMap serializeRingStream := by
  refine ⟨min n (streams.flatMap serializeRingStream).length / streamRecordSize, ?_⟩
  have below := Nat.div_mul_le_self (min n (streams.flatMap serializeRingStream).length) streamRecordSize
  rw [wholeRecords, Option.elim_some, List.length_take, List.take_take, Nat.min_eq_left (by omega), flat_map_take streams plain]

theorem whole_records_all (streams : List RingStream) (plain : ∀ stream ∈ streams, Plain stream.streamId) :
    wholeRecords (some (streams.flatMap serializeRingStream)) = streams.flatMap serializeRingStream := by
  have size : 0 < streamRecordSize := by decide
  rw [wholeRecords, Option.elim_some, flat_map_records streams plain, Nat.mul_div_cancel _ size, flat_map_take streams plain,
    List.take_length]

theorem load_streams_take (records m : Nat) (bytes : List UInt8) (ring : RingParams) (enough : records * streamRecordSize ≤ m) :
    loadStreams records (bytes.take m) ring = loadStreams records bytes ring := by
  induction records generalizing m bytes ring with
  | zero => rfl
  | succ records ih =>
      rw [Nat.succ_mul] at enough
      have one : streamRecordSize ≤ m := Nat.le_trans (Nat.le_add_left _ _) enough
      have first : (bytes.take m).take streamRecordSize = bytes.take streamRecordSize := by
        rw [List.take_take, Nat.min_eq_left one]
      have rest : (bytes.take m).drop streamRecordSize = (bytes.drop streamRecordSize).take (m - streamRecordSize) := List.drop_take
      have more := fun ring => ih (m - streamRecordSize) (bytes.drop streamRecordSize) ring (by omega)
      simp only [loadStreams, first, rest, more]

theorem load_streams_index (records : Nat) (bytes : List UInt8) (ring loaded : RingParams)
    (load : loadStreams records bytes ring = some loaded) : ∃ tree count, loaded = withIndex ring tree count := by
  induction records generalizing bytes ring with
  | zero =>
      obtain rfl := Option.some.inj load
      exact ⟨ring.streamIdx, ring.streamCount, rfl⟩
  | succ records ih =>
      simp only [loadStreams, Option.bind_eq_bind, Option.bind_eq_some_iff] at load
      obtain ⟨inserted, _, load⟩ := load
      obtain ⟨tree, count, rfl⟩ := ih _ _ load
      exact ⟨tree, count, rfl⟩

def loadIndex (files : RingFiles) (ring : RingParams) : Option RingParams :=
  match files.streamidx with
  | none => some ring
  | some bytes => loadStreams (bytes.length / streamRecordSize) bytes ring

theorem load_index_records (files : RingFiles) (ring : RingParams) : loadIndex files ring =
    loadStreams ((wholeRecords files.streamidx).length / streamRecordSize) (wholeRecords files.streamidx) ring := by
  rw [loadIndex, wholeRecords]
  cases files.streamidx with
  | none => rfl
  | some bytes =>
      have size : 0 < streamRecordSize := by decide
      have whole : bytes.length / streamRecordSize * streamRecordSize ≤ bytes.length := Nat.div_mul_le_self _ _
      have length : (bytes.take (bytes.length / streamRecordSize * streamRecordSize)).length / streamRecordSize =
          bytes.length / streamRecordSize := by
        rw [List.length_take_of_le whole, Nat.mul_div_cancel _ size]
      dsimp only [Option.elim_some]
      rw [length, load_streams_take _ _ _ _ (Nat.le_refl _)]

def testOffsets (ring : RingParams) : Option (Int × Option RingParams) :=
  if ring.earliestOffset > ring.maxOffset then some (-1, some { ring with streamIdx := ring.streamIdx.destroy })
  else if ring.latestOffset > ring.maxOffset then some (-1, some { ring with streamIdx := ring.streamIdx.destroy })
  else some (0, some ring)

theorem load_ring_index (files : RingFiles) (ring fresh : RingParams) (volatileFlag reset : Bool) :
    loadRing files ring volatileFlag reset fresh =
      (if reset then some fresh else if volatileFlag = false ∧ ring.earliestOffset ≥ 0 then loadIndex files ring
        else some ring).bind testOffsets := by
  rw [loadRing]
  split
  · rfl
  split
  · rw [loadIndex]
    cases files.streamidx <;> rfl
  · rfl

theorem test_offsets_start (ring start : RingParams) (tested : testOffsets ring = some (0, some start)) : start = ring := by
  rw [testOffsets] at tested
  split at tested
  · cases tested
  split at tested
  · cases tested
  · exact (Option.some.inj (congrArg Prod.snd (Option.some.inj tested))).symm

structure Reads (named : Bool) (files : RingFiles) (pageSize : UInt32) (ringSize : UInt64) (pktSize : UInt32) (volatileFlag : Bool)
    (read fresh : RingParams) (reset : Bool) : Prop where
  streamIdx : read.streamIdx = RBTree.create
  streamCount : read.streamCount = 0
  empty : fresh.earliestOffset = -1
  loads : ∀ files', files'.packetbuf = files.packetbuf →
    ringInitialize named files' pageSize ringSize pktSize volatileFlag = loadRing files' read volatileFlag reset fresh

section

variable (named : Bool) (files files' : RingFiles) (pageSize : UInt32) (ringSize : UInt64) (pktSize : UInt32) (volatileFlag : Bool)

theorem initialize_splits :
    (∃ result, (∀ start, result = some (0, some start) → start.earliestOffset = -1) ∧
      ∀ files', files'.packetbuf = files.packetbuf → ringInitialize named files' pageSize ringSize pktSize volatileFlag = result) ∨
      ∃ read fresh reset, Reads named files pageSize ringSize pktSize volatileFlag read fresh reset := by
  have buffers (files' : RingFiles) (same : files'.packetbuf = files.packetbuf) (maxPackets : UInt64) (maxOffset : Int64)
      (headerSize : UInt32) : newRingParams files' ringSize pktSize maxPackets maxOffset headerSize volatileFlag =
        newRingParams files ringSize pktSize maxPackets maxOffset headerSize volatileFlag := by
    rw [newRingParams, newRingParams, same]
  have unfolded (files' : RingFiles) := ringInitialize.eq_def named files' pageSize ringSize pktSize volatileFlag
  by_cases unnamed : (!volatileFlag && !named) = true
  · refine .inl ⟨_, ?_, fun files' _ => (unfolded files').trans (if_pos unnamed)⟩
    intro start isStart
    cases isStart
  cases header : headerSizeFor pageSize with
  | none =>
      refine .inl ⟨none, ?_, fun files' _ => ?_⟩
      · intro start isStart
        cases isStart
      · rw [unfolded, if_neg unnamed, header]
        rfl
  | some headerSize =>
      simp only [if_neg unnamed, header, Option.bind_eq_bind, Option.bind_some] at unfolded
      by_cases short : ringSize < (headerSize + 2 * pktSize).toUInt64
      · refine .inl ⟨_, ?_, fun files' _ => (unfolded files').trans (if_pos short)⟩
        intro start isStart
        cases isStart
      simp only [if_neg short] at unfolded
      by_cases zero : pktSize = 0
      · refine .inl ⟨_, ?_, fun files' _ => (unfolded files').trans (if_pos zero)⟩
        intro start isStart
        cases isStart
      simp only [if_neg zero, openRing] at unfolded
      by_cases array : maxArrayLength < ringSize.toNat
      · refine .inl ⟨_, ?_, fun files' _ => (unfolded files').trans (if_pos array)⟩
        intro start isStart
        cases isStart
      simp only [if_neg array] at unfolded
      let maxPackets := (ringSize - headerSize.toUInt64) / pktSize.toUInt64
      let maxOffset := ((maxPackets - 1) * pktSize.toUInt64).toInt64
      let created := newRingParams files ringSize pktSize maxPackets maxOffset headerSize volatileFlag
      by_cases room : headerSize.toUInt64 ≤ ringSize
      · refine .inr ⟨readHeader created, resetRingParams (readHeader created) ringSize pktSize maxPackets maxOffset headerSize,
          mustReset (readHeader created) ringSize pktSize maxPackets maxOffset headerSize volatileFlag, rfl, rfl, rfl,
          fun files' same => ?_⟩
        rw [unfolded, if_pos room, buffers files' same]
      · refine .inl ⟨some (0, some (resetRingParams created ringSize pktSize maxPackets maxOffset headerSize)), ?_,
          fun files' same => ?_⟩
        · intro start isStart
          cases isStart
          rfl
        · rw [unfolded, if_neg room, buffers files' same]

theorem initialize_same_records (same : files'.packetbuf = files.packetbuf)
    (records : wholeRecords files'.streamidx = wholeRecords files.streamidx) :
    ringInitialize named files' pageSize ringSize pktSize volatileFlag =
      ringInitialize named files pageSize ringSize pktSize volatileFlag := by
  rcases initialize_splits named files pageSize ringSize pktSize volatileFlag with ⟨result, _, all⟩ | ⟨read, fresh, reset, reads⟩
  · rw [all files' same, all files rfl]
  · have index : loadIndex files' = loadIndex files := by
      funext ring
      rw [load_index_records, load_index_records, records]
    rw [reads.loads files' same, reads.loads files rfl, load_ring_index, load_ring_index, index]

theorem initialize_empty (same : files'.packetbuf = files.packetbuf) (start : RingParams)
    (init : ringInitialize named files pageSize ringSize pktSize volatileFlag = some (0, some start)) (empty : start.earliestOffset < 0) :
    ringInitialize named files' pageSize ringSize pktSize volatileFlag = some (0, some start) := by
  rcases initialize_splits named files pageSize ringSize pktSize volatileFlag with ⟨result, _, all⟩ | ⟨read, fresh, reset, reads⟩
  · rw [all files' same, ← all files rfl, init]
  · rw [reads.loads files rfl, load_ring_index] at init
    rw [reads.loads files' same, load_ring_index]
    cases reset with
    | true => exact init
    | false =>
        by_cases stored : volatileFlag = false ∧ read.earliestOffset ≥ 0
        · rw [if_neg Bool.false_ne_true, if_pos stored, Option.bind_eq_some_iff] at init
          obtain ⟨loaded, index, tested⟩ := init
          rw [load_index_records] at index
          obtain ⟨tree, count, rfl⟩ := load_streams_index _ _ _ _ index
          rw [test_offsets_start _ start tested] at empty
          exact absurd stored.2 (Int64.not_le.mpr empty)
        · rw [if_neg Bool.false_ne_true, if_neg stored] at init
          rw [if_neg Bool.false_ne_true, if_neg stored]
          exact init

theorem initialize_streams (same : files'.packetbuf = files.packetbuf) (start : RingParams)
    (init : ringInitialize named files pageSize ringSize pktSize false = some (0, some start)) (stored : 0 ≤ start.earliestOffset)
    (streams : List RingStream) (plain : ∀ stream ∈ streams, Plain stream.streamId) (distinct : (streams.map (·.streamId)).Nodup)
    (records : wholeRecords files'.streamidx = streams.flatMap serializeRingStream) :
    ∃ tree count whole contents,
      ringInitialize named files' pageSize ringSize pktSize false = some (0, some (withIndex start tree count)) ∧
        RBTree.Index tree whole contents ∧
        ∀ streamId stream, contents streamId = some stream ↔ stream ∈ streams ∧ stream.streamId = streamId := by
  rcases initialize_splits named files pageSize ringSize pktSize false with ⟨result, empty, all⟩ | ⟨read, fresh, reset, reads⟩
  · have isEmpty := empty start (by rw [← all files rfl, init])
    rw [isEmpty] at stored
    exact absurd stored (by decide)
  rw [reads.loads files rfl, load_ring_index] at init
  cases reset with
  | true =>
      rw [if_pos rfl, Option.bind_some] at init
      rw [test_offsets_start _ start init, reads.empty] at stored
      exact absurd stored (by decide)
  | false =>
      have nonneg : read.earliestOffset ≥ 0 := by
        by_contra negative
        rw [if_neg Bool.false_ne_true, if_neg (fun both => negative both.2), Option.bind_some] at init
        rw [test_offsets_start _ start init] at stored
        exact negative stored
      rw [if_neg Bool.false_ne_true, if_pos ⟨rfl, nonneg⟩, Option.bind_eq_some_iff] at init
      obtain ⟨loaded, index, tested⟩ := init
      rw [load_index_records] at index
      obtain ⟨oldTree, oldCount, rfl⟩ := load_streams_index _ _ _ _ index
      obtain rfl := test_offsets_start _ start tested
      have size : 0 < streamRecordSize := by decide
      have number : (streams.flatMap serializeRingStream).length / streamRecordSize = streams.length := by
        rw [flat_map_records streams plain, Nat.mul_div_cancel _ size]
      have created : RBTree.Index read.streamIdx .nil (fun _ => none) := by
        rw [reads.streamIdx]
        exact RBTree.index_create
      obtain ⟨tree, whole, contents, loads, isIndex, _, members⟩ :=
        load_streams streams read .nil (fun _ => none) created plain distinct (fun _ _ => rfl)
      refine ⟨tree, read.streamCount + UInt32.ofNat streams.length, whole, contents, ?_, isIndex, fun streamId stream => ?_⟩
      · rw [reads.loads files' same, load_ring_index, if_neg Bool.false_ne_true, if_pos ⟨rfl, nonneg⟩, load_index_records, records,
          number, loads, Option.bind_some]
        rw [testOffsets] at tested ⊢
        split at tested
        · cases tested
        split at tested
        · cases tested
        · rename_i earliest latest
          exact (if_neg earliest).trans (if_neg latest)
      · rw [members]
        exact ⟨fun either => either.resolve_left (fun impossible => by cases impossible), fun inside => Or.inr inside⟩

end

end RingServer.RingBuffer
