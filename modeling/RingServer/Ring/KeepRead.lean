import RingServer.Ring.Keep

set_option autoImplicit false

namespace RingServer

open Library

def Placed (g : Geometry) (journal : Journal) (reader : RingReader) : Prop :=
  reader.pktOffset < 0 ∨ ∃ i, i < journal.written ∧ reader.pktOffset = g.offsetAt i

inductive ReadOut (g : Geometry) (ring : RingParams) (journal : Journal) (packet : RingPacket) (data : Option (List UInt8))
    (reading : RingBuffer.Reading) : Prop
  | nothing (isPacket : reading.packet = packet) (isData : reading.data = data)
      (code : reading.code = Constants.ringIdNone ∨ reading.code = Constants.ringIdError)
  | packet (i : Nat) (resident : journal.Resident g i) (isPacket : HeaderOf (journal.packet i) reading.packet)
      (streamId : reading.packet.streamId = storedId (journal.streamId i))
      (isData : RingBuffer.copyData ring (g.offsetAt i) reading.packet.dataSize data = some reading.data)
      (code : reading.code = (journal.packet i).pktId) (place : reading.reader.pktOffset = g.offsetAt i)

inductive KeptTurn (g : Geometry) (ring : RingParams) (journal : Journal) (latestPTime : NsTime) (packet : RingPacket)
    (data : Option (List UInt8)) (fuel skipped : Nat) (reader : RingReader) (offset : Int64) (reading : RingBuffer.Reading) : Prop
  | ended (atEnd : offset = g.offsetAt journal.written) (isReading : reading = ⟨Constants.ringIdNone, reader, packet, data⟩)
  | stopped (i : Nat) (resident : journal.Resident g i) (here : offset = g.offsetAt i)
      (late : (journal.packet i).pktTime.value > latestPTime.value) (isReading : reading = ⟨Constants.ringIdNone, reader, packet, data⟩)
  | restarted (i : Nat) (resident : journal.Resident g i) (here : offset = g.offsetAt i)
      (late : (journal.packet i).pktTime.value > latestPTime.value)
      (rest : RingBuffer.readNextFrom ring latestPTime (g.offsetAt journal.written) packet data fuel (skipped + 1) reader
        (g.offsetAt (journal.low g)) = some reading)
  | skipped (i : Nat) (resident : journal.Resident g i) (here : offset = g.offsetAt i)
      (pass : ¬ RingBuffer.passes reader (storedId (journal.streamId i)) = true) (header : RingPacket)
      (rest : RingBuffer.readNextFrom ring latestPTime (g.offsetAt journal.written) packet data fuel 0
        (RingBuffer.moveTo reader (g.offsetAt i) header) (g.offsetAt (i + 1)) = some reading)
  | met (i : Nat) (resident : journal.Resident g i) (here : offset = g.offsetAt i)
      (pass : RingBuffer.passes reader (storedId (journal.streamId i)) = true) (header : RingPacket) (copied : Option (List UInt8))
      (isHeader : HeaderOf (journal.packet i) header) (streamId : header.streamId = storedId (journal.streamId i))
      (isCopied : RingBuffer.copyData ring (g.offsetAt i) header.dataSize data = some copied)
      (isReading : reading = ⟨header.pktId, RingBuffer.moveTo reader (g.offsetAt i) header, header, copied⟩)

section

variable (g : Geometry) (ring : RingParams) (journal : Journal) (keeps : Keeps g ring journal)

include keeps

theorem kept_live (i : Nat) (resident : journal.Resident g i) :
    ∃ bytes, RingBuffer.spanAt ring (RingBuffer.bufOffset ring (g.offsetAt i) + 16) 8 = some bytes ∧
      getInt64 bytes = (journal.packet i).pktTime.value := by
  have size := slot_keeps_size g _ journal i (keeps.slots i resident)
  obtain ⟨header, isHeader, slot⟩ := keeps.slots i resident
  have constant : (16 : Int32) = Int32.ofNat 16 := rfl
  have part := Buffer.slice_part ring.dataBuffer (g.base + g.place i) g.slot 16 8 _ slot (by omega)
  have decoded := congrArg (fun packet : RingPacket => packet.pktTime.value) (deserialize_stored header (journal.entry i).body)
  have time : header.pktTime = (journal.packet i).pktTime := by rw [isHeader.fields]
  refine ⟨_, constant ▸ span_at_slot g ring keeps.shaped i 16 8 (by omega), ?_⟩
  rw [← time, part, getInt64, getUInt64, List.take_take, Nat.min_self]
  exact decoded

theorem eob_kept (nonempty : journal.written ≠ 0) :
    RingBuffer.nextOffset ring.latestOffset ring.maxOffset ring.pktSize = g.offsetAt journal.written := by
  rw [keeps.latest, if_neg nonempty, next_offset_at g ring keeps.shaped, Nat.sub_add_cancel (Nat.pos_of_ne_zero nonempty)]

theorem latest_spans (nonempty : journal.written ≠ 0) : ¬ ring.latestOffset < 0 ∧
    ¬ (ring.dataBuffer.length : Int) < (RingBuffer.bufOffset ring ring.latestOffset + 112).toInt ∧
    ∃ id time start stop, RingBuffer.spanAt ring (RingBuffer.bufOffset ring ring.latestOffset + 8) 8 = some id ∧
      RingBuffer.spanAt ring (RingBuffer.bufOffset ring ring.latestOffset + 16) 8 = some time ∧
      RingBuffer.spanAt ring (RingBuffer.bufOffset ring ring.latestOffset + 92) 8 = some start ∧
      RingBuffer.spanAt ring (RingBuffer.bufOffset ring ring.latestOffset + 100) 8 = some stop ∧
      NsTime.mk (getInt64 time) = (journal.packet (journal.written - 1)).pktTime := by
  have positive := g.positive
  have residentLast : journal.Resident g (journal.written - 1) := ⟨by simp only [Journal.low, oldest]; omega, by omega⟩
  have size := slot_keeps_size g _ journal _ (keeps.slots _ residentLast)
  have latest : ring.latestOffset = g.offsetAt (journal.written - 1) := by rw [keeps.latest, if_neg nonempty]
  obtain ⟨bytes, isTime, time⟩ := kept_live g ring journal keeps _ residentLast
  have room := g.place_room (journal.written - 1)
  have is8 : (8 : Int32) = Int32.ofNat 8 := rfl
  have is92 : (92 : Int32) = Int32.ofNat 92 := rfl
  have is100 : (100 : Int32) = Int32.ofNat 100 := rfl
  have is112 : (112 : Int32) = Int32.ofNat 112 := rfl
  rw [latest, is8, is92, is100, is112, buf_offset_add g ring keeps.shaped _ 112 size, keeps.shaped.length]
  exact ⟨g.offset_at_not_neg _, by omega, _, bytes, _, _, span_at_slot g ring keeps.shaped _ 8 8 (by omega), isTime,
    span_at_slot g ring keeps.shaped _ 92 8 (by omega), span_at_slot g ring keeps.shaped _ 100 8 (by omega), by rw [time]⟩

theorem read_next_starts (nonempty : journal.written ≠ 0) (caller : RingPacket) (data : Option (List UInt8)) (fuel : Nat)
    (reader : RingReader) :
    ∃ moved : RingReader, moved.pktOffset = g.offsetAt (journal.written - 1) ∧
      RingBuffer.readNext fuel ring reader caller data =
        if reader.pktOffset < 0 then
          if reader.pktId = Constants.ringIdNext then some ⟨Constants.ringIdNone, moved, caller, data⟩
          else if reader.pktId = Constants.ringIdLatest then
            RingBuffer.readNextFrom ring (journal.packet (journal.written - 1)).pktTime (g.offsetAt journal.written) caller data fuel 0
              reader (g.offsetAt (journal.written - 1))
          else if reader.pktId = Constants.ringIdEarliest then
            RingBuffer.readNextFrom ring (journal.packet (journal.written - 1)).pktTime (g.offsetAt journal.written) caller data fuel 0
              reader (g.offsetAt (journal.low g))
          else some ⟨Constants.ringIdError, reader, caller, data⟩
        else
          RingBuffer.readNextFrom ring (journal.packet (journal.written - 1)).pktTime (g.offsetAt journal.written) caller data fuel 0
            reader (RingBuffer.nextOffset reader.pktOffset ring.maxOffset ring.pktSize) := by
  obtain ⟨notEmpty, inside, id, time, first, last, isId, isTime, isFirst, isLast, latestTime⟩ :=
    latest_spans g ring journal keeps nonempty
  have atLatest : ring.latestOffset = g.offsetAt (journal.written - 1) := by rw [keeps.latest, if_neg nonempty]
  have atEarliest : ring.earliestOffset = g.offsetAt (journal.low g) := by rw [keeps.earliest, if_neg nonempty]
  rw [RingBuffer.readNext, if_neg notEmpty]
  dsimp only
  rw [if_neg inside, isId, isTime, isFirst, isLast]
  simp only [Option.bind_eq_bind, Option.bind_some, latestTime, eob_kept g ring journal keeps nonempty]
  rw [atEarliest, atLatest]
  exact ⟨_, rfl, rfl⟩

theorem read_next_sentinel (nonempty : journal.written ≠ 0) (caller : RingPacket) (data : Option (List UInt8)) (fuel : Nat)
    (reader : RingReader) (unset : reader.pktOffset < 0) (start : Nat)
    (sentinel : (reader.pktId = Constants.ringIdLatest ∧ start = journal.written - 1) ∨
      (reader.pktId = Constants.ringIdEarliest ∧ start = journal.low g)) :
    RingBuffer.readNext fuel ring reader caller data =
      RingBuffer.readNextFrom ring (journal.packet (journal.written - 1)).pktTime (g.offsetAt journal.written) caller data fuel 0
        reader (g.offsetAt start) := by
  obtain ⟨_, _, starts⟩ := read_next_starts g ring journal keeps nonempty caller data fuel reader
  rw [starts, if_pos unset]
  cases sentinel with
  | inl latest =>
      have notNext : ¬ reader.pktId = Constants.ringIdNext := by
        rw [latest.1]
        decide
      rw [if_neg notNext, if_pos latest.1, latest.2]
  | inr earliest =>
      have notNext : ¬ reader.pktId = Constants.ringIdNext := by
        rw [earliest.1]
        decide
      have notLatest : ¬ reader.pktId = Constants.ringIdLatest := by
        rw [earliest.1]
        decide
      rw [if_neg notNext, if_neg notLatest, if_pos earliest.1, earliest.2]

theorem read_next_standing (caller : RingPacket) (data : Option (List UInt8)) (fuel : Nat) (reader : RingReader) (place : Nat)
    (below : place < journal.written) (stands : reader.pktOffset = g.offsetAt place) :
    RingBuffer.readNext fuel ring reader caller data =
      RingBuffer.readNextFrom ring (journal.packet (journal.written - 1)).pktTime (g.offsetAt journal.written) caller data fuel 0
        reader (g.offsetAt (place + 1)) := by
  obtain ⟨_, _, starts⟩ := read_next_starts g ring journal keeps (by omega) caller data fuel reader
  have positioned : ¬ reader.pktOffset < 0 := by
    rw [stands]
    exact g.offset_at_not_neg _
  rw [starts, if_neg positioned, stands, next_offset_at g ring keeps.shaped]

theorem read_next_to_latest (nonempty : journal.written ≠ 0) (fuel : Nat) (reader : RingReader) (unset : reader.pktOffset < 0)
    (next : reader.pktId = Constants.ringIdNext) (caller : RingPacket) (data : Option (List UInt8)) :
    ∃ reading, RingBuffer.readNext fuel ring reader caller data = some reading ∧ reading.packet = caller ∧ reading.data = data ∧
      reading.code = Constants.ringIdNone ∧ reading.reader.pktOffset = g.offsetAt (journal.written - 1) := by
  obtain ⟨moved, place, starts⟩ := read_next_starts g ring journal keeps nonempty caller data fuel reader
  rw [starts, if_pos unset, if_pos next]
  exact ⟨_, rfl, rfl, rfl, rfl, place⟩

theorem read_next_unnamed (nonempty : journal.written ≠ 0) (fuel : Nat) (reader : RingReader) (unset : reader.pktOffset < 0)
    (notNext : reader.pktId ≠ Constants.ringIdNext) (notLatest : reader.pktId ≠ Constants.ringIdLatest)
    (notEarliest : reader.pktId ≠ Constants.ringIdEarliest) (caller : RingPacket) (data : Option (List UInt8)) :
    RingBuffer.readNext fuel ring reader caller data = some ⟨Constants.ringIdError, reader, caller, data⟩ := by
  obtain ⟨_, _, starts⟩ := read_next_starts g ring journal keeps nonempty caller data fuel reader
  rw [starts, if_pos unset, if_neg notNext, if_neg notLatest, if_neg notEarliest]

theorem kept_turn (latestPTime : NsTime) (packet : RingPacket) (data : Option (List UInt8)) (fuel skipped : Nat)
    (reader : RingReader) (offset : Int64) (reading : RingBuffer.Reading) (nonempty : journal.written ≠ 0)
    (place : ∃ j, j ≤ journal.written ∧ offset = g.offsetAt j)
    (ran : RingBuffer.readNextFrom ring latestPTime (g.offsetAt journal.written) packet data (fuel + 1) skipped reader offset =
      some reading) : KeptTurn g ring journal latestPTime packet data fuel skipped reader offset reading := by
  rw [RingBuffer.readNextFrom] at ran
  by_cases atEnd : offset = g.offsetAt journal.written
  · rw [if_pos atEnd] at ran
    exact .ended atEnd (Option.some.inj ran).symm
  obtain ⟨j, below, isPlace⟩ := place
  have notEnd : j ≠ journal.written := fun same => atEnd (isPlace.trans (congrArg g.offsetAt same))
  obtain ⟨i, resident, sameSlot⟩ := resident_of_slot g journal j (by omega)
  obtain ⟨header, isRead, isHeader, streamId⟩ := read_kept g ring keeps.shaped journal i (keeps.slots i resident)
  have here : offset = g.offsetAt i := isPlace.trans sameSlot
  have time : header.pktTime = (journal.packet i).pktTime := by rw [isHeader.fields]
  rw [if_neg atEnd, here, isRead] at ran
  dsimp only at ran
  by_cases later : header.pktTime.value > latestPTime.value
  · rw [if_pos later] at ran
    by_cases many : skipped + 1 ≥ 100
    · rw [if_pos many] at ran
      exact .stopped i resident here (time ▸ later) (Option.some.inj ran).symm
    · rw [if_neg many, keeps.earliest, if_neg nonempty] at ran
      exact .restarted i resident here (time ▸ later) ran
  rw [if_neg later] at ran
  have filters : RingBuffer.passes (RingBuffer.moveTo reader (g.offsetAt i) header) header.streamId =
      RingBuffer.passes reader (storedId (journal.streamId i)) := by
    rw [streamId]
    rfl
  rw [filters] at ran
  by_cases pass : RingBuffer.passes reader (storedId (journal.streamId i)) = true
  · rw [if_pos pass, Option.bind_eq_bind, Option.bind_eq_some_iff] at ran
    obtain ⟨copied, isCopied, ran⟩ := ran
    refine .met i resident here pass header copied isHeader streamId isCopied ?_
    by_cases inside : (RingBuffer.bufOffset ring (g.offsetAt i) + 16 + 8).toInt ≤ ring.dataBuffer.length
    · obtain ⟨bytes, isLive, live⟩ := kept_live g ring journal keeps i resident
      rw [if_pos inside, isLive, Option.bind_eq_bind, Option.bind_some, live, time, if_neg (fun different => different rfl)] at ran
      exact (Option.some.inj ran).symm
    · rw [if_neg inside] at ran
      exact (Option.some.inj ran).symm
  · rw [if_neg pass, next_offset_at g ring keeps.shaped] at ran
    exact .skipped i resident here pass header ran

theorem read_next_from_kept (latestPTime : NsTime) (packet : RingPacket) (data : Option (List UInt8)) (fuel skipped : Nat)
    (reader : RingReader) (offset : Int64) (reading : RingBuffer.Reading) (nonempty : journal.written ≠ 0)
    (place : ∃ j, j ≤ journal.written ∧ offset = g.offsetAt j) (placed : Placed g journal reader)
    (ran : RingBuffer.readNextFrom ring latestPTime (g.offsetAt journal.written) packet data fuel skipped reader offset = some reading) :
    ReadOut g ring journal packet data reading ∧ Placed g journal reading.reader ∧
      (reading.code = Constants.ringIdError → ∃ i, journal.Resident g i ∧ (journal.packet i).pktId = Constants.ringIdError) := by
  have noError : ¬ Constants.ringIdNone = Constants.ringIdError := by decide
  induction fuel generalizing skipped reader offset with
  | zero => cases ran
  | succ fuel ih =>
      cases kept_turn g ring journal keeps latestPTime packet data fuel skipped reader offset reading nonempty place ran with
      | ended atEnd isReading =>
          rw [isReading]
          exact ⟨.nothing rfl rfl (Or.inl rfl), placed, fun isError => absurd isError noError⟩
      | stopped i resident here late isReading =>
          rw [isReading]
          exact ⟨.nothing rfl rfl (Or.inl rfl), placed, fun isError => absurd isError noError⟩
      | restarted i resident here late rest => exact ih _ _ _ ⟨journal.low g, Nat.sub_le _ _, rfl⟩ placed rest
      | skipped i resident here pass header rest => exact ih _ _ _ ⟨i + 1, resident.2, rfl⟩ (Or.inr ⟨i, resident.2, rfl⟩) rest
      | met i resident here pass header copied isHeader streamId isCopied isReading =>
          rw [isReading]
          exact ⟨.packet i resident isHeader streamId isCopied isHeader.pktId rfl, Or.inr ⟨i, resident.2, rfl⟩,
            fun isError => ⟨i, resident, isHeader.pktId.symm.trans isError⟩⟩

theorem read_next_kept (packet : RingPacket) (data : Option (List UInt8)) (fuel : Nat) (reader : RingReader)
    (reading : RingBuffer.Reading) (placed : Placed g journal reader)
    (ran : RingBuffer.readNext fuel ring reader packet data = some reading) :
    ReadOut g ring journal packet data reading ∧ Placed g journal reading.reader ∧ (reading.code = Constants.ringIdError →
      (reader.pktOffset < 0 ∧ reader.pktId ≠ Constants.ringIdNext ∧ reader.pktId ≠ Constants.ringIdLatest ∧
        reader.pktId ≠ Constants.ringIdEarliest) ∨
      ∃ i, journal.Resident g i ∧ (journal.packet i).pktId = Constants.ringIdError) := by
  have noError : ¬ Constants.ringIdNone = Constants.ringIdError := by decide
  by_cases nonempty : journal.written = 0
  · rw [RingBuffer.readNext, if_pos (by rw [keeps.latest, if_pos nonempty]; decide)] at ran
    cases ran
    refine ⟨.nothing rfl rfl (Or.inl rfl), ?_, fun isError => absurd isError noError⟩
    dsimp only
    split
    · rename_i next
      exact Or.inl next.1
    · exact placed
  have scan (j : Nat) (below : j ≤ journal.written)
      (scanned : RingBuffer.readNextFrom ring (journal.packet (journal.written - 1)).pktTime (g.offsetAt journal.written) packet data
        fuel 0 reader (g.offsetAt j) = some reading) :
      ReadOut g ring journal packet data reading ∧ Placed g journal reading.reader ∧ (reading.code = Constants.ringIdError →
        (reader.pktOffset < 0 ∧ reader.pktId ≠ Constants.ringIdNext ∧ reader.pktId ≠ Constants.ringIdLatest ∧
          reader.pktId ≠ Constants.ringIdEarliest) ∨
        ∃ i, journal.Resident g i ∧ (journal.packet i).pktId = Constants.ringIdError) := by
    obtain ⟨out, moved, error⟩ :=
      read_next_from_kept g ring journal keeps _ packet data fuel 0 reader _ reading nonempty ⟨j, below, rfl⟩ placed scanned
    exact ⟨out, moved, fun isError => Or.inr (error isError)⟩
  by_cases unset : reader.pktOffset < 0
  · by_cases next : reader.pktId = Constants.ringIdNext
    · obtain ⟨other, ran', isPacket, isData, code, stands⟩ :=
        read_next_to_latest g ring journal keeps nonempty fuel reader unset next packet data
      rw [← Option.some.inj (ran'.symm.trans ran)]
      exact ⟨.nothing isPacket isData (Or.inl code), Or.inr ⟨journal.written - 1, by omega, stands⟩,
        fun isError => absurd (code.symm.trans isError) noError⟩
    by_cases latest : reader.pktId = Constants.ringIdLatest
    · rw [read_next_sentinel g ring journal keeps nonempty packet data fuel reader unset _ (.inl ⟨latest, rfl⟩)] at ran
      exact scan _ (Nat.sub_le _ _) ran
    by_cases earliest : reader.pktId = Constants.ringIdEarliest
    · rw [read_next_sentinel g ring journal keeps nonempty packet data fuel reader unset _ (.inr ⟨earliest, rfl⟩)] at ran
      exact scan _ (Nat.sub_le _ _) ran
    rw [read_next_unnamed g ring journal keeps nonempty fuel reader unset next latest earliest] at ran
    cases ran
    exact ⟨.nothing rfl rfl (Or.inr rfl), placed, fun _ => Or.inl ⟨unset, next, latest, earliest⟩⟩
  · obtain ⟨k, below, stands⟩ := placed.resolve_left unset
    rw [read_next_standing g ring journal keeps packet data fuel reader k below stands] at ran
    exact scan _ below ran

theorem find_from_kept (filling : journal.written < g.count) (i : Nat) (resident : journal.Resident g i) (fuel j : Nat)
    (ordered : j ≤ i) (enough : i < fuel + j) :
    ∃ k time, RingBuffer.findFrom ring (journal.packet i).pktId (g.offsetAt journal.written) fuel (g.offsetAt j) =
      some (some (g.offsetAt k, time)) ∧ k < journal.written ∧ (journal.packet k).pktId = (journal.packet i).pktId := by
  induction fuel generalizing j with
  | zero => exact absurd enough (by omega)
  | succ fuel ih =>
      have written := resident.2
      have low : journal.low g = 0 := (oldest_filling g.count journal.written filling).1
      have residentJ : journal.Resident g j := ⟨by omega, by omega⟩
      have positive : 0 < g.slot := lt_of_lt_of_le (by decide) (slot_keeps_size g _ journal j (keeps.slots j residentJ))
      have apart (k l : Nat) (first : k < g.count) (second : l < g.count) (different : k ≠ l) : g.offsetAt k ≠ g.offsetAt l := by
        apply g.offset_at_ne _ _ positive
        rwa [Nat.mod_eq_of_lt first, Nat.mod_eq_of_lt second]
      obtain ⟨header, isRead, isHeader, _⟩ := read_kept g ring keeps.shaped journal j (keeps.slots j residentJ)
      rw [RingBuffer.findFrom, if_neg (apart j journal.written (by omega) filling (by omega)), isRead]
      dsimp only
      by_cases here : header.pktId = (journal.packet i).pktId
      · rw [if_pos here]
        exact ⟨j, header.pktTime, rfl, residentJ.2, isHeader.pktId.symm.trans here⟩
      · have notHere : j ≠ i := fun same => here (same ▸ isHeader.pktId)
        have notFirst : ¬ g.offsetAt (j + 1) = ring.earliestOffset := by
          rw [keeps.earliest, if_neg (by omega), low]
          exact apart (j + 1) 0 (by omega) (by omega) (Nat.succ_ne_zero j)
        rw [if_neg here, next_offset_at g ring keeps.shaped, if_neg notFirst]
        exact ih (j + 1) (by omega) (by omega)

theorem find_offset_resident (filling : journal.written < g.count) (i : Nat) (resident : journal.Resident g i) (fuel : Nat)
    (enough : journal.written < fuel) :
    ∃ k time, RingBuffer.findOffsetForId fuel ring (journal.packet i).pktId = some (some (g.offsetAt k, time)) ∧
      k < journal.written ∧ (journal.packet k).pktId = (journal.packet i).pktId := by
  have written := resident.2
  have nonempty : journal.written ≠ 0 := by omega
  have low : journal.low g = 0 := (oldest_filling g.count journal.written filling).1
  obtain ⟨k, time, found, below, sameId⟩ := find_from_kept g ring journal keeps filling i resident fuel 0 (Nat.zero_le i) (by omega)
  have bounds : ¬ (ring.earliestOffset < 0 ∨ ring.latestOffset < 0) := by
    rw [keeps.earliest, keeps.latest, if_neg nonempty, if_neg nonempty]
    exact not_or.mpr ⟨g.offset_at_not_neg _, g.offset_at_not_neg _⟩
  refine ⟨k, time, ?_, below, sameId⟩
  rw [RingBuffer.findOffsetForId, if_neg bounds, eob_kept g ring journal keeps nonempty, keeps.earliest, if_neg nonempty, low, found]

theorem read_by_id_kept (filling : journal.written < g.count) (i : Nat) (resident : journal.Resident g i)
    (valid : (journal.packet i).pktId ≤ Constants.ringIdMaximum) (fuel : Nat) (enough : journal.written < fuel) (reader : RingReader)
    (packet : RingPacket) (data : Option (List UInt8)) (reading : RingBuffer.Reading)
    (ran : RingBuffer.read fuel ring reader (journal.packet i).pktId packet data = some reading) :
    reading.code = (journal.packet i).pktId := by
  have low : journal.low g = 0 := (oldest_filling g.count journal.written filling).1
  obtain ⟨k, time, searched, below, sameId⟩ := find_offset_resident g ring journal keeps filling i resident fuel enough
  obtain ⟨header, isRead, isHeader, _⟩ := read_kept g ring keeps.shaped journal k (keeps.slots k ⟨by omega, below⟩)
  have same : ¬ (journal.packet i).pktId ≠ header.pktId := fun different => different (sameId.symm.trans isHeader.pktId.symm)
  rw [RingBuffer.read, if_neg (UInt64.not_lt.mpr valid), searched, Option.bind_eq_bind, Option.bind_some] at ran
  dsimp only at ran
  rw [isRead] at ran
  simp only [if_neg same, Option.bind_eq_bind, Option.bind_eq_some_iff, Option.some.injEq] at ran
  obtain ⟨_, _, isReading⟩ := ran
  rw [← isReading]

theorem read_next_behind (k : Nat) (standing : journal.Resident g k) (next : k + 1 < journal.written)
    (packet : RingPacket) (data : Option (List UInt8)) (fuel : Nat) (reader : RingReader) (reading : RingBuffer.Reading)
    (isPlace : reader.pktOffset = g.offsetAt k) (pass : RingBuffer.passes reader (storedId (journal.streamId (k + 1))) = true)
    (time : (journal.packet (k + 1)).pktTime.value ≤ (journal.packet (journal.written - 1)).pktTime.value)
    (ran : RingBuffer.readNext fuel ring reader packet data = some reading) : reading.code = (journal.packet (k + 1)).pktId := by
  have lowK := standing.1
  have residentNext : journal.Resident g (k + 1) := ⟨by omega, next⟩
  have size := slot_keeps_size g _ journal _ (keeps.slots _ residentNext)
  have notEnd : ¬ g.offsetAt (k + 1) = g.offsetAt journal.written := by
    refine g.offset_at_ne _ _ (by omega) (slot_fresh g.count journal.written (k + 1) ?_ next)
    simp only [Journal.low, oldest] at lowK ⊢
    omega
  have only (i : Nat) (resident : journal.Resident g i) (here : g.offsetAt (k + 1) = g.offsetAt i) : i = k + 1 := by
    refine slot_injective g.count journal.written i (k + 1) resident.1 resident.2 residentNext.1 residentNext.2 ?_
    by_contra apart
    exact g.offset_at_ne i (k + 1) (by omega) apart here.symm
  rw [read_next_standing g ring journal keeps packet data fuel reader k standing.2 isPlace] at ran
  cases fuel with
  | zero => cases ran
  | succ fuel =>
      cases kept_turn g ring journal keeps _ packet data fuel 0 reader _ reading (by omega) ⟨k + 1, by omega, rfl⟩ ran with
      | ended atEnd isReading => exact absurd atEnd notEnd
      | stopped i resident here late isReading =>
          rw [only i resident here] at late
          exact absurd time (Int64.not_le.mpr late)
      | restarted i resident here late rest =>
          rw [only i resident here] at late
          exact absurd time (Int64.not_le.mpr late)
      | skipped i resident here fails header rest =>
          rw [only i resident here] at fails
          exact absurd pass fails
      | met i resident here passes header copied isHeader streamId isCopied isReading =>
          rw [isReading, ← only i resident here]
          exact isHeader.pktId

end

end RingServer
