import RingServer.Library.Rescan
import RingServer.Ring.Attached

set_option autoImplicit false

namespace RingServer

open Library

namespace RingBuffer

def startOffset (ring : RingParams) (reader : RingReader) : Option Int64 :=
  if reader.pktOffset < 0 then
    if reader.pktId = Constants.ringIdNext then none
    else if reader.pktId = Constants.ringIdLatest then some ring.latestOffset
    else if reader.pktId = Constants.ringIdEarliest then some ring.earliestOffset
    else none
  else some (nextOffset reader.pktOffset ring.maxOffset ring.pktSize)

def readNextVisitsFrom (ring : RingParams) (latestPTime : NsTime) (eobOffset : Int64) : Nat → Nat → RingReader → Int64 → Option Nat
  | 0, _, _, _ => none
  | fuel + 1, skipped, reader, offset =>
      if offset = eobOffset then some 0
      else match readPacketAtOffset ring offset with
        | none => some 1
        | some pkt =>
            if pkt.pktTime.value > latestPTime.value then
              if skipped + 1 ≥ 100 then some 1
              else (readNextVisitsFrom ring latestPTime eobOffset fuel (skipped + 1) reader ring.earliestOffset).map (· + 1)
            else
              let reader := moveTo reader offset pkt
              if passes reader pkt.streamId then some 1
              else (readNextVisitsFrom ring latestPTime eobOffset fuel 0 reader (nextOffset offset ring.maxOffset ring.pktSize)).map (· + 1)

def readNextVisits (fuel : Nat) (ring : RingParams) (reader : RingReader) : Option Nat :=
  if ring.latestOffset < 0 ∨ ring.dataBuffer.length < (bufOffset ring ring.latestOffset + 112).toInt then some 0
  else match spanAt ring (bufOffset ring ring.latestOffset + 16) 8, startOffset ring reader with
    | some latestPTime, some offset =>
        readNextVisitsFrom ring ⟨getInt64 latestPTime⟩ (nextOffset ring.latestOffset ring.maxOffset ring.pktSize) fuel 0 reader offset
    | _, _ => some 0

end RingBuffer

inductive StartCase (ring : RingParams) (reader : RingReader) : Option Int64 → Prop where
  | next (unset : reader.pktOffset < 0) (named : reader.pktId = Constants.ringIdNext) : StartCase ring reader none
  | latest (unset : reader.pktOffset < 0) (notNext : reader.pktId ≠ Constants.ringIdNext) (named : reader.pktId = Constants.ringIdLatest) :
      StartCase ring reader (some ring.latestOffset)
  | earliest (unset : reader.pktOffset < 0) (notNext : reader.pktId ≠ Constants.ringIdNext)
      (notLatest : reader.pktId ≠ Constants.ringIdLatest) (named : reader.pktId = Constants.ringIdEarliest) :
      StartCase ring reader (some ring.earliestOffset)
  | unnamed (unset : reader.pktOffset < 0) (notNext : reader.pktId ≠ Constants.ringIdNext)
      (notLatest : reader.pktId ≠ Constants.ringIdLatest) (notEarliest : reader.pktId ≠ Constants.ringIdEarliest) :
      StartCase ring reader none
  | behind (stands : ¬ reader.pktOffset < 0) :
      StartCase ring reader (some (RingBuffer.nextOffset reader.pktOffset ring.maxOffset ring.pktSize))

theorem start_cases (ring : RingParams) (reader : RingReader) : StartCase ring reader (RingBuffer.startOffset ring reader) := by
  rw [RingBuffer.startOffset]
  by_cases unset : reader.pktOffset < 0
  · rw [if_pos unset]
    by_cases next : reader.pktId = Constants.ringIdNext
    · rw [if_pos next]
      exact .next unset next
    rw [if_neg next]
    by_cases latest : reader.pktId = Constants.ringIdLatest
    · rw [if_pos latest]
      exact .latest unset next latest
    rw [if_neg latest]
    by_cases earliest : reader.pktId = Constants.ringIdEarliest
    · rw [if_pos earliest]
      exact .earliest unset next latest earliest
    · rw [if_neg earliest]
      exact .unnamed unset next latest earliest
  · rw [if_neg unset]
    exact .behind unset

def packetsFrom (ring : RingParams) : Nat → Int64 → List (Int64 × RingPacket)
  | 0, _ => []
  | count + 1, offset =>
      if offset = RingBuffer.nextOffset ring.latestOffset ring.maxOffset ring.pktSize then []
      else match RingBuffer.readPacketAtOffset ring offset with
        | none => []
        | some pkt => (offset, pkt) :: packetsFrom ring count (RingBuffer.nextOffset offset ring.maxOffset ring.pktSize)

def ahead (ring : RingParams) (offset : Int64) : List (Int64 × RingPacket) := packetsFrom ring ring.maxPackets.toNat offset

def latestTime (ring : RingParams) : NsTime :=
  (RingBuffer.readPacketAtOffset ring ring.latestOffset).elim NsTime.unset (·.pktTime)

-- A packet later than the latest one sends ReadNext back to the earliest one.
def verdictOn (ring : RingParams) (reader : RingReader) (found : Int64 × RingPacket) : Verdict :=
  if found.2.pktTime.value > (latestTime ring).value then .again
  else if RingBuffer.passes reader found.2.streamId then .stop
  else .skip

def nextDue (ring : RingParams) (reader : RingReader) : Ending (Int64 × RingPacket) :=
  if ring.latestOffset < 0 then .nothing
  else match RingBuffer.startOffset ring reader with
    | none => .nothing
    | some offset => ending (verdictOn ring reader) (ahead ring ring.earliestOffset) (ahead ring offset)

structure Spans (g : Geometry) (ring : RingParams) (low last : Nat) : Prop where
  shaped : Shaped g ring
  slots : 112 ≤ g.slot
  maxPackets : ring.maxPackets.toNat = g.count
  earliest : ring.earliestOffset = g.offsetAt low
  latest : ring.latestOffset = g.offsetAt last

theorem keeps_spans (g : Geometry) (ring : RingParams) (journal : Journal) (keeps : Keeps g ring journal)
    (maxPackets : ring.maxPackets.toNat = g.count) (nonempty : journal.written ≠ 0) :
    Spans g ring (journal.low g) (journal.written - 1) := by
  have positive := g.positive
  have latest : journal.Resident g (journal.written - 1) := ⟨by simp only [Journal.low, oldest]; omega, by omega⟩
  refine ⟨keeps.shaped, slot_keeps_size g _ journal _ (keeps.slots _ latest), maxPackets, ?_, ?_⟩
  · rw [keeps.earliest, if_neg nonempty]
  · rw [keeps.latest, if_neg nonempty]

theorem verdict_passes (ring : RingParams) (reader : RingReader) (offset : Int64) (pkt : RingPacket)
    (stop : verdictOn ring reader (offset, pkt) = .stop) : RingBuffer.passes reader pkt.streamId = true := by
  rw [verdictOn] at stop
  by_cases late : pkt.pktTime.value > (latestTime ring).value
  · rw [if_pos late] at stop
    cases stop
  rw [if_neg late] at stop
  by_cases pass : RingBuffer.passes reader pkt.streamId = true
  · exact pass
  · rw [if_neg pass] at stop
    cases stop

inductive ScanHanded (g : Geometry) (ring : RingParams) (reader : RingReader) (packet : RingPacket) (data : Option (List UInt8)) :
    Option (Nat × Option (Int64 × RingPacket)) → Option RingBuffer.Reading → Prop where
  | runs : ScanHanded g ring reader packet data none none
  | nothing (looked : Nat) (moved : RingReader) :
      ScanHanded g ring reader packet data (some (looked, none)) (some ⟨Constants.ringIdNone, moved, packet, data⟩)
  | packet (looked k : Nat) (pkt : RingPacket) (isRead : RingBuffer.readPacketAtOffset ring (g.offsetAt k) = some pkt) :
      ScanHanded g ring reader packet data (some (looked, some (g.offsetAt k, pkt)))
        ((RingBuffer.copyData ring (g.offsetAt k) pkt.dataSize data).map fun copied =>
          ⟨pkt.pktId, RingBuffer.moveTo reader (g.offsetAt k) pkt, pkt, copied⟩)

theorem handed_more (g : Geometry) (ring : RingParams) (reader : RingReader) (packet : RingPacket) (data : Option (List UInt8))
    (scanned : Option (Nat × Option (Int64 × RingPacket))) (result : Option RingBuffer.Reading)
    (handed : ScanHanded g ring reader packet data scanned result) :
    ScanHanded g ring reader packet data (scanned.map fun found => (found.1 + 1, found.2)) result := by
  cases handed with
  | runs => exact .runs
  | nothing looked moved => exact .nothing (looked + 1) moved
  | packet looked k pkt isRead => exact .packet (looked + 1) k pkt isRead

theorem handed_moved (g : Geometry) (ring : RingParams) (reader : RingReader) (offset : Int64) (passed packet : RingPacket)
    (data : Option (List UInt8)) (scanned : Option (Nat × Option (Int64 × RingPacket))) (result : Option RingBuffer.Reading)
    (handed : ScanHanded g ring (RingBuffer.moveTo reader offset passed) packet data scanned result) :
    ScanHanded g ring reader packet data scanned result := by
  cases handed with
  | runs => exact .runs
  | nothing looked moved => exact .nothing looked moved
  | packet looked k pkt isRead => exact .packet looked k pkt isRead

theorem ahead_length (ring : RingParams) (offset : Int64) : (ahead ring offset).length ≤ ring.maxPackets.toNat := by
  rw [ahead]
  generalize ring.maxPackets.toNat = count
  induction count generalizing offset with
  | zero => exact Nat.le_refl 0
  | succ count ih =>
      rw [packetsFrom]
      by_cases atEnd : offset = RingBuffer.nextOffset ring.latestOffset ring.maxOffset ring.pktSize
      · rw [if_pos atEnd]
        exact Nat.zero_le _
      rw [if_neg atEnd]
      cases RingBuffer.readPacketAtOffset ring offset with
      | none => exact Nat.zero_le _
      | some pkt => exact Nat.succ_le_succ (ih _)

inductive ScanOutcome (g : Geometry) (ring : RingParams) (reader : RingReader) : Ending (Int64 × RingPacket) → Prop where
  | item (visited k : Nat) (pkt : RingPacket) (few : visited ≤ 2 * ring.maxPackets.toNat + 100)
      (visits : ∀ fuel, visited < fuel → RingBuffer.readNextVisits fuel ring reader = some visited)
      (isRead : RingBuffer.readPacketAtOffset ring (g.offsetAt k) = some pkt)
      (passes : RingBuffer.passes reader pkt.streamId = true)
      (ran : ∀ fuel, visited < fuel → ∀ packet data, RingBuffer.readNext fuel ring reader packet data =
        (RingBuffer.copyData ring (g.offsetAt k) pkt.dataSize data).map fun copied =>
          ⟨pkt.pktId, RingBuffer.moveTo reader (g.offsetAt k) pkt, pkt, copied⟩) : ScanOutcome g ring reader (.item (g.offsetAt k, pkt))
  | nothing (visited : Nat) (few : visited ≤ 2 * ring.maxPackets.toNat + 100)
      (visits : ∀ fuel, visited < fuel → RingBuffer.readNextVisits fuel ring reader = some visited)
      (ran : ∀ fuel, visited < fuel → ∀ packet data, ∃ code moved, (code = Constants.ringIdNone ∨ code = Constants.ringIdError) ∧
        RingBuffer.readNext fuel ring reader packet data = some ⟨code, moved, packet, data⟩) : ScanOutcome g ring reader .nothing
  | never (visits : ∀ fuel, RingBuffer.readNextVisits fuel ring reader = none)
      (runs : ∀ fuel packet data, RingBuffer.readNext fuel ring reader packet data = none) : ScanOutcome g ring reader .never

section

variable (g : Geometry) (ring : RingParams) (low last : Nat) (spans : Spans g ring low last)

include spans

theorem eob_spans : RingBuffer.nextOffset ring.latestOffset ring.maxOffset ring.pktSize = g.offsetAt (last + 1) := by
  rw [spans.latest, next_offset_at g ring spans.shaped]

theorem slot_read (k : Nat) : ∃ pkt, RingBuffer.readPacketAtOffset ring (g.offsetAt k) = some pkt ∧ ∃ bytes,
    RingBuffer.spanAt ring (RingBuffer.bufOffset ring (g.offsetAt k) + 16) 8 = some bytes ∧ getInt64 bytes = pkt.pktTime.value := by
  have slots := spans.slots
  have constant : (16 : Int32) = Int32.ofNat 16 := rfl
  have part := Buffer.slice_part ring.dataBuffer (g.base + g.place k) 112 16 8 _ rfl (by decide)
  refine ⟨_, read_packet_slice g ring spans.shaped k slots, _, constant ▸ span_at_slot g ring spans.shaped k 16 8 (by omega), ?_⟩
  rw [part, getInt64, getUInt64, List.take_take, Nat.min_self]
  rfl

theorem scan_slot (latestPTime : NsTime) (packet : RingPacket) (data : Option (List UInt8)) (fuel skipped : Nat) (reader : RingReader)
    (k : Nat) (pkt : RingPacket) (isRead : RingBuffer.readPacketAtOffset ring (g.offsetAt k) = some pkt) (eobOffset : Int64)
    (inside : g.offsetAt k ≠ eobOffset) :
    RingBuffer.readNextFrom ring latestPTime eobOffset packet data (fuel + 1) skipped reader (g.offsetAt k) =
      if pkt.pktTime.value > latestPTime.value then
        if skipped + 1 ≥ 100 then some ⟨Constants.ringIdNone, reader, packet, data⟩
        else RingBuffer.readNextFrom ring latestPTime eobOffset packet data fuel (skipped + 1) reader (g.offsetAt low)
      else if RingBuffer.passes reader pkt.streamId then
        (RingBuffer.copyData ring (g.offsetAt k) pkt.dataSize data).map fun copied =>
          ⟨pkt.pktId, RingBuffer.moveTo reader (g.offsetAt k) pkt, pkt, copied⟩
      else RingBuffer.readNextFrom ring latestPTime eobOffset packet data fuel 0 (RingBuffer.moveTo reader (g.offsetAt k) pkt)
        (g.offsetAt (k + 1)) := by
  obtain ⟨header, isHeader, bytes, isLive, live⟩ := slot_read g ring low last spans k
  obtain rfl := Option.some.inj (isHeader.symm.trans isRead)
  have sameFilters : RingBuffer.passes (RingBuffer.moveTo reader (g.offsetAt k) header) header.streamId =
      RingBuffer.passes reader header.streamId := rfl
  rw [RingBuffer.readNextFrom, if_neg inside, isRead]
  dsimp only
  rw [sameFilters, spans.earliest]
  by_cases late : header.pktTime.value > latestPTime.value
  · rw [if_pos late, if_pos late]
  rw [if_neg late, if_neg late]
  by_cases pass : RingBuffer.passes reader header.streamId = true
  · rw [if_pos pass, if_pos pass]
    have steady : ¬ header.pktTime.value ≠ header.pktTime.value := fun changed => changed rfl
    cases RingBuffer.copyData ring (g.offsetAt k) header.dataSize data with
    | none => rfl
    | some copied =>
        rw [Option.bind_eq_bind, Option.bind_some, Option.map_some, isLive, Option.bind_eq_bind, Option.bind_some, live, if_neg steady,
          ite_self]
  · rw [if_neg pass, if_neg pass, next_offset_at g ring spans.shaped]

omit spans in
theorem reaches_end (k : Nat) : ∃ count, count < g.count ∧ g.offsetAt (k + count) = g.offsetAt (last + 1) := by
  have positive := g.positive
  have below := Nat.mod_lt k positive
  refine ⟨(last + 1 + g.count - k % g.count) % g.count, Nat.mod_lt _ positive, g.offset_at_congr _ _ ?_⟩
  calc (k + (last + 1 + g.count - k % g.count) % g.count) % g.count
      = (k % g.count + (last + 1 + g.count - k % g.count)) % g.count := by rw [Nat.add_mod_mod, Nat.mod_add_mod]
    _ = (last + 1 + g.count) % g.count := by rw [Nat.add_sub_cancel' (by omega)]
    _ = (last + 1) % g.count := Nat.add_mod_right _ _

theorem packets_slot (count k : Nat) (pkt : RingPacket) (isRead : RingBuffer.readPacketAtOffset ring (g.offsetAt k) = some pkt)
    (inside : g.offsetAt k ≠ g.offsetAt (last + 1)) :
    packetsFrom ring (count + 1) (g.offsetAt k) = (g.offsetAt k, pkt) :: packetsFrom ring count (g.offsetAt (k + 1)) := by
  rw [packetsFrom, eob_spans g ring low last spans, if_neg inside, isRead]
  dsimp only
  rw [next_offset_at g ring spans.shaped]

theorem packets_end (count k : Nat) (atEnd : g.offsetAt k = g.offsetAt (last + 1)) : packetsFrom ring count (g.offsetAt k) = [] := by
  cases count with
  | zero => rfl
  | succ count => rw [packetsFrom, eob_spans g ring low last spans, if_pos atEnd]

theorem packets_stable (count first second k : Nat) (atEnd : g.offsetAt (k + count) = g.offsetAt (last + 1)) (one : count ≤ first)
    (two : count ≤ second) : packetsFrom ring first (g.offsetAt k) = packetsFrom ring second (g.offsetAt k) := by
  induction count generalizing first second k with
  | zero => rw [packets_end g ring low last spans first k atEnd, packets_end g ring low last spans second k atEnd]
  | succ count ih =>
      by_cases here : g.offsetAt k = g.offsetAt (last + 1)
      · rw [packets_end g ring low last spans first k here, packets_end g ring low last spans second k here]
      · obtain ⟨pkt, isRead, _⟩ := slot_read g ring low last spans k
        obtain ⟨first, rfl⟩ : ∃ n, first = n + 1 := ⟨first - 1, by omega⟩
        obtain ⟨second, rfl⟩ : ∃ n, second = n + 1 := ⟨second - 1, by omega⟩
        rw [packets_slot g ring low last spans first k pkt isRead here, packets_slot g ring low last spans second k pkt isRead here,
          ih first second (k + 1) (by rw [Nat.add_assoc, Nat.add_comm 1]; exact atEnd) (by omega) (by omega)]

theorem ahead_slot (k : Nat) (pkt : RingPacket) (isRead : RingBuffer.readPacketAtOffset ring (g.offsetAt k) = some pkt)
    (inside : g.offsetAt k ≠ g.offsetAt (last + 1)) : ahead ring (g.offsetAt k) =
    (g.offsetAt k, pkt) :: ahead ring (g.offsetAt (k + 1)) := by
  obtain ⟨count, below, atEnd⟩ := reaches_end g last k
  have some : count ≠ 0 := fun zero => inside (by rw [zero] at atEnd; exact atEnd)
  obtain ⟨rest, size⟩ : ∃ rest, g.count = rest + 1 := ⟨g.count - 1, by omega⟩
  have rest_end : g.offsetAt (k + 1 + (count - 1)) = g.offsetAt (last + 1) := by
    rw [Nat.add_assoc, Nat.add_sub_cancel' (by omega)]
    exact atEnd
  rw [ahead, ahead, spans.maxPackets, size, packets_slot g ring low last spans rest k pkt isRead inside]
  exact congrArg ((g.offsetAt k, pkt) :: ·) (packets_stable g ring low last spans (count - 1) rest (rest + 1) (k + 1) rest_end (by omega)
    (by omega))

theorem scan_agrees (packet : RingPacket) (data : Option (List UInt8)) (fuel skipped : Nat) (reader : RingReader) (k : Nat) :
    ScanHanded g ring reader packet data
      (rescan (verdictOn ring reader) (ahead ring (g.offsetAt low)) 100 fuel skipped (ahead ring (g.offsetAt k)))
      (RingBuffer.readNextFrom ring (latestTime ring) (g.offsetAt (last + 1)) packet data fuel skipped reader (g.offsetAt k)) := by
  induction fuel generalizing skipped reader k with
  | zero => exact .runs
  | succ fuel ih =>
      by_cases atEnd : g.offsetAt k = g.offsetAt (last + 1)
      · have empty : ahead ring (g.offsetAt k) = [] := packets_end g ring low last spans _ k atEnd
        rw [empty, RingBuffer.readNextFrom, if_pos atEnd]
        exact .nothing 0 reader
      obtain ⟨pkt, isRead, _⟩ := slot_read g ring low last spans k
      rw [ahead_slot g ring low last spans k pkt isRead atEnd,
        scan_slot g ring low last spans (latestTime ring) packet data fuel skipped reader k pkt isRead _ atEnd]
      by_cases late : pkt.pktTime.value > (latestTime ring).value
      · have again : verdictOn ring reader (g.offsetAt k, pkt) = .again := by rw [verdictOn, if_pos late]
        rw [rescan_again _ _ _ _ _ _ _ again, if_pos late]
        by_cases many : skipped + 1 ≥ 100
        · rw [if_pos many, if_pos many]
          exact .nothing 1 reader
        · rw [if_neg many, if_neg many]
          exact handed_more g ring reader packet data _ _ (ih (skipped + 1) reader low)
      rw [if_neg late]
      by_cases pass : RingBuffer.passes reader pkt.streamId = true
      · have stop : verdictOn ring reader (g.offsetAt k, pkt) = .stop := by rw [verdictOn, if_neg late, if_pos pass]
        rw [rescan_stop _ _ _ _ _ _ _ stop, if_pos pass]
        exact .packet 1 k pkt isRead
      · have skip : verdictOn ring reader (g.offsetAt k, pkt) = .skip := by rw [verdictOn, if_neg late, if_neg pass]
        rw [rescan_skip _ _ _ _ _ _ _ skip, if_neg pass]
        refine handed_more g ring reader packet data _ _ ?_
        exact handed_moved g ring reader (g.offsetAt k) pkt packet data _ _ (ih 0 (RingBuffer.moveTo reader (g.offsetAt k) pkt) (k + 1))

theorem visits_agree (fuel skipped : Nat) (reader : RingReader) (k : Nat) :
    RingBuffer.readNextVisitsFrom ring (latestTime ring) (g.offsetAt (last + 1)) fuel skipped reader (g.offsetAt k) =
      (rescan (verdictOn ring reader) (ahead ring (g.offsetAt low)) 100 fuel skipped (ahead ring (g.offsetAt k))).map (·.1) := by
  induction fuel generalizing skipped reader k with
  | zero => rfl
  | succ fuel ih =>
      by_cases atEnd : g.offsetAt k = g.offsetAt (last + 1)
      · have empty : ahead ring (g.offsetAt k) = [] := packets_end g ring low last spans _ k atEnd
        rw [empty, RingBuffer.readNextVisitsFrom, if_pos atEnd]
        rfl
      obtain ⟨pkt, isRead, _⟩ := slot_read g ring low last spans k
      rw [ahead_slot g ring low last spans k pkt isRead atEnd, RingBuffer.readNextVisitsFrom, if_neg atEnd, isRead]
      dsimp only
      by_cases late : pkt.pktTime.value > (latestTime ring).value
      · have again : verdictOn ring reader (g.offsetAt k, pkt) = .again := by rw [verdictOn, if_pos late]
        rw [rescan_again _ _ _ _ _ _ _ again, if_pos late]
        by_cases many : skipped + 1 ≥ 100
        · rw [if_pos many, if_pos many]
          rfl
        · rw [if_neg many, if_neg many, spans.earliest, ih (skipped + 1) reader low, Option.map_map, Option.map_map]
          rfl
      rw [if_neg late]
      by_cases pass : RingBuffer.passes (RingBuffer.moveTo reader (g.offsetAt k) pkt) pkt.streamId = true
      · have stop : verdictOn ring reader (g.offsetAt k, pkt) = .stop := by
          rw [verdictOn, if_neg late]
          exact if_pos pass
        rw [rescan_stop _ _ _ _ _ _ _ stop, if_pos pass]
        rfl
      · have skip : verdictOn ring reader (g.offsetAt k, pkt) = .skip := by
          rw [verdictOn, if_neg late]
          exact if_neg pass
        have same : verdictOn ring (RingBuffer.moveTo reader (g.offsetAt k) pkt) = verdictOn ring reader := rfl
        rw [rescan_skip _ _ _ _ _ _ _ skip, if_neg pass, next_offset_at g ring spans.shaped, ih 0 _ (k + 1), same, Option.map_map,
          Option.map_map]
        rfl

theorem latest_spanned : ¬ ring.latestOffset < 0 ∧
    ¬ (ring.dataBuffer.length : Int) < (RingBuffer.bufOffset ring ring.latestOffset + 112).toInt ∧
    ∃ id time first final, RingBuffer.spanAt ring (RingBuffer.bufOffset ring ring.latestOffset + 8) 8 = some id ∧
      RingBuffer.spanAt ring (RingBuffer.bufOffset ring ring.latestOffset + 16) 8 = some time ∧
      RingBuffer.spanAt ring (RingBuffer.bufOffset ring ring.latestOffset + 92) 8 = some first ∧
      RingBuffer.spanAt ring (RingBuffer.bufOffset ring ring.latestOffset + 100) 8 = some final ∧
      NsTime.mk (getInt64 time) = latestTime ring := by
  have slots := spans.slots
  have room := g.place_room last
  obtain ⟨pkt, isRead, bytes, isLive, live⟩ := slot_read g ring low last spans last
  have is8 : (8 : Int32) = Int32.ofNat 8 := rfl
  have is92 : (92 : Int32) = Int32.ofNat 92 := rfl
  have is100 : (100 : Int32) = Int32.ofNat 100 := rfl
  have is112 : (112 : Int32) = Int32.ofNat 112 := rfl
  rw [latestTime, spans.latest, isRead, Option.elim_some, is8, is92, is100, is112, buf_offset_add g ring spans.shaped _ 112 slots,
    spans.shaped.length]
  exact ⟨g.offset_at_not_neg _, by omega, _, bytes, _, _, span_at_slot g ring spans.shaped _ 8 8 (by omega), isLive,
    span_at_slot g ring spans.shaped _ 92 8 (by omega), span_at_slot g ring spans.shaped _ 100 8 (by omega), by rw [live]⟩

theorem read_next_begins (packet : RingPacket) (data : Option (List UInt8)) (fuel : Nat) (reader : RingReader) (offset : Int64)
    (starts : RingBuffer.startOffset ring reader = some offset) : RingBuffer.readNext fuel ring reader packet data =
      RingBuffer.readNextFrom ring (latestTime ring) (g.offsetAt (last + 1)) packet data fuel 0 reader offset := by
  obtain ⟨notEmpty, inside, id, time, first, final, isId, isTime, isFirst, isFinal, latestTime⟩ := latest_spanned g ring low last spans
  simp only [RingBuffer.readNext, if_neg notEmpty, if_neg inside, isId, isTime, isFirst, isFinal, Option.bind_eq_bind, Option.bind_some,
    latestTime, eob_spans g ring low last spans]
  have begins := start_cases ring reader
  rw [starts] at begins
  cases begins with
  | latest unset notNext named => rw [if_pos unset, if_neg notNext, if_pos named]
  | earliest unset notNext notLatest named => rw [if_pos unset, if_neg notNext, if_neg notLatest, if_pos named]
  | behind stands => rw [if_neg stands]

theorem read_next_idle (reader : RingReader) (starts : RingBuffer.startOffset ring reader = none) :
    ∃ code moved, (code = Constants.ringIdNone ∨ code = Constants.ringIdError) ∧ ∀ fuel packet data,
      RingBuffer.readNext fuel ring reader packet data = some ⟨code, moved, packet, data⟩ := by
  obtain ⟨notEmpty, inside, id, time, first, final, isId, isTime, isFirst, isFinal, latestTime⟩ := latest_spanned g ring low last spans
  simp only [RingBuffer.readNext, if_neg notEmpty, if_neg inside, isId, isTime, isFirst, isFinal, Option.bind_eq_bind, Option.bind_some]
  have begins := start_cases ring reader
  rw [starts] at begins
  cases begins with
  | next unset named =>
      simp only [if_pos unset, if_pos named]
      exact ⟨_, _, Or.inl rfl, fun _ _ _ => rfl⟩
  | unnamed unset notNext notLatest notEarliest =>
      simp only [if_pos unset, if_neg notNext, if_neg notLatest, if_neg notEarliest]
      exact ⟨_, _, Or.inr rfl, fun _ _ _ => rfl⟩

theorem start_on_slot (reader : RingReader) (slotted : OnSlot g reader) (offset : Int64)
    (starts : RingBuffer.startOffset ring reader = some offset) : ∃ k, offset = g.offsetAt k := by
  have begins := start_cases ring reader
  rw [starts] at begins
  cases begins with
  | latest unset notNext named => exact ⟨last, spans.latest⟩
  | earliest unset notNext notLatest named => exact ⟨low, spans.earliest⟩
  | behind stands =>
      obtain ⟨k, isPlace⟩ := slotted.resolve_left stands
      exact ⟨k + 1, by rw [isPlace, next_offset_at g ring spans.shaped]⟩

theorem visits_begin (fuel : Nat) (reader : RingReader) : RingBuffer.readNextVisits fuel ring reader =
    (RingBuffer.startOffset ring reader).elim (some 0) fun offset =>
      RingBuffer.readNextVisitsFrom ring (latestTime ring) (g.offsetAt (last + 1)) fuel 0 reader offset := by
  obtain ⟨notEmpty, inside, id, time, first, final, isId, isTime, isFirst, isFinal, latestTime⟩ := latest_spanned g ring low last spans
  have open' : ¬ (ring.latestOffset < 0 ∨ (ring.dataBuffer.length : Int) < (RingBuffer.bufOffset ring ring.latestOffset + 112).toInt) :=
    not_or.mpr ⟨notEmpty, inside⟩
  rw [RingBuffer.readNextVisits, if_neg open', isTime]
  cases RingBuffer.startOffset ring reader with
  | none => rfl
  | some offset =>
      dsimp only
      rw [latestTime, eob_spans g ring low last spans]
      rfl

theorem due_outcome (reader : RingReader) (slotted : OnSlot g reader) : ScanOutcome g ring reader (nextDue ring reader) := by
  obtain ⟨notEmpty, _⟩ := latest_spanned g ring low last spans
  have visits := fun fuel => visits_begin g ring low last spans fuel reader
  rw [nextDue, if_neg notEmpty]
  cases starts : RingBuffer.startOffset ring reader with
  | none =>
      obtain ⟨code, moved, isCode, ran⟩ := read_next_idle g ring low last spans reader starts
      rw [starts] at visits
      exact .nothing 0 (Nat.zero_le _) (fun fuel _ => visits fuel) fun fuel _ packet data => ⟨code, moved, isCode, ran fuel packet data⟩
  | some offset =>
      obtain ⟨k, rfl⟩ := start_on_slot g ring low last spans reader slotted offset starts
      have begins := fun fuel packet data => read_next_begins g ring low last spans packet data fuel reader _ starts
      have agrees := fun fuel packet data => scan_agrees g ring low last spans packet data fuel 0 reader k
      have ends := rescan_ends (verdictOn ring reader) (ahead ring (g.offsetAt low)) 100 (by decide) (ahead ring (g.offsetAt k))
      have first := ahead_length ring (g.offsetAt k)
      have again := ahead_length ring (g.offsetAt low)
      rw [starts] at visits
      simp only [Option.elim_some, visits_agree g ring low last spans] at visits
      simp only [← begins] at agrees
      dsimp only
      rw [spans.earliest]
      generalize ending (verdictOn ring reader) (ahead ring (g.offsetAt low)) (ahead ring (g.offsetAt k)) = isDue at ends ⊢
      cases ends with
      | item looked found stop few ran =>
          obtain ⟨place, pkt⟩ := found
          have passes := verdict_passes ring reader place pkt stop
          have handed (fuel : Nat) (enough : looked < fuel) (packet : RingPacket) (data : Option (List UInt8)) :
              ∃ k, place = g.offsetAt k ∧ RingBuffer.readPacketAtOffset ring place = some pkt ∧
                RingBuffer.readNext fuel ring reader packet data = (RingBuffer.copyData ring place pkt.dataSize data).map fun copied =>
                  ⟨pkt.pktId, RingBuffer.moveTo reader place pkt, pkt, copied⟩ := by
            have agreed := agrees fuel packet data
            rw [ran fuel enough] at agreed
            generalize RingBuffer.readNext fuel ring reader packet data = result at agreed ⊢
            cases agreed with
            | packet looked k pkt isRead => exact ⟨k, rfl, isRead, rfl⟩
          obtain ⟨k, rfl, isRead, _⟩ := handed (looked + 1) (Nat.lt_succ_self _) pkt none
          refine .item looked k pkt (by omega) (fun fuel enough => ?_) isRead passes fun fuel enough packet data => ?_
          · rw [visits, ran fuel enough]
            rfl
          · obtain ⟨_, _, _, result⟩ := handed fuel enough packet data
            exact result
      | nothing looked few ran =>
          refine .nothing looked (by omega) (fun fuel enough => ?_) fun fuel enough packet data => ?_
          · rw [visits, ran fuel enough]
            rfl
          · have handed := agrees fuel packet data
            rw [ran fuel enough] at handed
            generalize RingBuffer.readNext fuel ring reader packet data = result at handed ⊢
            cases handed with
            | nothing looked moved => exact ⟨_, moved, Or.inl rfl, rfl⟩
      | never ran =>
          refine .never (fun fuel => ?_) fun fuel packet data => ?_
          · rw [visits, ran fuel]
            rfl
          · have handed := agrees fuel packet data
            rw [ran fuel] at handed
            generalize RingBuffer.readNext fuel ring reader packet data = result at handed ⊢
            cases handed with
            | runs => rfl

end

theorem empty_outcome (g : Geometry) (ring : RingParams) (empty : ring.latestOffset < 0) (reader : RingReader) :
    ScanOutcome g ring reader (nextDue ring reader) := by
  rw [nextDue, if_pos empty]
  refine .nothing 0 (Nat.zero_le _) (fun fuel _ => ?_) fun fuel _ packet data => ?_
  · rw [RingBuffer.readNextVisits, if_pos (Or.inl empty)]
  · rw [RingBuffer.readNext, if_pos empty]
    exact ⟨_, _, Or.inl rfl, rfl⟩

theorem kept_outcome (g : Geometry) (ring : RingParams) (journal : Journal) (keeps : Keeps g ring journal)
    (maxPackets : ring.maxPackets.toNat = g.count) (reader : RingReader) (slotted : OnSlot g reader) :
    ScanOutcome g ring reader (nextDue ring reader) := by
  by_cases nonempty : journal.written = 0
  · exact empty_outcome g ring (by rw [keeps.latest, if_pos nonempty]; decide) reader
  · exact due_outcome g ring _ _ (keeps_spans g ring journal keeps maxPackets nonempty) reader slotted

-- ReadNext returns, or Array.Copy throws on the packet it is to hand over.
def Returns (fuel : Nat) (ring : RingParams) (reader : RingReader) (packet : RingPacket) (data : Option (List UInt8)) : Prop :=
  (∃ reading, RingBuffer.readNext fuel ring reader packet data = some reading) ∨
    ∃ offset pkt, RingBuffer.readPacketAtOffset ring offset = some pkt ∧ RingBuffer.copyData ring offset pkt.dataSize data = none

def ReadNextEnds (ring : RingParams) (reader : RingReader) : Prop :=
  ∃ visited, visited ≤ 2 * ring.maxPackets.toNat + 100 ∧ ∀ fuel, visited < fuel →
    RingBuffer.readNextVisits fuel ring reader = some visited ∧ ∀ packet data, Returns fuel ring reader packet data

-- ReadNext ends unless a packet that is late stands before any that is wanted, both ahead
-- of the reader and from the earliest packet on, and the earliest packet is not late.
theorem read_next_ends_iff (ring : RingParams) (reader : RingReader) (attached : Attached ring reader) :
    (ReadNextEnds ring reader ↔ nextDue ring reader ≠ .never) ∧
      (nextDue ring reader = .never → ∀ fuel packet data, RingBuffer.readNext fuel ring reader packet data = none) := by
  obtain ⟨g, journal, keeps, maxPackets, slotted⟩ := attached_on_slot ring reader attached
  have outcome := kept_outcome g ring journal keeps maxPackets reader slotted
  generalize nextDue ring reader = isDue at outcome ⊢
  cases outcome with
  | item visited k pkt few visits isRead passes ran =>
      have ends : Ending.item (g.offsetAt k, pkt) ≠ .never := by
        intro never
        cases never
      refine ⟨iff_of_true ⟨visited, few, fun fuel enough => ⟨visits fuel enough, fun packet data => ?_⟩⟩ ends,
        fun never => absurd never ends⟩
      have result := ran fuel enough packet data
      cases copied : RingBuffer.copyData ring (g.offsetAt k) pkt.dataSize data with
      | none => exact Or.inr ⟨g.offsetAt k, pkt, isRead, copied⟩
      | some bytes =>
          rw [copied] at result
          exact Or.inl ⟨_, result⟩
  | nothing visited few visits ran =>
      have ends : (Ending.nothing : Ending (Int64 × RingPacket)) ≠ .never := by
        intro never
        cases never
      refine ⟨iff_of_true ⟨visited, few, fun fuel enough => ⟨visits fuel enough, fun packet data => ?_⟩⟩ ends,
        fun never => absurd never ends⟩
      obtain ⟨code, moved, _, result⟩ := ran fuel enough packet data
      exact Or.inl ⟨_, result⟩
  | never visits runs =>
      refine ⟨iff_of_false ?_ (fun other => other rfl), fun _ => runs⟩
      rintro ⟨visited, _, ends⟩
      have visit := (ends (visited + 1) (Nat.lt_succ_self _)).1
      rw [visits] at visit
      cases visit

theorem reached_run (requests : List Request) (ring next : RingParams) (packets : List RingPacket) (reached : Reached ring)
    (ran : writeAll ring requests = some (next, packets)) : Reached next := by
  induction requests generalizing ring packets with
  | nil =>
      cases ran
      exact reached
  | cons request rest ih =>
      rw [writeAll] at ran
      split at ran
      · rename_i middle packet wrote
        obtain ⟨result, rest_ran, same⟩ := Option.map_eq_some_iff.mp ran
        obtain ⟨rfl, rfl⟩ := Prod.mk.inj same
        exact ih middle result.2 (.wrote ring middle reached request 0 packet wrote) rest_ran
      · cases ran

def matchesNothing : RingReader :=
  ⟨-1, Constants.ringIdEarliest, NsTime.unset, NsTime.unset, NsTime.unset, none, some fun _ => false, none⟩

def clockSteps : List Request := [byteRequest ⟨1⟩ ['A'] 7, byteRequest ⟨10⟩ ['A'] 8, byteRequest ⟨5⟩ ['A'] 9]

theorem four_slot_ring_reached : Reached fourSlotRing :=
  .opened false ⟨none, none⟩ 4096 4608 128 true fourSlotRing rfl (Or.inl rfl) (by decide) (by decide)

theorem read_next_ends_without_patterns : ∃ ring packets, writeAll fourSlotRing clockSteps = some (ring, packets) ∧
    ReadNextEnds ring { matchesNothing with matching := none } := by
  have computed : (writeAll fourSlotRing clockSteps).map (fun result =>
      (nextDue result.1 { matchesNothing with matching := none }).isNever) = some false := by
    decide +kernel
  cases ran : writeAll fourSlotRing clockSteps with
  | none =>
      rw [ran] at computed
      cases computed
  | some result =>
      obtain ⟨ring, packets⟩ := result
      have reached := reached_run clockSteps fourSlotRing ring packets four_slot_ring_reached ran
      refine ⟨ring, packets, rfl, (read_next_ends_iff ring _ (.joined ring _ reached (by decide))).1.mpr fun never => ?_⟩
      rw [ran, Option.map_some, Option.some.injEq, (Ending.is_never_iff _).mpr never] at computed
      cases computed

-- Three packets in four slots, the second one later than the last.
theorem clock_steps_back_circles : ∃ ring packets, writeAll fourSlotRing clockSteps = some (ring, packets) ∧
    Attached ring matchesNothing ∧ (∀ fuel packet data, RingBuffer.readNext fuel ring matchesNothing packet data = none) ∧
    ¬ ReadNextEnds ring matchesNothing := by
  have computed : (writeAll fourSlotRing clockSteps).map (fun result => (nextDue result.1 matchesNothing).isNever) = some true := by
    decide +kernel
  cases ran : writeAll fourSlotRing clockSteps with
  | none =>
      rw [ran] at computed
      cases computed
  | some result =>
      obtain ⟨ring, packets⟩ := result
      have reached := reached_run clockSteps fourSlotRing ring packets four_slot_ring_reached ran
      have attached : Attached ring matchesNothing := .joined ring matchesNothing reached (by decide)
      obtain ⟨g, journal, keeps, maxPackets, slotted⟩ := attached_on_slot ring matchesNothing attached
      have outcome := kept_outcome g ring journal keeps maxPackets matchesNothing slotted
      rw [ran, Option.map_some, Option.some.injEq, Ending.is_never_iff] at computed
      rw [computed] at outcome
      cases outcome with
      | never visits runs =>
          refine ⟨ring, packets, rfl, attached, runs, ?_⟩
          rintro ⟨visited, _, ends⟩
          have visit := (ends (visited + 1) (Nat.lt_succ_self _)).1
          rw [visits] at visit
          cases visit

end RingServer
