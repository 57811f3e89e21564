import RingServer.Ring.KeepSeek
import RingServer.Ring.WriteSize

set_option autoImplicit false

namespace RingServer

open Library

-- A ring that Write calls under any clock lead to, with a reader that the operations on
-- readers lead to: one without an offset, and one that its client changes but for the
-- offset, included.
inductive Attached : RingParams → RingReader → Prop
  | joined (ring : RingParams) (reader : RingReader) (reached : Reached ring) (unset : reader.pktOffset < 0) : Attached ring reader
  | wrote (ring next : RingParams) (reader : RingReader) (attached : Attached ring reader) (request : Request) (code : Int)
      (packet : RingPacket) (wrote : writeRequest ring request = some (code, next, packet)) : Attached next reader
  | changed (ring : RingParams) (reader other : RingReader) (attached : Attached ring reader) (same : other.pktOffset = reader.pktOffset) :
      Attached ring other
  | readOne (ring : RingParams) (reader : RingReader) (attached : Attached ring reader) (fuel : Nat) (reqId : UInt64) (packet : RingPacket)
      (data : Option (List UInt8)) (reading : RingBuffer.Reading)
      (ran : RingBuffer.read fuel ring reader reqId packet data = some reading) : Attached ring reading.reader
  | readNext (ring : RingParams) (reader : RingReader) (attached : Attached ring reader) (fuel : Nat) (packet : RingPacket)
      (data : Option (List UInt8)) (reading : RingBuffer.Reading)
      (ran : RingBuffer.readNext fuel ring reader packet data = some reading) : Attached ring reading.reader
  | positioned (ring : RingParams) (reader : RingReader) (attached : Attached ring reader) (fuel : Nat) (pktId : UInt64) (pktTime : NsTime)
      (result : UInt64 × RingReader) (ran : RingBuffer.position fuel ring reader pktId pktTime = some result) : Attached ring result.2
  | after (ring : RingParams) (reader : RingReader) (attached : Attached ring reader) (fuel : Nat) (refTime : NsTime) (whence : Int)
      (result : UInt64 × RingReader) (ran : RingBuffer.after fuel ring reader refTime whence = some result) : Attached ring result.2
  | afterRev (ring : RingParams) (reader : RingReader) (attached : Attached ring reader) (fuel : Nat) (refTime : NsTime)
      (pktLimit : UInt64) (result : UInt64 × RingReader)
      (ran : RingBuffer.afterRev fuel ring reader refTime pktLimit = some result) : Attached ring result.2

def OnSlot (g : Geometry) (reader : RingReader) : Prop := reader.pktOffset < 0 ∨ ∃ k, reader.pktOffset = g.offsetAt k

section

variable (g : Geometry) (ring : RingParams) (journal : Journal) (keeps : Keeps g ring journal)

include keeps

theorem ends_on_slots (some : ¬ ring.latestOffset < 0) :
    (∃ k, ring.latestOffset = g.offsetAt k) ∧ ∃ k, ring.earliestOffset = g.offsetAt k := by
  have nonempty : journal.written ≠ 0 := fun none => some (by rw [keeps.latest, if_pos none]; decide)
  refine ⟨⟨journal.written - 1, ?_⟩, ⟨journal.low g, ?_⟩⟩
  · rw [keeps.latest, if_neg nonempty]
  · rw [keeps.earliest, if_neg nonempty]

theorem found_on_slot (fuel : Nat) (pktId : UInt64) (offset : Int64) (time : NsTime)
    (ran : RingBuffer.findOffsetForId fuel ring pktId = some (some (offset, time))) :
    ∃ i header, journal.Resident g i ∧ offset = g.offsetAt i ∧ RingBuffer.readPacketAtOffset ring offset = some header ∧
      HeaderOf (journal.packet i) header ∧ header.pktId = pktId ∧ header.pktTime = time := by
  rw [RingBuffer.findOffsetForId] at ran
  by_cases empty : ring.earliestOffset < 0 ∨ ring.latestOffset < 0
  · rw [if_pos empty] at ran
    cases ran
  have nonempty : journal.written ≠ 0 := fun none => empty (Or.inl (by rw [keeps.earliest, if_pos none]; decide))
  have atEarliest : ring.earliestOffset = g.offsetAt (journal.low g) := by rw [keeps.earliest, if_neg nonempty]
  rw [if_neg empty, eob_kept g ring journal keeps nonempty] at ran
  exact find_from_sought g ring journal keeps pktId fuel _ offset time ⟨journal.low g, Nat.sub_le _ _, atEarliest⟩ ran

theorem read_on_slot (fuel : Nat) (reader : RingReader) (slotted : OnSlot g reader) (reqId : UInt64) (packet : RingPacket)
    (data : Option (List UInt8)) (reading : RingBuffer.Reading) (ran : RingBuffer.read fuel ring reader reqId packet data = some reading) :
    OnSlot g reading.reader := by
  rw [RingBuffer.read] at ran
  by_cases reserved : reqId > Constants.ringIdMaximum
  · rw [if_pos reserved] at ran
    cases ran
    exact slotted
  rw [if_neg reserved, Option.bind_eq_bind, Option.bind_eq_some_iff] at ran
  obtain ⟨found, searched, ran⟩ := ran
  cases found with
  | none =>
      cases ran
      exact slotted
  | some found =>
      obtain ⟨offset, time⟩ := found
      obtain ⟨i, header, resident, isOffset, isRead, isHeader, isId, isTime⟩ :=
        found_on_slot g ring journal keeps fuel reqId offset time searched
      dsimp only at ran
      rw [isRead] at ran
      simp only [Option.bind_eq_bind, Option.bind_eq_some_iff] at ran
      obtain ⟨copied, _, ran⟩ := ran
      by_cases other : reqId ≠ header.pktId
      · rw [if_pos other] at ran
        cases ran
        exact slotted
      · rw [if_neg other] at ran
        cases ran
        exact Or.inr ⟨i, isHeader.offset.trans (keeps.offsets i resident)⟩

theorem position_on_slot (fuel : Nat) (reader : RingReader) (slotted : OnSlot g reader) (pktId : UInt64) (pktTime : NsTime)
    (result : UInt64 × RingReader) (ran : RingBuffer.position fuel ring reader pktId pktTime = some result) : OnSlot g result.2 := by
  rw [RingBuffer.position] at ran
  dsimp only at ran
  generalize (if pktId = Constants.ringIdEarliest then ring.earliestId
    else if pktId = Constants.ringIdLatest then ring.latestId else pktId) = target at ran
  by_cases reserved : target > Constants.ringIdMaximum
  · rw [if_pos reserved] at ran
    cases ran
    exact slotted
  rw [if_neg reserved, Option.bind_eq_bind, Option.bind_eq_some_iff] at ran
  obtain ⟨found, searched, ran⟩ := ran
  cases found with
  | none =>
      cases ran
      exact slotted
  | some found =>
      obtain ⟨offset, time⟩ := found
      obtain ⟨i, header, resident, isOffset, isRead, isHeader, isId, isTime⟩ :=
        found_on_slot g ring journal keeps fuel target offset time searched
      dsimp only at ran
      rw [isRead] at ran
      dsimp only at ran
      by_cases timed : pktTime ≠ NsTime.unset ∧ pktTime ≠ NsTime.error ∧ pktTime ≠ time
      · rw [if_pos timed] at ran
        cases ran
        exact slotted
      rw [if_neg timed] at ran
      by_cases other : target ≠ header.pktId
      · rw [if_pos other] at ran
        cases ran
        exact slotted
      · rw [if_neg other] at ran
        cases ran
        exact Or.inr ⟨i, isOffset⟩

theorem after_from_on_slot (refTime : NsTime) (eobOffset : Int64) (reader : RingReader) (slotted : OnSlot g reader) (fuel k : Nat)
    (result : UInt64 × RingReader) (ran : RingBuffer.afterFrom ring refTime eobOffset reader fuel (g.offsetAt k) = some result) :
    OnSlot g result.2 := by
  induction fuel generalizing k with
  | zero => cases ran
  | succ fuel ih =>
      rw [RingBuffer.afterFrom] at ran
      by_cases atEnd : g.offsetAt k = eobOffset
      · rw [if_pos atEnd] at ran
        cases ran
        exact slotted
      rw [if_neg atEnd] at ran
      cases read : RingBuffer.readPacketAtOffset ring (g.offsetAt k) with
      | none =>
          rw [read] at ran
          cases ran
          exact slotted
      | some pkt =>
          rw [read] at ran
          dsimp only at ran
          by_cases hit : pkt.dataStart.value ≥ refTime.value
          · rw [if_pos hit] at ran
            cases ran
            exact Or.inr ⟨k, rfl⟩
          · rw [if_neg hit, next_offset_at g ring keeps.shaped] at ran
            exact ih (k + 1) ran

theorem after_on_slot (fuel : Nat) (reader : RingReader) (slotted : OnSlot g reader) (refTime : NsTime) (whence : Int)
    (result : UInt64 × RingReader) (ran : RingBuffer.after fuel ring reader refTime whence = some result) : OnSlot g result.2 := by
  rw [RingBuffer.after] at ran
  by_cases empty : ring.latestOffset < 0
  · rw [if_pos empty] at ran
    cases ran
    exact slotted
  rw [if_neg empty] at ran
  obtain ⟨_, low, atEarliest⟩ := ends_on_slots g ring journal keeps empty
  have zero : (0 : Int64) = g.offsetAt 0 := by
    rw [Geometry.offsetAt, Geometry.place, Nat.zero_mod, Nat.zero_mul]
    rfl
  obtain ⟨k, start⟩ : ∃ k, (if (if whence = 0 then ring.earliestOffset else 0) < 0 then 0
      else if whence = 0 then ring.earliestOffset else 0) = g.offsetAt k := by
    by_cases first : whence = 0
    · rw [if_pos first, atEarliest, if_neg (g.offset_at_not_neg low)]
      exact ⟨low, rfl⟩
    · rw [if_neg first, if_neg (by decide)]
      exact ⟨0, zero⟩
  dsimp only at ran
  rw [start] at ran
  exact after_from_on_slot g ring journal keeps refTime _ reader slotted fuel k result ran

theorem after_rev_from_on_slot (slots : 0 < g.slot) (refTime : NsTime) (pktLimit : UInt64) (fuel : Nat) (count : UInt64)
    (reader : RingReader) (slotted : OnSlot g reader) (k : Nat) (result : UInt64 × RingReader)
    (ran : RingBuffer.afterRevFrom ring refTime pktLimit fuel count reader (g.offsetAt k) = some result) : OnSlot g result.2 := by
  induction fuel generalizing count reader k with
  | zero => cases ran
  | succ fuel ih =>
      rw [RingBuffer.afterRevFrom] at ran
      dsimp only at ran
      by_cases stop : ¬ (g.offsetAt k ≥ 0 ∧ count < pktLimit)
      · rw [if_pos stop] at ran
        cases ran
        exact slotted
      rw [if_neg stop] at ran
      cases read : RingBuffer.readPacketAtOffset ring (g.offsetAt k) with
      | none =>
          rw [read] at ran
          cases ran
          exact slotted
      | some pkt =>
          rw [read] at ran
          dsimp only at ran
          generalize decide (pkt.dataStart.value ≥ refTime.value) = hit at ran
          have moved : OnSlot g (if hit = true then RingBuffer.moveTo reader (g.offsetAt k) pkt else reader) := by
            cases hit with
            | true => exact Or.inr ⟨k, rfl⟩
            | false => exact slotted
          generalize (if hit = true then RingBuffer.moveTo reader (g.offsetAt k) pkt else reader) = next at ran moved
          generalize (if hit = true then count + 1 else count) = count' at ran
          by_cases enough : hit = true ∧ count' ≥ pktLimit
          · rw [if_pos enough] at ran
            cases ran
            exact moved
          rw [if_neg enough, prev_offset_at g ring keeps.shaped slots] at ran
          by_cases around : g.offsetAt (k + g.count - 1) = ring.latestOffset
          · rw [if_pos around] at ran
            cases ran
            exact moved
          · rw [if_neg around] at ran
            exact ih count' next moved (k + g.count - 1) ran

theorem after_rev_on_slot (fuel : Nat) (reader : RingReader) (slotted : OnSlot g reader) (refTime : NsTime) (pktLimit : UInt64)
    (result : UInt64 × RingReader) (ran : RingBuffer.afterRev fuel ring reader refTime pktLimit = some result) : OnSlot g result.2 := by
  rw [RingBuffer.afterRev] at ran
  by_cases empty : ring.latestOffset < 0
  · rw [if_pos empty] at ran
    cases ran
    exact slotted
  rw [if_neg empty] at ran
  obtain ⟨⟨last, atLatest⟩, _⟩ := ends_on_slots g ring journal keeps empty
  have positive := g.positive
  have nonempty : journal.written ≠ 0 := fun none => empty (by rw [keeps.latest, if_pos none]; decide)
  have size := slot_keeps_size g _ journal (journal.written - 1)
    (keeps.slots _ ⟨by simp only [Journal.low, oldest]; omega, by omega⟩)
  rw [atLatest] at ran
  exact after_rev_from_on_slot g ring journal keeps (by omega) refTime pktLimit fuel 0 reader slotted last result ran

theorem read_next_from_on_slot (latestPTime : NsTime) (eobOffset : Int64) (packet : RingPacket) (data : Option (List UInt8))
    (low : Nat) (atEarliest : ring.earliestOffset = g.offsetAt low) (fuel skipped : Nat) (reader : RingReader) (slotted : OnSlot g reader)
    (k : Nat) (reading : RingBuffer.Reading)
    (ran : RingBuffer.readNextFrom ring latestPTime eobOffset packet data fuel skipped reader (g.offsetAt k) = some reading) :
    OnSlot g reading.reader := by
  induction fuel generalizing skipped reader k with
  | zero => cases ran
  | succ fuel ih =>
      cases read_next_from_turn ring latestPTime eobOffset packet data fuel skipped reader _ reading ran with
      | stopped isReading =>
          rw [isReading]
          exact slotted
      | restarted pkt isRead late rest =>
          rw [atEarliest] at rest
          exact ih _ reader slotted low rest
      | skipped pkt isRead rest =>
          rw [next_offset_at g ring keeps.shaped] at rest
          exact ih _ (RingBuffer.moveTo reader (g.offsetAt k) pkt) (Or.inr ⟨k, rfl⟩) (k + 1) rest
      | met pkt isRead code copied isCopied isCode isReading =>
          rw [isReading]
          exact Or.inr ⟨k, rfl⟩

theorem read_next_on_slot (fuel : Nat) (reader : RingReader) (slotted : OnSlot g reader) (packet : RingPacket)
    (data : Option (List UInt8)) (reading : RingBuffer.Reading) (ran : RingBuffer.readNext fuel ring reader packet data = some reading) :
    OnSlot g reading.reader := by
  have empties (unset : reader.pktOffset < 0) (pktId : UInt64) : OnSlot g { reader with pktId := pktId } := Or.inl unset
  rw [RingBuffer.readNext] at ran
  by_cases empty : ring.latestOffset < 0
  · rw [if_pos empty] at ran
    cases ran
    by_cases next : reader.pktOffset < 0 ∧ reader.pktId = Constants.ringIdNext
    · simp only [if_pos next]
      exact empties next.1 _
    · simp only [if_neg next]
      exact slotted
  obtain ⟨⟨last, atLatest⟩, low, atEarliest⟩ := ends_on_slots g ring journal keeps empty
  rw [if_neg empty] at ran
  dsimp only at ran
  by_cases short : (ring.dataBuffer.length : Int) < (RingBuffer.bufOffset ring ring.latestOffset + 112).toInt
  · rw [if_pos short] at ran
    cases ran
    exact slotted
  rw [if_neg short] at ran
  simp only [Option.bind_eq_bind, Option.bind_eq_some_iff] at ran
  obtain ⟨_, _, _, _, _, _, _, _, ran⟩ := ran
  have scan (k : Nat) (scanned : ∃ latestPTime eobOffset,
      RingBuffer.readNextFrom ring latestPTime eobOffset packet data fuel 0 reader (g.offsetAt k) = some reading) :
      OnSlot g reading.reader := by
    obtain ⟨latestPTime, eobOffset, scanned⟩ := scanned
    exact read_next_from_on_slot g ring journal keeps latestPTime eobOffset packet data low atEarliest fuel 0 reader slotted k reading
      scanned
  by_cases unset : reader.pktOffset < 0
  · rw [if_pos unset] at ran
    by_cases next : reader.pktId = Constants.ringIdNext
    · rw [if_pos next] at ran
      cases ran
      exact Or.inr ⟨last, atLatest⟩
    rw [if_neg next] at ran
    by_cases latest : reader.pktId = Constants.ringIdLatest
    · rw [if_pos latest] at ran
      exact scan last ⟨_, _, atLatest ▸ ran⟩
    rw [if_neg latest] at ran
    by_cases earliest : reader.pktId = Constants.ringIdEarliest
    · rw [if_pos earliest] at ran
      exact scan low ⟨_, _, atEarliest ▸ ran⟩
    rw [if_neg earliest] at ran
    cases ran
    exact slotted
  · rw [if_neg unset] at ran
    obtain ⟨k, stands⟩ := slotted.resolve_left unset
    rw [stands, next_offset_at g ring keeps.shaped] at ran
    exact scan (k + 1) ⟨_, _, ran⟩

end

theorem reached_counted (ring : RingParams) (reached : Reached ring) :
    ∃ g journal, Keeps g ring journal ∧ ring.maxPackets.toNat = g.count := by
  induction reached with
  | opened named files pageSize ringSize pktSize volatileFlag ring init unread room two =>
      obtain ⟨g, headerSize, maxPackets, maxOffset, fresh, -, -, -⟩ :=
        initialize_fresh named files pageSize ringSize pktSize volatileFlag ring init unread room two
      exact ⟨g, Journal.empty, fresh_keeps g ring fresh, fresh.maxPackets⟩
  | kept pageSize ringSize pktSize ring lived =>
      obtain ⟨g, journal, headerSize, maxPackets, maxOffset, alive, count⟩ := lived_counted pageSize ringSize pktSize ring lived
      exact ⟨g, journal, holds_keeps g ring journal alive.holds, alive.setUp.maxPackets ▸ count⟩
  | wrote ring next _ request code packet wrote ih =>
      obtain ⟨g, journal, keeps, count⟩ := ih
      obtain ⟨journal', kept, same⟩ := wrote_keeps g ring next journal keeps request code packet wrote
      exact ⟨g, journal', kept, same ▸ count⟩

theorem attached_on_slot (ring : RingParams) (reader : RingReader) (attached : Attached ring reader) :
    ∃ g journal, Keeps g ring journal ∧ ring.maxPackets.toNat = g.count ∧ OnSlot g reader := by
  induction attached with
  | joined ring reader reached unset =>
      obtain ⟨g, journal, keeps, count⟩ := reached_counted ring reached
      exact ⟨g, journal, keeps, count, Or.inl unset⟩
  | wrote ring next reader _ request code packet wrote ih =>
      obtain ⟨g, journal, keeps, count, slotted⟩ := ih
      obtain ⟨journal', kept, same⟩ := wrote_keeps g ring next journal keeps request code packet wrote
      exact ⟨g, journal', kept, same ▸ count, slotted⟩
  | changed ring reader other _ same ih =>
      obtain ⟨g, journal, keeps, count, slotted⟩ := ih
      refine ⟨g, journal, keeps, count, ?_⟩
      rw [OnSlot, same]
      exact slotted
  | readOne ring reader _ fuel reqId packet data reading ran ih =>
      obtain ⟨g, journal, keeps, count, slotted⟩ := ih
      exact ⟨g, journal, keeps, count, read_on_slot g ring journal keeps fuel reader slotted reqId packet data reading ran⟩
  | readNext ring reader _ fuel packet data reading ran ih =>
      obtain ⟨g, journal, keeps, count, slotted⟩ := ih
      exact ⟨g, journal, keeps, count, read_next_on_slot g ring journal keeps fuel reader slotted packet data reading ran⟩
  | positioned ring reader _ fuel pktId pktTime result ran ih =>
      obtain ⟨g, journal, keeps, count, slotted⟩ := ih
      exact ⟨g, journal, keeps, count, position_on_slot g ring journal keeps fuel reader slotted pktId pktTime result ran⟩
  | after ring reader _ fuel refTime whence result ran ih =>
      obtain ⟨g, journal, keeps, count, slotted⟩ := ih
      exact ⟨g, journal, keeps, count, after_on_slot g ring journal keeps fuel reader slotted refTime whence result ran⟩
  | afterRev ring reader _ fuel refTime pktLimit result ran ih =>
      obtain ⟨g, journal, keeps, count, slotted⟩ := ih
      exact ⟨g, journal, keeps, count, after_rev_on_slot g ring journal keeps fuel reader slotted refTime pktLimit result ran⟩

end RingServer
