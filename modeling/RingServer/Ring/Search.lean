import RingServer.Ring.StreamIndex

set_option autoImplicit false

namespace RingServer

open Library

structure Sized (request : Request) : Prop where
  header : request.packet.dataSize = request.dataSize
  whole : request.dataSize.toNat ≤ request.packetData.length

def Request.payload (request : Request) : List UInt8 := request.packetData.take request.dataSize.toNat

def Room (request : Request) (data : Option (List UInt8)) : Prop :=
  ∀ buffer, data = some buffer → request.dataSize.toNat ≤ buffer.length

def received (request : Request) (data : Option (List UInt8)) : Option (List UInt8) :=
  data.map fun buffer => request.payload ++ buffer.drop request.dataSize.toNat

def residentWrites (ring : RingParams) (requests : List Request) (packets : List RingPacket) : List (Request × RingPacket) :=
  (requests.zip packets).drop (requests.length - residents ring requests.length)

structure FindsById (fuel : Nat) (ring : RingParams) (writes : List (Request × RingPacket)) : Prop where
  find : ∀ (k : Nat) request packet, writes[k]? = some (request, packet) →
    RingBuffer.findOffsetForId fuel ring packet.pktId = some (some (slotAt ring k, packet.pktTime))
  read : ∀ request packet, (request, packet) ∈ writes → ∀ reader caller data, Room request data →
    ∃ header, unlinked header = packet ∧ RingBuffer.read fuel ring reader packet.pktId caller data =
      some ⟨packet.pktId, RingBuffer.moveTo reader packet.offset packet, header, received request data⟩
  position : ∀ request packet, (request, packet) ∈ writes → ∀ reader pktTime,
    (pktTime = NsTime.unset ∨ pktTime = NsTime.error ∨ pktTime = packet.pktTime) →
    RingBuffer.position fuel ring reader packet.pktId pktTime = some (packet.pktId, RingBuffer.moveTo reader packet.offset packet)
  readAbsent : ∀ pktId, pktId ≤ Constants.ringIdMaximum → (∀ write ∈ writes, write.2.pktId ≠ pktId) → ∀ reader caller data,
    RingBuffer.read fuel ring reader pktId caller data = some ⟨Constants.ringIdNone, reader, caller, data⟩
  positionAbsent : ∀ pktId, pktId ≤ Constants.ringIdMaximum → (∀ write ∈ writes, write.2.pktId ≠ pktId) → ∀ reader pktTime,
    RingBuffer.position fuel ring reader pktId pktTime = some (Constants.ringIdNone, reader)
  earliest : ∀ request packet, writes.head? = some (request, packet) → ∀ reader,
    RingBuffer.position fuel ring reader Constants.ringIdEarliest NsTime.unset =
      some (packet.pktId, RingBuffer.moveTo reader packet.offset packet)
  latest : ∀ request packet, writes.getLast? = some (request, packet) → ∀ reader,
    RingBuffer.position fuel ring reader Constants.ringIdLatest NsTime.unset =
      some (packet.pktId, RingBuffer.moveTo reader packet.offset packet)

theorem payload_of_body (request : Request) (sized : Sized request) (slot : Nat) :
    (slotBody slot request.packetData request.dataSize).take request.dataSize.toNat = request.payload := by
  have whole := sized.whole
  have length : (request.packetData.take request.dataSize.toNat).length = request.dataSize.toNat := by
    rw [List.length_take]
    omega
  exact List.take_left' length

section

variable (g : Geometry) (ring : RingParams) (journal : Journal) (holds : Holds g ring journal)

include holds

theorem latest_offset_at (some : 0 < journal.written) : ring.latestOffset = g.offsetAt (journal.written - 1) := by
  have positive := g.positive
  have bound := congrArg Bound.offset holds.latest
  rw [if_neg (by omega)] at bound
  exact bound.trans (holds.offsets _ ⟨by simp only [Journal.low, oldest]; omega, by omega⟩)

theorem earliest_offset_at (some : 0 < journal.written) : ring.earliestOffset = g.offsetAt (journal.low g) :=
  slot_at_low g ring journal holds some 0

theorem eob_offset_at (some : 0 < journal.written) :
    RingBuffer.nextOffset ring.latestOffset ring.maxOffset ring.pktSize = g.offsetAt journal.written := by
  rw [latest_offset_at g ring journal holds some, next_offset_at g ring holds.shaped, Nat.sub_add_cancel some]

-- The end of a full ring is its start, so the loop of FindOffsetForID never runs.
theorem find_offset_full (full : g.count ≤ journal.written) (fuel : Nat) (pktId : UInt64) :
    RingBuffer.findOffsetForId (fuel + 1) ring pktId = some none := by
  have positive := g.positive
  have eob := eob_offset_at g ring journal holds (by omega)
  have earliest := earliest_offset_at g ring journal holds (by omega)
  have same : ring.earliestOffset = RingBuffer.nextOffset ring.latestOffset ring.maxOffset ring.pktSize := by
    rw [eob, earliest]
    exact (g.offset_at_congr _ _ (slot_reused g.count journal.written full)).symm
  simp only [RingBuffer.findOffsetForId, RingBuffer.findFrom, if_pos same, ite_self]

theorem find_from_filling (filling : journal.written < g.count) (pktId : UInt64) (fuel i : Nat) (ordered : i ≤ journal.written)
    (enough : journal.written < fuel + i) :
    RingBuffer.findFrom ring pktId (g.offsetAt journal.written) fuel (g.offsetAt i) =
      some ((firstIn (fun k => (journal.packet k).pktId = pktId) i journal.written).map fun k =>
        (g.offsetAt k, (journal.packet k).pktTime)) := by
  induction fuel generalizing i with
  | zero => exact absurd ordered (by omega)
  | succ fuel ih =>
      by_cases last : i = journal.written
      · have nothing : firstIn (fun k => (journal.packet k).pktId = pktId) i journal.written = none :=
          (first_in_none _ _ _).mpr (fun k above below => absurd below (by omega))
        rw [nothing, RingBuffer.findFrom, if_pos (by rw [last])]
        rfl
      · have lowIs : journal.low g = 0 := by simp only [Journal.low, oldest]; omega
        have resident : journal.Resident g i := ⟨by omega, by omega⟩
        have size := resident_slot g ring journal holds i resident
        have apart : ∀ j k, j < g.count → k < g.count → j ≠ k → g.offsetAt j ≠ g.offsetAt k := by
          intro j k belowJ belowK different
          refine g.offset_at_ne j k (by omega) ?_
          rwa [Nat.mod_eq_of_lt belowJ, Nat.mod_eq_of_lt belowK]
        have earliest := earliest_offset_at g ring journal holds (by omega)
        have header : (journal.header g i).pktId = (journal.packet i).pktId := rfl
        rw [RingBuffer.findFrom, if_neg (apart i journal.written (by omega) filling last), read_resident g ring journal holds i resident]
        simp only [header]
        by_cases found : (journal.packet i).pktId = pktId
        · rw [if_pos found, first_in_head _ _ _ resident.2 found]
          rfl
        · rw [if_neg found, first_in_tail _ _ _ found, next_offset_at g ring holds.shaped, earliest, lowIs,
            if_neg (apart (i + 1) 0 (by omega) (by omega) (by omega)), ih (i + 1) (by omega) (by omega)]

theorem find_offset_filling (filling : journal.written < g.count) (pktId : UInt64) (fuel : Nat) (enough : journal.written < fuel) :
    RingBuffer.findOffsetForId fuel ring pktId =
      some ((firstIn (fun k => (journal.packet k).pktId = pktId) 0 journal.written).map fun k =>
        (g.offsetAt k, (journal.packet k).pktTime)) := by
  by_cases empty : journal.written = 0
  · have bound := congrArg Bound.offset holds.earliest
    rw [if_pos empty] at bound
    have negative : ring.earliestOffset < 0 := by
      have isNone : ring.earliestOffset = -1 := bound
      rw [isNone]
      decide
    have nothing : firstIn (fun k => (journal.packet k).pktId = pktId) 0 journal.written = none :=
      (first_in_none _ _ _).mpr (fun k above below => absurd below (by omega))
    rw [RingBuffer.findOffsetForId, if_pos (Or.inl negative), nothing]
    rfl
  · have lowIs : journal.low g = 0 := by simp only [Journal.low, oldest]; omega
    have inside : ¬ (ring.earliestOffset < 0 ∨ ring.latestOffset < 0) := by
      rw [earliest_offset_at g ring journal holds (by omega), latest_offset_at g ring journal holds (by omega)]
      exact not_or.mpr ⟨g.offset_at_not_neg _, g.offset_at_not_neg _⟩
    rw [RingBuffer.findOffsetForId, if_neg inside, eob_offset_at g ring journal holds (by omega),
      earliest_offset_at g ring journal holds (by omega), lowIs]
    exact find_from_filling g ring journal holds filling pktId fuel 0 (by omega) (by omega)

theorem copy_resident (i : Nat) (resident : journal.Resident g i) (request : Request) (sized : Sized request)
    (fits : request.dataSize.toNat + 112 ≤ g.slot)
    (body : (journal.entry i).body = slotBody g.slot request.packetData request.dataSize) (data : Option (List UInt8))
    (room : Room request data) :
    RingBuffer.copyData ring (g.offsetAt i) request.dataSize data = some (received request data) := by
  cases data with
  | none => rfl
  | some buffer =>
      have copied := copy_slot g ring holds.shaped i _ _ (holds.slots i resident) request.dataSize fits buffer (room buffer rfl)
      rw [copied, body, payload_of_body request sized]
      rfl

theorem read_found (i : Nat) (resident : journal.Resident g i) (request : Request) (sized : Sized request)
    (fits : request.dataSize.toNat + 112 ≤ g.slot) (size : (journal.packet i).dataSize = request.packet.dataSize)
    (body : (journal.entry i).body = slotBody g.slot request.packetData request.dataSize) (fuel : Nat) (time : NsTime)
    (valid : (journal.packet i).pktId ≤ Constants.ringIdMaximum)
    (found : RingBuffer.findOffsetForId fuel ring (journal.packet i).pktId = some (some (g.offsetAt i, time)))
    (reader : RingReader) (caller : RingPacket) (data : Option (List UInt8)) (room : Room request data) :
    RingBuffer.read fuel ring reader (journal.packet i).pktId caller data = some ⟨(journal.packet i).pktId,
      RingBuffer.moveTo reader (journal.packet i).offset (journal.packet i), journal.header g i, received request data⟩ := by
  have headerSize : (journal.header g i).dataSize = request.dataSize := size.trans sized.header
  have headerId : (journal.header g i).pktId = (journal.packet i).pktId := rfl
  have copied := copy_resident g ring journal holds i resident request sized fits body data room
  rw [RingBuffer.read, if_neg (UInt64.not_lt.mpr valid), found, Option.bind_eq_bind, Option.bind_some]
  simp only [read_resident g ring journal holds i resident, headerSize, copied, headerId, ne_eq,
    not_true_eq_false, if_false]
  rfl

theorem position_found (i : Nat) (resident : journal.Resident g i) (fuel : Nat)
    (valid : (journal.packet i).pktId ≤ Constants.ringIdMaximum)
    (found : RingBuffer.findOffsetForId fuel ring (journal.packet i).pktId =
      some (some (g.offsetAt i, (journal.packet i).pktTime)))
    (reader : RingReader) (pktId : UInt64) (pktTime : NsTime)
    (resolved : (if pktId = Constants.ringIdEarliest then ring.earliestId
      else if pktId = Constants.ringIdLatest then ring.latestId else pktId) = (journal.packet i).pktId)
    (time : pktTime = NsTime.unset ∨ pktTime = NsTime.error ∨ pktTime = (journal.packet i).pktTime) :
    RingBuffer.position fuel ring reader pktId pktTime = some ((journal.packet i).pktId,
      RingBuffer.moveTo reader (journal.packet i).offset (journal.packet i)) := by
  have headerId : (journal.header g i).pktId = (journal.packet i).pktId := rfl
  have agrees : ¬ (pktTime ≠ NsTime.unset ∧ pktTime ≠ NsTime.error ∧ pktTime ≠ (journal.packet i).pktTime) := by
    intro differs
    rcases time with unset | error | same
    · exact differs.1 unset
    · exact differs.2.1 error
    · exact differs.2.2 same
  simp only [RingBuffer.position, resolved]
  rw [if_neg (UInt64.not_lt.mpr valid), found, Option.bind_eq_bind, Option.bind_some]
  simp only [read_resident g ring journal holds i resident, headerId, if_neg agrees, ne_eq, not_true_eq_false, if_false,
    holds.offsets i resident]
  rfl

end

theorem resolve_plain (ring : RingParams) (pktId : UInt64) (valid : pktId ≤ Constants.ringIdMaximum) :
    (if pktId = Constants.ringIdEarliest then ring.earliestId
      else if pktId = Constants.ringIdLatest then ring.latestId else pktId) = pktId := by
  have notEarliest : pktId ≠ Constants.ringIdEarliest := by
    rintro rfl
    exact absurd valid (by decide)
  have notLatest : pktId ≠ Constants.ringIdLatest := by
    rintro rfl
    exact absurd valid (by decide)
  rw [if_neg notEarliest, if_neg notLatest]

theorem read_absent (ring : RingParams) (fuel : Nat) (pktId : UInt64) (valid : pktId ≤ Constants.ringIdMaximum)
    (absent : RingBuffer.findOffsetForId fuel ring pktId = some none) (reader : RingReader) (caller : RingPacket)
    (data : Option (List UInt8)) :
    RingBuffer.read fuel ring reader pktId caller data = some ⟨Constants.ringIdNone, reader, caller, data⟩ := by
  rw [RingBuffer.read, if_neg (UInt64.not_lt.mpr valid), absent, Option.bind_eq_bind, Option.bind_some]

theorem position_absent (ring : RingParams) (fuel : Nat) (pktId : UInt64) (valid : pktId ≤ Constants.ringIdMaximum)
    (absent : RingBuffer.findOffsetForId fuel ring pktId = some none) (reader : RingReader) (pktTime : NsTime) :
    RingBuffer.position fuel ring reader pktId pktTime = some (Constants.ringIdNone, reader) := by
  simp only [RingBuffer.position, resolve_plain ring pktId valid]
  rw [if_neg (UInt64.not_lt.mpr valid), absent, Option.bind_eq_bind, Option.bind_some]

theorem write_at (g : Geometry) (requests : List Request) (packets : List RingPacket) (journal : Journal)
    (recorded : Recorded g Journal.empty requests packets journal) (k : Nat) (request : Request) (packet : RingPacket)
    (isWrite : (requests.zip packets)[k]? = some (request, packet)) :
    k < journal.written ∧ requests[k]? = some request ∧ journal.packet k = packet ∧ WrittenAs request packet ∧
      (journal.entry k).body = slotBody g.slot request.packetData request.dataSize := by
  have written := recorded_empty g requests packets journal recorded
  obtain ⟨isRequest, isPacket⟩ := List.getElem?_zip_eq_some.mp isWrite
  obtain ⟨inside, _⟩ := List.getElem?_eq_some_iff.mp isRequest
  obtain ⟨request', packet', isRequest', isPacket', writtenAs, entry⟩ := recorded_entry g requests packets journal recorded k inside
  obtain rfl := Option.some.inj (isRequest.symm.trans isRequest')
  obtain rfl := Option.some.inj (isPacket.symm.trans isPacket')
  exact ⟨by omega, isRequest, congrArg Entry.packet entry, writtenAs, congrArg Entry.body entry⟩

theorem distinct_ids (journal : Journal) (distinct : ((journal.since 0).map (·.pktId)).Nodup) (j k : Nat)
    (belowJ : j < journal.written) (belowK : k < journal.written) (same : (journal.packet j).pktId = (journal.packet k).pktId) :
    j = k := by
  have idAt : ∀ i, i < journal.written → ((journal.since 0).map (·.pktId))[i]? = some (journal.packet i).pktId := by
    intro i below
    rw [Journal.since, List.map_map, List.getElem?_map, List.getElem?_range' (by omega)]
    simp
  have length : ((journal.since 0).map (·.pktId)).length = journal.written := by
    rw [List.length_map, Journal.since_length, Nat.sub_zero]
  exact (List.getElem?_inj (by rwa [length]) distinct).mp (by rw [idAt j belowJ, idAt k belowK, same])

theorem finds_filling (g : Geometry) (ring : RingParams) (requests : List Request) (packets : List RingPacket) (journal : Journal)
    (maxPackets : ring.maxPackets.toNat = g.count) (holds : Holds g ring journal)
    (recorded : Recorded g Journal.empty requests packets journal) (distinct : (packets.map (·.pktId)).Nodup)
    (valid : ∀ packet ∈ packets, packet.pktId ≤ Constants.ringIdMaximum) (sized : ∀ request ∈ requests, Sized request)
    (fits : ∀ request ∈ requests, request.dataSize.toNat + 112 ≤ g.slot) (fuel : Nat) (enough : g.count < fuel)
    (filling : requests.length < g.count) : FindsById fuel ring (residentWrites ring requests packets) := by
  have written := recorded_empty g requests packets journal recorded
  have all : residentWrites ring requests packets = requests.zip packets := by
    have drop : requests.length - residents ring requests.length = 0 := by rw [residents, maxPackets]; omega
    rw [residentWrites, drop, List.drop_zero]
  have packetsAre := recorded_since g requests packets journal recorded
  have lowIs : journal.low g = 0 := by simp only [Journal.low, oldest]; omega
  have find := fun pktId => find_offset_filling g ring journal holds (by omega) pktId fuel (by omega)
  have validAt : ∀ k, k < journal.written → (journal.packet k).pktId ≤ Constants.ringIdMaximum := by
    intro k below
    exact valid _ (packetsAre ▸ (journal.mem_since _ _).mpr ⟨k, Nat.zero_le _, below, rfl⟩)
  have found : ∀ k, k < journal.written → RingBuffer.findOffsetForId fuel ring (journal.packet k).pktId =
      some (some (g.offsetAt k, (journal.packet k).pktTime)) := by
    intro k below
    have isFirst : firstIn (fun j => (journal.packet j).pktId = (journal.packet k).pktId) 0 journal.written = some k := by
      refine (first_in_some _ _ _ _).mpr ⟨Nat.zero_le _, below, rfl, fun j _ less same => ?_⟩
      have equal := distinct_ids journal (packetsAre ▸ distinct) j k (by omega) below same
      omega
    rw [find, isFirst, Option.map_some]
  have absent : ∀ pktId, (∀ write ∈ requests.zip packets, write.2.pktId ≠ pktId) →
      RingBuffer.findOffsetForId fuel ring pktId = some none := by
    intro pktId nowhere
    have nothing : firstIn (fun k => (journal.packet k).pktId = pktId) 0 journal.written = none := by
      refine (first_in_none _ _ _).mpr (fun k _ below same => ?_)
      obtain ⟨request, packet, isRequest, isPacket, _, entry⟩ := recorded_entry g requests packets journal recorded k (by omega)
      have packetIs : journal.packet k = packet := congrArg Entry.packet entry
      exact nowhere (request, packet) (List.mem_of_getElem? (List.getElem?_zip_eq_some.mpr ⟨isRequest, isPacket⟩)) (packetIs ▸ same)
    rw [find, nothing, Option.map_none]
  have position : ∀ (k : Nat) request packet, (requests.zip packets)[k]? = some (request, packet) → ∀ reader pktId pktTime,
      (if pktId = Constants.ringIdEarliest then ring.earliestId
        else if pktId = Constants.ringIdLatest then ring.latestId else pktId) = packet.pktId →
      (pktTime = NsTime.unset ∨ pktTime = NsTime.error ∨ pktTime = packet.pktTime) →
      RingBuffer.position fuel ring reader pktId pktTime = some (packet.pktId, RingBuffer.moveTo reader packet.offset packet) := by
    intro k request packet isWrite reader pktId pktTime resolved time
    obtain ⟨below, _, rfl, _, _⟩ := write_at g requests packets journal recorded k request packet isWrite
    exact position_found g ring journal holds k ⟨by omega, below⟩ fuel (validAt k below) (found k below) reader pktId pktTime
      resolved time
  rw [all]
  refine ⟨fun k request packet isWrite => ?_, fun request packet member reader caller data room => ?_,
    fun request packet member reader pktTime time => ?_,
    fun pktId plain nowhere => read_absent ring fuel pktId plain (absent pktId nowhere),
    fun pktId plain nowhere => position_absent ring fuel pktId plain (absent pktId nowhere),
    fun request packet isFirst reader => ?_, fun request packet isLast reader => ?_⟩
  · obtain ⟨below, _, rfl, _, _⟩ := write_at g requests packets journal recorded k request packet isWrite
    rw [found k below, slot_at_low g ring journal holds (by omega), lowIs, Nat.zero_add]
  · obtain ⟨k, isWrite⟩ := List.mem_iff_getElem?.mp member
    obtain ⟨below, isRequest, rfl, writtenAs, body⟩ := write_at g requests packets journal recorded k request packet isWrite
    have inside := List.mem_of_getElem? isRequest
    have size : (journal.packet k).dataSize = request.packet.dataSize := by rw [writtenAs.fields]
    refine ⟨journal.header g k, ?_, read_found g ring journal holds k ⟨by omega, below⟩ request (sized request inside)
      (fits request inside) size body fuel _ (validAt k below) (found k below) reader caller data room⟩
    rw [header_unlinked, written_as_unlinked request _ writtenAs]
  · obtain ⟨k, isWrite⟩ := List.mem_iff_getElem?.mp member
    obtain ⟨below, _, isPacket, _, _⟩ := write_at g requests packets journal recorded k request packet isWrite
    exact position k request packet isWrite reader _ pktTime (resolve_plain ring _ (isPacket ▸ validAt k below)) time
  · rw [List.head?_eq_getElem?] at isFirst
    obtain ⟨below, _, isPacket, _, _⟩ := write_at g requests packets journal recorded 0 request packet isFirst
    have bound := congrArg Bound.id holds.earliest
    rw [if_neg (by omega), lowIs, isPacket] at bound
    exact position 0 request packet isFirst reader _ _ (by rw [if_pos rfl]; exact bound) (Or.inl rfl)
  · rw [List.getLast?_eq_getElem?] at isLast
    obtain ⟨below, isRequest, isPacket, _, _⟩ := write_at g requests packets journal recorded _ request packet isLast
    have last : (requests.zip packets).length - 1 = journal.written - 1 := by
      rw [List.length_zip, recorded.length, written]
      omega
    rw [last] at isPacket
    have bound := congrArg Bound.id holds.latest
    rw [if_neg (by omega), isPacket] at bound
    exact position _ request packet isLast reader _ _ (by rw [if_neg (by decide), if_pos rfl]; exact bound) (Or.inl rfl)

theorem finds_nothing_full (g : Geometry) (ring : RingParams) (requests : List Request) (packets : List RingPacket)
    (journal : Journal) (maxPackets : ring.maxPackets.toNat = g.count) (holds : Holds g ring journal)
    (recorded : Recorded g Journal.empty requests packets journal) (fuel : Nat) (enough : g.count < fuel)
    (full : g.count ≤ requests.length) : ¬ FindsById fuel ring (residentWrites ring requests packets) := by
  have positive := g.positive
  have written := recorded_empty g requests packets journal recorded
  obtain ⟨more, rfl⟩ : ∃ more, fuel = more + 1 := ⟨fuel - 1, by omega⟩
  intro finds
  obtain ⟨request, packet, isRequest, isPacket, _, _⟩ := recorded_entry g requests packets journal recorded
    (requests.length - g.count) (by omega)
  have isWrite : (residentWrites ring requests packets)[0]? = some (request, packet) := by
    have kept : residents ring requests.length = g.count := by rw [residents, maxPackets]; omega
    rw [residentWrites, List.getElem?_drop, Nat.add_zero, kept]
    exact List.getElem?_zip_eq_some.mpr ⟨isRequest, isPacket⟩
  have found := finds.find 0 request packet isWrite
  rw [find_offset_full g ring journal holds (by omega) more packet.pktId] at found
  simp at found

-- IDs are found as long as the ring is not full.
theorem write_run_finds_by_id (g : Geometry) (ring ring' : RingParams) (fresh : Fresh g ring) (requests : List Request)
    (packets : List RingPacket) (accepted : ∀ request ∈ requests, Accepted ring request)
    (ran : writeAll ring requests = some (ring', packets)) (distinct : (packets.map (·.pktId)).Nodup)
    (valid : ∀ packet ∈ packets, packet.pktId ≤ Constants.ringIdMaximum) (sized : ∀ request ∈ requests, Sized request)
    (fuel : Nat) (enough : ring.maxPackets.toNat < fuel) :
    FindsById fuel ring' (residentWrites ring' requests packets) ↔ requests.length < ring.maxPackets.toNat := by
  obtain ⟨ring'', packets', journal, again, setup, holds, recorded⟩ :=
    write_all_spec g ring Journal.empty (fresh_holds g ring fresh) requests accepted
  obtain ⟨rfl, rfl⟩ := Prod.mk.inj (Option.some.inj (again.symm.trans ran))
  have maxPackets : ring''.maxPackets.toNat = g.count := by rw [setup.maxPackets, fresh.maxPackets]
  have fits := fun request member => accepted_fits g ring fresh.shaped request (accepted request member)
  rw [fresh.maxPackets] at enough ⊢
  constructor
  · intro finds
    by_contra full
    exact finds_nothing_full g ring'' requests packets' journal maxPackets holds recorded fuel enough (by omega) finds
  · exact finds_filling g ring'' requests packets' journal maxPackets holds recorded distinct valid sized fits fuel enough

theorem three_bytes_sized : ∀ request ∈ threeBytes, Sized request := by
  intro request member
  simp only [threeBytes, List.mem_cons, List.not_mem_nil, or_false] at member
  rcases member with rfl | rfl | rfl
  all_goals exact ⟨rfl, by decide⟩

def secondByte : Request × RingPacket := (byteRequest ⟨6⟩ ['B'] 8, bytePacket 128 2 ⟨6⟩ ['B'])

theorem three_bytes_resident :
    ((writtenRing twoSlotRing threeBytes).maxPackets.toNat = 2 ∧
      residentWrites (writtenRing twoSlotRing threeBytes) threeBytes (writtenPackets twoSlotRing threeBytes) =
        [secondByte, (byteRequest ⟨7⟩ ['A'] 9, bytePacket 0 3 ⟨7⟩ ['A'])]) ∧
    (writtenRing fourSlotRing threeBytes).maxPackets.toNat = 4 ∧
      residentWrites (writtenRing fourSlotRing threeBytes) threeBytes (writtenPackets fourSlotRing threeBytes) =
        [(byteRequest ⟨5⟩ ['A'] 7, bytePacket 0 1 ⟨5⟩ ['A']), secondByte, (byteRequest ⟨7⟩ ['A'] 9, bytePacket 256 3 ⟨7⟩ ['A'])] := by
  have two : (writtenRing twoSlotRing threeBytes).maxPackets.toNat = 2 := by decide +kernel
  have four : (writtenRing fourSlotRing threeBytes).maxPackets.toNat = 4 := by decide +kernel
  refine ⟨⟨two, ?_⟩, four, ?_⟩
  · rw [residentWrites, residents, two, three_bytes_two_slots]
    rfl
  · rw [residentWrites, residents, four, three_bytes_four_slots]
    rfl

theorem write_run_finds_by_id_three_bytes :
    FindsById 5 (writtenRing fourSlotRing threeBytes)
      (residentWrites (writtenRing fourSlotRing threeBytes) threeBytes (writtenPackets fourSlotRing threeBytes)) ∧
    ¬ FindsById 3 (writtenRing twoSlotRing threeBytes)
      (residentWrites (writtenRing twoSlotRing threeBytes) threeBytes (writtenPackets twoSlotRing threeBytes)) := by
  obtain ⟨four, packets, _, ran, _⟩ := write_all_spec fourSlots fourSlotRing Journal.empty (fresh_holds fourSlots fourSlotRing four_slots_fresh)
    threeBytes (three_bytes_accepted fourSlotRing rfl)
  obtain ⟨isFour, isPackets⟩ := written_of_run fourSlotRing four threeBytes packets ran
  obtain ⟨two, packets', _, ran', _⟩ := write_all_spec twoSlots twoSlotRing Journal.empty (fresh_holds twoSlots twoSlotRing two_slots_fresh)
    threeBytes (three_bytes_accepted twoSlotRing rfl)
  obtain ⟨isTwo, isPackets'⟩ := written_of_run twoSlotRing two threeBytes packets' ran'
  rw [isFour, isPackets, isTwo, isPackets']
  rw [three_bytes_four_slots] at isPackets
  rw [three_bytes_two_slots] at isPackets'
  subst isPackets isPackets'
  refine ⟨?_, fun finds => ?_⟩
  · exact (write_run_finds_by_id fourSlots fourSlotRing four four_slots_fresh threeBytes _ (three_bytes_accepted fourSlotRing rfl) ran
      (by decide) (by decide) three_bytes_sized 5 (by decide)).mpr (by decide)
  · exact absurd ((write_run_finds_by_id twoSlots twoSlotRing two two_slots_fresh threeBytes _ (three_bytes_accepted twoSlotRing rfl) ran'
      (by decide) (by decide) three_bytes_sized 3 (by decide)).mp finds) (by decide)

-- Two packets fill the ring of two slots.
theorem position_misses_earliest : ∃ ring' packets,
    writeAll twoSlotRing [byteRequest ⟨5⟩ ['A'] 7, byteRequest ⟨6⟩ ['B'] 8] = some (ring', packets) ∧
    packets.map (·.pktId) = [1, 2] ∧
    (RingBuffer.position 3 ring' rejectB Constants.ringIdEarliest NsTime.unset).map (·.1) = some Constants.ringIdNone ∧
    ¬ FindsById 3 ring' (residentWrites ring' [byteRequest ⟨5⟩ ['A'] 7, byteRequest ⟨6⟩ ['B'] 8] packets) := by
  have computed : (writeAll twoSlotRing [byteRequest ⟨5⟩ ['A'] 7, byteRequest ⟨6⟩ ['B'] 8]).map (fun result =>
      (result.2.map (·.pktId), (RingBuffer.position 3 result.1 rejectB Constants.ringIdEarliest NsTime.unset).map (·.1))) =
      some ([1, 2], some Constants.ringIdNone) := by
    decide +kernel
  obtain ⟨ring', packets, journal, ran, setup, holds, recorded⟩ := write_all_spec twoSlots twoSlotRing Journal.empty
    (fresh_holds twoSlots twoSlotRing two_slots_fresh) [byteRequest ⟨5⟩ ['A'] 7, byteRequest ⟨6⟩ ['B'] 8] (by
      intro request member
      simp only [List.mem_cons, List.not_mem_nil, or_false] at member
      cases member with
      | inl first => exact first ▸ byte_request_accepted twoSlotRing rfl ⟨5⟩ ['A'] 7 (by decide)
      | inr second => exact second ▸ byte_request_accepted twoSlotRing rfl ⟨6⟩ ['B'] 8 (by decide))
  rw [ran, Option.map_some, Option.some.injEq, Prod.mk.injEq] at computed
  have maxPackets : ring'.maxPackets.toNat = twoSlots.count := by rw [setup.maxPackets, two_slots_fresh.maxPackets]
  exact ⟨ring', packets, ran, computed.1, computed.2,
    finds_nothing_full twoSlots ring' _ packets journal maxPackets holds recorded 3 (by decide) (by decide)⟩

end RingServer
