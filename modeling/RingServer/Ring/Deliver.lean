import RingServer.Ring.Follow

set_option autoImplicit false

namespace RingServer

open Library

-- A reader next to the writer. writes has all packets so far with the requests
-- they come from, place is the index of the packet the reader stands on, and
-- returned has what ReadNext gave to it.
structure Watch where
  ring : RingParams
  reader : RingReader
  writes : List (Request × RingPacket)
  place : Nat
  returned : List RingPacket

namespace Watch

def low (s : Watch) : Nat := s.writes.length - residents s.ring s.writes.length

def OnResident (s : Watch) : Prop := s.low ≤ s.place

-- The index of the resident packet a reading has moved the reader to; a reader
-- whose offset stays has not moved.
def standing (s : Watch) (reader : RingReader) : Nat :=
  if reader.pktOffset = s.reader.pktOffset then s.place
  else s.low + (s.writes.drop s.low).findIdx fun write => write.2.offset = reader.pktOffset

def afterWrite (s : Watch) (ring : RingParams) (request : Request) (packet : RingPacket) : Watch :=
  { s with ring := ring, writes := s.writes ++ [(request, packet)] }

def afterRead (s : Watch) (reading : RingBuffer.Reading) : Watch :=
  { s with
    reader := reading.reader
    place := s.standing reading.reader
    returned := if reading.code = Constants.ringIdNone then s.returned else s.returned ++ [reading.packet] }

end Watch

-- Any order of Write and ReadNext steps, where the clock does not go back and
-- ReadNext is called in allowed states.
inductive Watching (fuel : Nat) (allowed : Watch → Prop) (start : Watch) : Watch → Prop where
  | start : Watching fuel allowed start start
  | write (s : Watch) (request : Request) (ring : RingParams) (packet : RingPacket) (reach : Watching fuel allowed start s)
      (accepted : Accepted s.ring request) (sized : Sized request)
      (later : ∀ write ∈ s.writes, write.2.pktTime.value ≤ request.clock.value)
      (wrote : writeRequest s.ring request = some (0, ring, packet)) :
      Watching fuel allowed start (s.afterWrite ring request packet)
  | read (s : Watch) (caller : RingPacket) (data : Option (List UInt8)) (reading : RingBuffer.Reading)
      (reach : Watching fuel allowed start s) (isAllowed : allowed s) (room : RoomFor s.ring data)
      (got : RingBuffer.readNext fuel s.ring s.reader caller data = some reading) :
      Watching fuel allowed start (s.afterRead reading)

structure Begins (ring : RingParams) (start : Watch) : Prop where
  run : ∃ requests packets, writeAll ring requests = some (start.ring, packets) ∧ start.writes = requests.zip packets ∧
    (∀ request ∈ requests, Accepted ring request ∧ Sized request) ∧ (requests.map (·.clock.value)).Pairwise (· ≤ ·)
  placed : ∃ write, start.writes[start.place]? = some write ∧ start.reader.pktOffset = write.2.offset
  returned : start.returned = []

def Answers (reader : RingReader) (writes : List (Request × RingPacket)) (data : Option (List UInt8))
    (reading : RingBuffer.Reading) : Prop :=
  match writes.find? fun write => RingBuffer.passes reader write.2.streamId with
  | some (request, packet) =>
      reading.code = packet.pktId ∧ reading.code ≠ Constants.ringIdNone ∧ unlinked reading.packet = packet ∧
        reading.data = received request data
  | none => reading.code = Constants.ringIdNone

structure Attends (g : Geometry) (start s : Watch) (journal : Journal) : Prop where
  holds : Holds g s.ring journal
  maxPackets : s.ring.maxPackets.toNat = g.count
  timely : Timely journal
  payloads : Payloads g journal s.writes
  placed : s.place < journal.written
  stands : s.reader.pktOffset = g.offsetAt s.place
  filters : ∀ streamId, RingBuffer.passes s.reader streamId = RingBuffer.passes start.reader streamId

structure Located (g : Geometry) (s : Watch) (journal : Journal) : Prop where
  slots : 0 < g.slot
  maxPackets : s.ring.maxPackets.toNat = g.count
  payloads : Payloads g journal s.writes
  offsets : ∀ i, journal.Resident g i → (journal.packet i).offset = g.offsetAt i
  stands : s.reader.pktOffset = g.offsetAt s.place

theorem watch_low (g : Geometry) (s : Watch) (journal : Journal) (maxPackets : s.ring.maxPackets.toNat = g.count)
    (payloads : Payloads g journal s.writes) : s.low = journal.low g := by
  rw [Watch.low, residents, maxPackets, payloads.1]
  simp only [Journal.low, oldest]
  omega

theorem standing_moved (g : Geometry) (s : Watch) (journal : Journal) (slots : 0 < g.slot) (maxPackets : s.ring.maxPackets.toNat = g.count)
    (payloads : Payloads g journal s.writes) (offsets : ∀ i, journal.Resident g i → (journal.packet i).offset = g.offsetAt i)
    (reader : RingReader) (k : Nat) (resident : journal.Resident g k) (stands : reader.pktOffset = g.offsetAt k)
    (moved : ¬ reader.pktOffset = s.reader.pktOffset) : s.standing reader = k := by
  have low := watch_low g s journal maxPackets payloads
  have offsetAt : ∀ i, journal.low g + i < journal.written → ∃ write, (s.writes.drop s.low)[i]? = some write ∧
      write.2.offset = g.offsetAt (journal.low g + i) := by
    intro i below
    obtain ⟨request, isWrite, _⟩ := payloads_at g journal s.writes payloads _ below
    refine ⟨_, by rw [List.getElem?_drop, low]; exact isWrite, ?_⟩
    exact offsets _ ⟨Nat.le_add_right _ _, below⟩
  have above := resident.1
  have below := resident.2
  have length : k - journal.low g < (s.writes.drop s.low).length := by
    rw [List.length_drop, payloads.1, low]
    omega
  have index : (s.writes.drop s.low).findIdx (fun write => write.2.offset = reader.pktOffset) = k - journal.low g := by
    rw [List.findIdx_eq length]
    refine ⟨?_, fun j less => ?_⟩
    · obtain ⟨write, isWrite, offset⟩ := offsetAt (k - journal.low g) (by omega)
      obtain ⟨_, isAt⟩ := List.getElem?_eq_some_iff.mp isWrite
      rw [isAt, offset, stands, Nat.add_sub_cancel' above, decide_eq_true_eq]
    · obtain ⟨write, isWrite, offset⟩ := offsetAt j (by omega)
      obtain ⟨_, isAt⟩ := List.getElem?_eq_some_iff.mp isWrite
      have differs : g.offsetAt (journal.low g + j) ≠ g.offsetAt k := by
        refine g.offset_at_ne _ _ slots (fun same => ?_)
        have equal := slot_injective g.count journal.written (journal.low g + j) k (Nat.le_add_right _ _) (by omega) above below same
        omega
      rw [isAt, offset, stands, decide_eq_false_iff_not]
      exact differs
  rw [Watch.standing, if_neg moved, index, low]
  omega

theorem located_low (g : Geometry) (s : Watch) (journal : Journal) (located : Located g s journal) : s.low = journal.low g :=
  watch_low g s journal located.maxPackets located.payloads

theorem located_standing (g : Geometry) (s : Watch) (journal : Journal) (located : Located g s journal)
    (reader : RingReader) (k : Nat) (resident : journal.Resident g k) (stands : reader.pktOffset = g.offsetAt k)
    (apart : g.offsetAt k ≠ g.offsetAt s.place) : s.standing reader = k := by
  have moved : ¬ reader.pktOffset = s.reader.pktOffset := by rwa [stands, located.stands]
  exact standing_moved g s journal located.slots located.maxPackets located.payloads located.offsets reader k resident stands moved

theorem attends_located (g : Geometry) (start s : Watch) (journal : Journal) (attends : Attends g start s journal) :
    Located g s journal := by
  have positive := g.positive
  have placed := attends.placed
  have size := resident_slot g s.ring journal attends.holds (journal.written - 1) ⟨by simp only [Journal.low, oldest]; omega, by omega⟩
  exact ⟨by omega, attends.maxPackets, attends.payloads, attends.holds.offsets, attends.stands⟩

theorem attends_low (g : Geometry) (start s : Watch) (journal : Journal) (attends : Attends g start s journal) :
    s.low = journal.low g :=
  located_low g s journal (attends_located g start s journal attends)

theorem attends_write_at (g : Geometry) (start s : Watch) (journal : Journal) (attends : Attends g start s journal) (i : Nat)
    (below : i < journal.written) : ∃ request, s.writes[i]? = some (request, journal.packet i) := by
  obtain ⟨request, isWrite, _⟩ := payloads_at g journal s.writes attends.payloads i below
  exact ⟨request, isWrite⟩

theorem standing_at (g : Geometry) (start s : Watch) (journal : Journal) (attends : Attends g start s journal)
    (reader : RingReader) (k : Nat) (resident : journal.Resident g k) (stands : reader.pktOffset = g.offsetAt k)
    (apart : g.offsetAt k ≠ g.offsetAt s.place) : s.standing reader = k :=
  located_standing g s journal (attends_located g start s journal attends) reader k resident stands apart

theorem recorded_payloads (g : Geometry) (requests : List Request) (packets : List RingPacket) (journal : Journal)
    (recorded : Recorded g Journal.empty requests packets journal) (sized : ∀ request ∈ requests, Sized request)
    (fits : ∀ request ∈ requests, request.dataSize.toNat + 112 ≤ g.slot) : Payloads g journal (requests.zip packets) := by
  have written := recorded_empty g requests packets journal recorded
  refine ⟨by rw [List.length_zip, recorded.length, Nat.min_self, written], fun i request packet isWrite => ?_⟩
  obtain ⟨_, isRequest, isPacket, writtenAs, body⟩ := write_at g requests packets journal recorded i request packet isWrite
  have inside := List.mem_of_getElem? isRequest
  refine ⟨sized request inside, fits request inside, writtenAs, ?_⟩
  rw [← isPacket, ← body]
  rfl

theorem recorded_timely (g : Geometry) (requests : List Request) (packets : List RingPacket) (journal : Journal)
    (recorded : Recorded g Journal.empty requests packets journal)
    (clocks : (requests.map (·.clock.value)).Pairwise (· ≤ ·)) : Timely journal := by
  have written := recorded_empty g requests packets journal recorded
  have timeAt : ∀ i, i < journal.written → (requests.map (·.clock.value))[i]? = some (journal.packet i).pktTime.value := by
    intro i below
    obtain ⟨request, packet, isRequest, _, writtenAs, entry⟩ := recorded_entry g requests packets journal recorded i (by omega)
    have isPacket : journal.packet i = packet := congrArg Entry.packet entry
    rw [List.getElem?_map, isRequest, Option.map_some, isPacket, writtenAs.fields]
  refine ⟨fun i j ordered below => ?_, fun i below => ?_⟩
  · by_cases same : i = j
    · rw [same]
      exact Int64.le_refl _
    · obtain ⟨belowI, isI⟩ := List.getElem?_eq_some_iff.mp (timeAt i (by omega))
      obtain ⟨belowJ, isJ⟩ := List.getElem?_eq_some_iff.mp (timeAt j below)
      have pair := List.pairwise_iff_getElem.mp clocks i j belowI belowJ (by omega)
      rwa [isI, isJ] at pair
  · obtain ⟨request, packet, _, _, writtenAs, entry⟩ := recorded_entry g requests packets journal recorded i (by omega)
    have isPacket : journal.packet i = packet := congrArg Entry.packet entry
    rw [isPacket]
    exact writtenAs.named

theorem begins_attends (g : Geometry) (ring : RingParams) (fresh : Fresh g ring) (start : Watch) (begins : Begins ring start) :
    ∃ journal, Attends g start start journal := by
  obtain ⟨requests, packets, ran, writes, good, clocks⟩ := begins.run
  obtain ⟨ring', packets', journal, again, setup, holds, recorded⟩ := write_all_spec g ring Journal.empty (fresh_holds g ring fresh)
    requests (fun request member => (good request member).1)
  obtain ⟨isRing, rfl⟩ := Prod.mk.inj (Option.some.inj (again.symm.trans ran))
  subst isRing
  have payloads := recorded_payloads g requests packets' journal recorded (fun request member => (good request member).2)
    (fun request member => accepted_fits g ring fresh.shaped request (good request member).1)
  rw [← writes] at payloads
  obtain ⟨⟨request, packet⟩, isWrite, offset⟩ := begins.placed
  have placed : start.place < journal.written := by
    obtain ⟨below, _⟩ := List.getElem?_eq_some_iff.mp isWrite
    rwa [payloads.1] at below
  refine ⟨journal, holds, by rw [setup.maxPackets, fresh.maxPackets], recorded_timely g requests packets' journal recorded clocks,
    payloads, placed, ?_, fun _ => rfl⟩
  rw [writes] at isWrite
  have slot := recorded.offsets start.place packet (List.getElem?_zip_eq_some.mp isWrite).2
  have shift : Journal.empty.written + start.place = start.place := Nat.zero_add _
  rw [offset, slot, shift]

theorem timely_record (g : Geometry) (journal : Journal) (request : Request) (timely : Timely journal)
    (later : ∀ i, i < journal.written → (journal.packet i).pktTime.value ≤ request.clock.value) :
    Timely (journal.record g request) := by
  have written : (journal.record g request).written = journal.written + 1 := rfl
  have old : ∀ i, i < journal.written → (journal.record g request).packet i = journal.packet i :=
    fun i below => journal.append_packet_old _ i below
  have new : (journal.record g request).packet journal.written = journal.stamp g request.clock request.packet :=
    journal.append_packet_new _
  refine ⟨fun i j ordered below => ?_, fun i below => ?_⟩
  · by_cases last : j = journal.written
    · subst last
      rw [new]
      by_cases same : i = journal.written
      · rw [same, new]
        exact Int64.le_refl _
      · rw [old i (by omega)]
        exact later i (by omega)
    · rw [old i (by omega), old j (by omega)]
      exact timely.ordered i j ordered (by omega)
  · by_cases last : i = journal.written
    · rw [last, new]
      exact (stamp_written_as g journal request).named
    · rw [old i (by omega)]
      exact timely.named i (by omega)

theorem payloads_record (g : Geometry) (journal : Journal) (writes : List (Request × RingPacket)) (request : Request)
    (payloads : Payloads g journal writes) (sized : Sized request) (fits : request.dataSize.toNat + 112 ≤ g.slot) :
    Payloads g (journal.record g request) (writes ++ [(request, journal.stamp g request.clock request.packet)]) := by
  obtain ⟨length, all⟩ := payloads
  refine ⟨by rw [List.length_append, length]; rfl, fun i other packet isWrite => ?_⟩
  by_cases old : i < writes.length
  · rw [List.getElem?_append_left old] at isWrite
    obtain ⟨isSized, isFit, writtenAs, entry⟩ := all i other packet isWrite
    exact ⟨isSized, isFit, writtenAs, by rw [Journal.record, journal.append_entry_old _ i (by omega), entry]⟩
  · obtain ⟨below, _⟩ := List.getElem?_eq_some_iff.mp isWrite
    rw [List.length_append, List.length_singleton] at below
    have last : i = writes.length := by omega
    rw [last, List.getElem?_append_right (Nat.le_refl _), Nat.sub_self, List.getElem?_cons_zero, Option.some.injEq,
      Prod.mk.injEq] at isWrite
    obtain ⟨rfl, rfl⟩ := isWrite
    exact ⟨sized, fits, stamp_written_as g journal request, by rw [last, length, Journal.record, journal.append_entry_new]⟩

theorem attends_write (g : Geometry) (start s : Watch) (journal : Journal) (attends : Attends g start s journal)
    (request : Request) (ring : RingParams) (packet : RingPacket) (accepted : Accepted s.ring request) (sized : Sized request)
    (later : ∀ write ∈ s.writes, write.2.pktTime.value ≤ request.clock.value)
    (wrote : writeRequest s.ring request = some (0, ring, packet)) :
    Attends g start (s.afterWrite ring request packet) (journal.record g request) := by
  obtain ⟨ring', wrote', setup, _, holds'⟩ := write_spec g s.ring journal attends.holds request accepted
  have same := Option.some.inj (wrote'.symm.trans wrote)
  simp only [Prod.mk.injEq, true_and] at same
  obtain ⟨rfl, rfl⟩ := same
  have before : ∀ i, i < journal.written → (journal.packet i).pktTime.value ≤ request.clock.value := by
    intro i below
    obtain ⟨other, isWrite⟩ := attends_write_at g start s journal attends i below
    exact later (other, journal.packet i) (List.mem_of_getElem? isWrite)
  have maxPackets : ring'.maxPackets.toNat = g.count := by rw [setup.maxPackets, attends.maxPackets]
  have payloads := payloads_record g journal s.writes request attends.payloads sized
    (accepted_fits g s.ring attends.holds.shaped request accepted)
  exact ⟨holds', maxPackets, timely_record g journal request attends.timely before, payloads, Nat.lt_succ_of_lt attends.placed,
    attends.stands, attends.filters⟩

inductive Moved (journal : Journal) (s : Watch) (reading : RingBuffer.Reading) : Prop where
  | hit (k : Nat) (found : firstIn (fun k => RingBuffer.passes s.reader (journal.streamId k) = true)
        (resume s.ring.maxPackets.toNat journal.written s.place) journal.written = some k)
      (place : (s.afterRead reading).place = k) (reader : reading.reader = RingBuffer.moveTo s.reader (journal.packet k).offset
        (journal.packet k)) (code : reading.code = (journal.packet k).pktId)
      (packet : unlinked reading.packet = journal.packet k)
  | stay (nothing : resume s.ring.maxPackets.toNat journal.written s.place = journal.written)
      (place : (s.afterRead reading).place = s.place) (reader : reading.reader = s.reader)
      (code : reading.code = Constants.ringIdNone)
  | miss (some : resume s.ring.maxPackets.toNat journal.written s.place < journal.written)
      (missing : firstIn (fun k => RingBuffer.passes s.reader (journal.streamId k) = true)
        (resume s.ring.maxPackets.toNat journal.written s.place) journal.written = none)
      (place : (s.afterRead reading).place = journal.written - 1)
      (reader : reading.reader = RingBuffer.moveTo s.reader (journal.packet (journal.written - 1)).offset
        (journal.packet (journal.written - 1))) (code : reading.code = Constants.ringIdNone)

theorem attends_unlinked (g : Geometry) (start s : Watch) (journal : Journal) (attends : Attends g start s journal) (i : Nat)
    (below : i < journal.written) : unlinked (journal.packet i) = journal.packet i := by
  obtain ⟨request, isWrite, _⟩ := payloads_at g journal s.writes attends.payloads i below
  exact written_as_unlinked request _ (attends.payloads.2 i request _ isWrite).2.2.1

theorem attends_standing (g : Geometry) (start s : Watch) (journal : Journal) (attends : Attends g start s journal)
    (reader : RingReader) (k : Nat) (above : resume g.count journal.written s.place ≤ k) (below : k < journal.written)
    (stands : reader.pktOffset = g.offsetAt k) : s.standing reader = k := by
  have positive := g.positive
  have fresh := resume_fresh g.count journal.written s.place positive
  have resident : journal.Resident g k := ⟨by simp only [Journal.low, oldest] at fresh ⊢; omega, below⟩
  have size := resident_slot g s.ring journal attends.holds k resident
  exact standing_at g start s journal attends reader k resident stands
    (g.offset_at_ne k s.place (by omega) (resume_apart g.count journal.written s.place k positive attends.placed above below))

theorem scanned_moved (g : Geometry) (start s : Watch) (journal : Journal) (attends : Attends g start s journal)
    (caller : RingPacket) (data : Option (List UInt8)) (reading : RingBuffer.Reading)
    (scanned : Scanned g journal s.writes s.reader caller data (resume g.count journal.written s.place) reading) :
    Moved journal s reading := by
  have positive := g.positive
  have fresh := resume_fresh g.count journal.written s.place positive
  have offsetOf : ∀ k, resume g.count journal.written s.place ≤ k → k < journal.written →
      (journal.packet k).offset = g.offsetAt k := by
    intro k above below
    exact attends.holds.offsets k ⟨by simp only [Journal.low, oldest] at fresh ⊢; omega, below⟩
  cases scanned with
  | hit k request packet found isWrite =>
      obtain ⟨above, below, _, _⟩ := (first_in_some _ _ _ _).mp found
      obtain ⟨request', isWrite', _⟩ := payloads_at g journal s.writes attends.payloads k below
      obtain ⟨rfl, rfl⟩ := Prod.mk.inj (Option.some.inj (isWrite'.symm.trans isWrite))
      refine .hit k (by rw [attends.maxPackets]; exact found) ?_ rfl rfl (attends_unlinked g start s journal attends k below)
      exact attends_standing g start s journal attends _ k above below (offsetOf k above below)
  | stay nothing =>
      exact .stay (by rw [attends.maxPackets]; exact nothing) (if_pos rfl) rfl rfl
  | miss some missing =>
      refine .miss (by rw [attends.maxPackets]; exact some) (by rw [attends.maxPackets]; exact missing) ?_ rfl rfl
      exact attends_standing g start s journal attends _ (journal.written - 1) (by omega) (by omega)
        (offsetOf _ (by omega) (by omega))

theorem attends_read (g : Geometry) (start s : Watch) (journal : Journal) (attends : Attends g start s journal)
    (reading : RingBuffer.Reading) (moved : Moved journal s reading) : Attends g start (s.afterRead reading) journal := by
  have positive := g.positive
  have fresh := resume_fresh g.count journal.written s.place positive
  have offsetOf : ∀ k, resume g.count journal.written s.place ≤ k → k < journal.written →
      (journal.packet k).offset = g.offsetAt k := by
    intro k above below
    exact attends.holds.offsets k ⟨by simp only [Journal.low, oldest] at fresh ⊢; omega, below⟩
  cases moved with
  | hit k found place reader _ _ =>
      obtain ⟨above, below, _, _⟩ := (first_in_some _ _ _ _).mp found
      rw [attends.maxPackets] at above
      refine ⟨attends.holds, attends.maxPackets, attends.timely, attends.payloads, by rw [place]; exact below, ?_, fun streamId => ?_⟩
      · rw [place, ← offsetOf k above below]
        exact congrArg RingReader.pktOffset reader
      · rw [Watch.afterRead, reader]
        exact attends.filters streamId
  | stay _ place reader _ =>
      refine ⟨attends.holds, attends.maxPackets, attends.timely, attends.payloads, by rw [place]; exact attends.placed, ?_,
        fun streamId => ?_⟩
      · rw [place, ← attends.stands]
        exact congrArg RingReader.pktOffset reader
      · rw [Watch.afterRead, reader]
        exact attends.filters streamId
  | miss some _ place reader _ =>
      rw [attends.maxPackets] at some
      refine ⟨attends.holds, attends.maxPackets, attends.timely, attends.payloads, by rw [place]; omega, ?_, fun streamId => ?_⟩
      · rw [place, ← offsetOf _ (by omega) (by omega)]
        exact congrArg RingReader.pktOffset reader
      · rw [Watch.afterRead, reader]
        exact attends.filters streamId

theorem attends_reading (g : Geometry) (start s : Watch) (journal : Journal) (attends : Attends g start s journal) (fuel : Nat)
    (enough : g.count < fuel) (caller : RingPacket) (data : Option (List UInt8)) (room : RoomFor s.ring data) :
    ∃ reading, RingBuffer.readNext fuel s.ring s.reader caller data = some reading ∧
      Scanned g journal s.writes s.reader caller data (resume g.count journal.written s.place) reading :=
  read_next_spec g s.ring journal attends.holds attends.timely s.writes attends.payloads caller data room fuel enough s.reader
    s.place attends.placed attends.stands

theorem watching_attends (g : Geometry) (start s : Watch) (journal : Journal) (attends : Attends g start start journal) (fuel : Nat)
    (enough : g.count < fuel) (allowed : Watch → Prop) (reach : Watching fuel allowed start s) :
    ∃ journal', Attends g start s journal' := by
  induction reach with
  | start => exact ⟨journal, attends⟩
  | write s request ring packet reach accepted sized later wrote ih =>
      obtain ⟨journal', attends'⟩ := ih
      exact ⟨_, attends_write g start s journal' attends' request ring packet accepted sized later wrote⟩
  | read s caller data reading reach isAllowed room got ih =>
      obtain ⟨journal', attends'⟩ := ih
      obtain ⟨reading', ran, scanned⟩ := attends_reading g start s journal' attends' fuel enough caller data room
      obtain rfl := Option.some.inj (ran.symm.trans got)
      exact ⟨journal', attends_read g start s journal' attends' _ (scanned_moved g start s journal' attends' caller data _ scanned)⟩

theorem find_write (g : Geometry) (start s : Watch) (journal : Journal) (attends : Attends g start s journal) (i : Nat) :
    (s.writes.drop i).find? (fun write => RingBuffer.passes start.reader write.2.streamId) =
      (firstIn (fun k => RingBuffer.passes start.reader (journal.streamId k) = true) i journal.written).bind fun k => s.writes[k]? := by
  have packetAt : ∀ (k : Nat) write, s.writes[k]? = some write → k < journal.written ∧ write.2.streamId = journal.streamId k := by
    intro k write isWrite
    obtain ⟨below, _⟩ := List.getElem?_eq_some_iff.mp isWrite
    rw [attends.payloads.1] at below
    obtain ⟨request, isWrite'⟩ := attends_write_at g start s journal attends k below
    obtain rfl := Option.some.inj (isWrite'.symm.trans isWrite)
    exact ⟨below, rfl⟩
  cases found : firstIn (fun k => RingBuffer.passes start.reader (journal.streamId k) = true) i journal.written with
  | none =>
      refine List.find?_eq_none.mpr (fun write member passes => ?_)
      obtain ⟨j, isWrite⟩ := List.mem_iff_getElem?.mp member
      rw [List.getElem?_drop] at isWrite
      obtain ⟨below, sameId⟩ := packetAt (i + j) write isWrite
      rw [sameId] at passes
      exact (first_in_none _ _ _).mp found (i + j) (Nat.le_add_right _ _) below passes
  | some k =>
      obtain ⟨above, below, passes, earlier⟩ := (first_in_some _ _ _ _).mp found
      obtain ⟨request, isWrite⟩ := attends_write_at g start s journal attends k below
      have atDrop : (s.writes.drop i)[k - i]? = some (request, journal.packet k) := by
        rw [List.getElem?_drop, Nat.add_sub_cancel' above]
        exact isWrite
      obtain ⟨inside, isAt⟩ := List.getElem?_eq_some_iff.mp atDrop
      rw [Option.bind_some, isWrite, List.find?_eq_some_iff_getElem]
      refine ⟨passes, k - i, inside, isAt, fun j less => ?_⟩
      have isEarlier : (s.writes.drop i)[j]? = some ((s.writes.drop i)[j]) := List.getElem?_eq_getElem (by omega)
      rw [List.getElem?_drop] at isEarlier
      obtain ⟨belowJ, sameId⟩ := packetAt (i + j) _ isEarlier
      rw [sameId, Bool.not_eq_true', ← Bool.not_eq_true]
      exact earlier (i + j) (Nat.le_add_right _ _) (by omega)

theorem scan_filters (g : Geometry) (start s : Watch) (journal : Journal) (attends : Attends g start s journal) (i : Nat) :
    firstIn (fun k => RingBuffer.passes s.reader (journal.streamId k) = true) i journal.written =
      firstIn (fun k => RingBuffer.passes start.reader (journal.streamId k) = true) i journal.written :=
  first_in_congr _ _ _ _ (fun k _ _ => by rw [attends.filters])

theorem scanned_answers (g : Geometry) (start s : Watch) (journal : Journal) (attends : Attends g start s journal)
    (caller : RingPacket) (data : Option (List UInt8)) (i : Nat) (reading : RingBuffer.Reading)
    (scanned : Scanned g journal s.writes s.reader caller data i reading) : Answers start.reader (s.writes.drop i) data reading := by
  have filters := scan_filters g start s journal attends i
  rw [Answers, find_write g start s journal attends i]
  cases scanned with
  | hit k request packet found isWrite =>
      obtain ⟨_, below, _, _⟩ := (first_in_some _ _ _ _).mp found
      obtain ⟨request', isWrite', _⟩ := payloads_at g journal s.writes attends.payloads k below
      obtain ⟨rfl, rfl⟩ := Prod.mk.inj (Option.some.inj (isWrite'.symm.trans isWrite))
      rw [← filters, found, Option.bind_some, isWrite]
      exact ⟨rfl, attends.timely.named k below, attends_unlinked g start s journal attends k below, rfl⟩
  | stay nothing =>
      have missing : firstIn (fun k => RingBuffer.passes start.reader (journal.streamId k) = true) i journal.written = none :=
        (first_in_none _ _ _).mpr (fun k above below => absurd below (by omega))
      rw [missing]
      rfl
  | miss some missing =>
      rw [← filters, missing]
      rfl

def delivered (reader : RingReader) (writes : List (Request × RingPacket)) (first last : Nat) : List RingPacket :=
  (((writes.take (last + 1)).drop (first + 1)).map Prod.snd).filter fun packet => RingBuffer.passes reader packet.streamId

theorem delivered_indices (g : Geometry) (start s : Watch) (journal : Journal) (attends : Attends g start s journal)
    (first last : Nat) (below : last < journal.written) : delivered start.reader s.writes first last =
      (indices (fun k => RingBuffer.passes start.reader (journal.streamId k) = true) (first + 1) (last + 1)).map journal.packet := by
  have packets : ((s.writes.take (last + 1)).drop (first + 1)).map Prod.snd =
      (List.range' (first + 1) (last + 1 - (first + 1))).map journal.packet := by
    refine List.ext_getElem? (fun i => ?_)
    rw [List.getElem?_map, List.getElem?_map, List.getElem?_drop, List.getElem?_take]
    by_cases inside : first + 1 + i < last + 1
    · obtain ⟨request, isWrite⟩ := attends_write_at g start s journal attends (first + 1 + i) (by omega)
      rw [if_pos inside, isWrite, List.getElem?_range' (by omega), Option.map_some, Option.map_some, Nat.one_mul]
    · rw [if_neg inside, List.getElem?_eq_none (by rw [List.length_range']; omega)]
      rfl
  rw [delivered, packets, List.filter_map, indices]
  congr 1
  refine List.filter_congr (fun k _ => ?_)
  rw [Bool.decide_eq_true]
  rfl

end RingServer
