import RingServer.Ring.Deliver

set_option autoImplicit false

namespace RingServer

open Library

structure Delivers (g : Geometry) (start s : Watch) (journal : Journal) : Prop where
  attends : Attends g start s journal
  ordered : start.place ≤ s.place
  returned : s.returned.map unlinked =
    (indices (fun k => RingBuffer.passes start.reader (journal.streamId k) = true) (start.place + 1) (s.place + 1)).map journal.packet

theorem delivers_start (g : Geometry) (start : Watch) (journal : Journal) (attends : Attends g start start journal)
    (nothing : start.returned = []) : Delivers g start start journal := by
  refine ⟨attends, Nat.le_refl _, ?_⟩
  rw [nothing, indices, Nat.sub_self]
  rfl

theorem delivers_write (g : Geometry) (start s : Watch) (journal : Journal) (delivers : Delivers g start s journal)
    (request : Request) (ring : RingParams) (packet : RingPacket)
    (attends : Attends g start (s.afterWrite ring request packet) (journal.record g request)) :
    Delivers g start (s.afterWrite ring request packet) (journal.record g request) := by
  have placed := delivers.attends.placed
  have old : ∀ k, k < journal.written → (journal.record g request).packet k = journal.packet k :=
    fun k below => journal.append_packet_old _ k below
  have sameIndices := indices_congr (fun k => RingBuffer.passes start.reader (journal.streamId k) = true) (start.place + 1)
    (s.place + 1) (fun k => RingBuffer.passes start.reader ((journal.record g request).streamId k) = true)
    (fun k _ below => by rw [Journal.streamId, Journal.streamId, old k (by omega)])
  refine ⟨attends, delivers.ordered, ?_⟩
  have unchanged : (s.afterWrite ring request packet).returned = s.returned := rfl
  have place : (s.afterWrite ring request packet).place = s.place := rfl
  rw [unchanged, delivers.returned, place, ← sameIndices]
  refine List.map_congr_left (fun k member => ?_)
  obtain ⟨_, below, _⟩ := (mem_indices _ _ _ k).mp member
  exact (old k (by omega)).symm

theorem resume_on_resident (g : Geometry) (start s : Watch) (journal : Journal) (attends : Attends g start s journal)
    (resident : s.OnResident) : resume g.count journal.written s.place = s.place + 1 := by
  refine resume_here g.count journal.written s.place attends.placed ?_
  rw [Watch.OnResident, attends_low g start s journal attends] at resident
  exact resident

theorem after_read_none (s : Watch) (reading : RingBuffer.Reading) (code : reading.code = Constants.ringIdNone) :
    (s.afterRead reading).returned = s.returned := by
  simp only [Watch.afterRead, if_pos code]

theorem after_read_some (s : Watch) (reading : RingBuffer.Reading) (code : reading.code ≠ Constants.ringIdNone) :
    (s.afterRead reading).returned = s.returned ++ [reading.packet] := by
  simp only [Watch.afterRead, if_neg code]

theorem delivers_read (g : Geometry) (start s : Watch) (journal : Journal) (delivers : Delivers g start s journal)
    (resident : s.OnResident) (reading : RingBuffer.Reading) (moved : Moved journal s reading) :
    Delivers g start (s.afterRead reading) journal := by
  have attends := delivers.attends
  have ordered := delivers.ordered
  have placed := attends.placed
  have after := attends_read g start s journal attends reading moved
  have here : resume s.ring.maxPackets.toNat journal.written s.place = s.place + 1 := by
    rw [attends.maxPackets]
    exact resume_on_resident g start s journal attends resident
  cases moved with
  | hit k found place reader code packet =>
      rw [here, scan_filters g start s journal attends] at found
      obtain ⟨above, below, _, _⟩ := (first_in_some _ _ _ _).mp found
      have kept := after_read_some s reading (code ▸ attends.timely.named k below)
      refine ⟨after, by rw [place]; omega, ?_⟩
      rw [kept, List.map_append, delivers.returned, place, indices_hit _ _ _ (s.place + 1) k (by omega) found, List.map_append,
        List.map_singleton, List.map_singleton, packet]
  | stay nothing place reader code =>
      have kept := after_read_none s reading code
      refine ⟨after, by rw [place]; exact ordered, ?_⟩
      rw [kept, place, delivers.returned]
  | miss some missing place reader code =>
      rw [here, scan_filters g start s journal attends] at missing
      have kept := after_read_none s reading code
      have last : journal.written - 1 + 1 = journal.written := by omega
      refine ⟨after, by rw [place]; omega, ?_⟩
      rw [kept, place, delivers.returned, last,
        indices_skip _ _ journal.written (s.place + 1) (by omega) (by omega) missing]

theorem watching_delivers (g : Geometry) (start s : Watch) (journal : Journal) (attends : Attends g start start journal)
    (nothing : start.returned = []) (fuel : Nat) (enough : g.count < fuel) (reach : Watching fuel Watch.OnResident start s) :
    ∃ journal', Delivers g start s journal' := by
  induction reach with
  | start => exact ⟨journal, delivers_start g start journal attends nothing⟩
  | write s request ring packet reach accepted sized later wrote ih =>
      obtain ⟨journal', delivers⟩ := ih
      exact ⟨_, delivers_write g start s journal' delivers request ring packet
        (attends_write g start s journal' delivers.attends request ring packet accepted sized later wrote)⟩
  | read s caller data reading reach resident room got ih =>
      obtain ⟨journal', delivers⟩ := ih
      obtain ⟨reading', ran, scanned⟩ := attends_reading g start s journal' delivers.attends fuel enough caller data room
      obtain rfl := Option.some.inj (ran.symm.trans got)
      exact ⟨journal', delivers_read g start s journal' delivers resident _
        (scanned_moved g start s journal' delivers.attends caller data _ scanned)⟩

-- A reader that is never overtaken gets every packet after its first place that
-- passes its filters, in write order and once, and none only if none is left.
theorem read_next_delivers (g : Geometry) (ring : RingParams) (fresh : Fresh g ring) (fuel : Nat)
    (enough : ring.maxPackets.toNat < fuel) (start s : Watch) (begins : Begins ring start)
    (reach : Watching fuel Watch.OnResident start s) :
    s.returned.map unlinked = delivered start.reader s.writes start.place s.place ∧
      (s.OnResident → ∀ caller data, RoomFor s.ring data → ∃ reading,
        RingBuffer.readNext fuel s.ring s.reader caller data = some reading ∧
        Answers start.reader (s.writes.drop (s.place + 1)) data reading) := by
  rw [fresh.maxPackets] at enough
  obtain ⟨journal, attends⟩ := begins_attends g ring fresh start begins
  obtain ⟨journal', delivers⟩ := watching_delivers g start s journal attends begins.returned fuel enough reach
  refine ⟨?_, fun resident caller data room => ?_⟩
  · rw [delivers.returned, delivered_indices g start s journal' delivers.attends start.place s.place delivers.attends.placed]
  · obtain ⟨reading, ran, scanned⟩ := attends_reading g start s journal' delivers.attends fuel enough caller data room
    rw [resume_on_resident g start s journal' delivers.attends resident] at scanned
    exact ⟨reading, ran, scanned_answers g start s journal' delivers.attends caller data _ reading scanned⟩

def Watch.behind (s : Watch) : Nat := s.writes.length - 1 - s.place

theorem lapped_answers (g : Geometry) (start s : Watch) (journal : Journal) (attends : Attends g start s journal)
    (lapped : ¬ s.OnResident) (caller : RingPacket) (data : Option (List UInt8)) (reading : RingBuffer.Reading)
    (scanned : Scanned g journal s.writes s.reader caller data (resume g.count journal.written s.place) reading) :
    Answers start.reader (s.writes.drop s.low) data reading ↔
      ∀ write ∈ (s.writes.drop s.low).take (g.count - s.behind % g.count),
        RingBuffer.passes start.reader write.2.streamId = false := by
  have positive := g.positive
  have low := attends_low g start s journal attends
  have placed := attends.placed
  rw [Watch.OnResident, low] at lapped
  simp only [Journal.low, oldest] at lapped
  have behind : s.behind = journal.written - (s.place + 1) := by
    rw [Watch.behind, attends.payloads.1]
    omega
  have less := Nat.mod_lt s.behind positive
  have resumeIs : resume g.count journal.written s.place = s.low + (g.count - s.behind % g.count) := by
    rw [resume, ← behind, low, Journal.low, oldest]
    omega
  have lowLe : s.low ≤ resume g.count journal.written s.place := by omega
  have le := resume_le g.count journal.written s.place
  have early : (∀ write ∈ (s.writes.drop s.low).take (g.count - s.behind % g.count),
      RingBuffer.passes start.reader write.2.streamId = false) ↔
      firstIn (fun k => RingBuffer.passes start.reader (journal.streamId k) = true) s.low
        (resume g.count journal.written s.place) = none := by
    rw [first_in_none]
    constructor
    · intro none k above below passes
      obtain ⟨request, isWrite⟩ := attends_write_at g start s journal attends k (by omega)
      have inside : (request, journal.packet k) ∈ (s.writes.drop s.low).take (g.count - s.behind % g.count) := by
        refine List.mem_of_getElem? (i := k - s.low) ?_
        rw [List.getElem?_take, if_pos (by omega), List.getElem?_drop, Nat.add_sub_cancel' above]
        exact isWrite
      have fails : RingBuffer.passes start.reader (journal.streamId k) = false := none _ inside
      rw [fails] at passes
      exact Bool.false_ne_true passes
    · intro none write member
      obtain ⟨j, isWrite⟩ := List.mem_iff_getElem?.mp member
      obtain ⟨inside, _⟩ := List.getElem?_eq_some_iff.mp isWrite
      rw [List.length_take] at inside
      rw [List.getElem?_take, if_pos (by omega), List.getElem?_drop] at isWrite
      obtain ⟨request, isWrite'⟩ := attends_write_at g start s journal attends (s.low + j) (by omega)
      obtain rfl := Option.some.inj (isWrite'.symm.trans isWrite)
      exact Bool.not_eq_true _ ▸ none (s.low + j) (Nat.le_add_right _ _) (by omega)
  rw [early]
  constructor
  · intro answers
    by_contra found
    obtain ⟨k, isFirst⟩ := Option.ne_none_iff_exists'.mp found
    obtain ⟨above, below, passes, earlier⟩ := (first_in_some _ _ _ _).mp isFirst
    have whole : firstIn (fun k => RingBuffer.passes start.reader (journal.streamId k) = true) s.low journal.written = some k :=
      (first_in_some _ _ _ _).mpr ⟨above, by omega, passes, earlier⟩
    obtain ⟨request, isWrite⟩ := attends_write_at g start s journal attends k (by omega)
    rw [Answers, find_write g start s journal attends, whole, Option.bind_some, isWrite] at answers
    obtain ⟨code, named, packet, _⟩ := answers
    cases scanned_moved g start s journal attends caller data reading scanned with
    | hit j foundJ _ _ _ packetJ =>
        rw [attends.maxPackets] at foundJ
        obtain ⟨aboveJ, belowJ, _, _⟩ := (first_in_some _ _ _ _).mp foundJ
        have same : journal.packet j = journal.packet k := packetJ.symm.trans packet
        have residentK : journal.Resident g k := ⟨by omega, by omega⟩
        have residentJ : journal.Resident g j := ⟨by omega, belowJ⟩
        have offsets := congrArg RingPacket.offset same
        rw [attends.holds.offsets j residentJ, attends.holds.offsets k residentK] at offsets
        exact resident_offset_ne g s.ring journal attends.holds j k residentJ residentK (by omega) offsets
    | stay _ _ _ isNone => exact named isNone
    | miss _ _ _ _ isNone => exact named isNone
  · intro none
    have answers := scanned_answers g start s journal attends caller data _ reading scanned
    rw [Answers, find_write g start s journal attends] at answers ⊢
    rwa [first_in_skip _ _ _ _ lowLe le none]

-- What ReadNext gives to an overtaken reader is the first resident packet that
-- passes the filters exactly when none passes that the search does not visit.
theorem read_next_lapped (g : Geometry) (ring : RingParams) (fresh : Fresh g ring) (fuel : Nat)
    (enough : ring.maxPackets.toNat < fuel) (start s : Watch) (begins : Begins ring start)
    (reach : Watching fuel (fun _ => True) start s) (lapped : ¬ s.OnResident) (caller : RingPacket) (data : Option (List UInt8))
    (room : RoomFor s.ring data) :
    ∃ reading, RingBuffer.readNext fuel s.ring s.reader caller data = some reading ∧
      (Answers start.reader (s.writes.drop s.low) data reading ↔
        ∀ write ∈ (s.writes.drop s.low).take (ring.maxPackets.toNat - s.behind % ring.maxPackets.toNat),
          RingBuffer.passes start.reader write.2.streamId = false) := by
  rw [fresh.maxPackets] at enough ⊢
  obtain ⟨journal, attends⟩ := begins_attends g ring fresh start begins
  obtain ⟨journal', attends'⟩ := watching_attends g start s journal attends fuel enough _ reach
  obtain ⟨reading, ran, scanned⟩ := attends_reading g start s journal' attends' fuel enough caller data room
  exact ⟨reading, ran, lapped_answers g start s journal' attends' lapped caller data reading scanned⟩

def onFirst (ring : RingParams) (packets : List RingPacket) : Watch where
  ring := ring
  reader := { rejectB with pktOffset := 0, reject := none }
  writes := [byteRequest ⟨5⟩ ['A'] 7].zip packets
  place := 0
  returned := []

theorem byte_request_sized (clock : NsTime) (streamId : Text) (byte : UInt8) : Sized (byteRequest clock streamId byte) :=
  ⟨rfl, Nat.le_refl 1⟩

theorem on_first_begins : ∃ ring packets, writeAll twoSlotRing [byteRequest ⟨5⟩ ['A'] 7] = some (ring, packets) ∧
    packets.map (·.pktTime.value) = [5] ∧ Begins twoSlotRing (onFirst ring packets) := by
  have computed : (writeAll twoSlotRing [byteRequest ⟨5⟩ ['A'] 7]).map (fun result =>
      result.2.map fun packet => (packet.offset, packet.pktTime.value)) = some [(0, 5)] := by
    decide +kernel
  cases ran : writeAll twoSlotRing [byteRequest ⟨5⟩ ['A'] 7] with
  | none => simp [ran] at computed
  | some result =>
      obtain ⟨ring, packets⟩ := result
      rw [ran, Option.map_some, Option.some.injEq] at computed
      obtain ⟨packet, rfl, isPacket⟩ := List.map_eq_singleton_iff.mp computed
      obtain ⟨offset, time⟩ := Prod.mk.inj isPacket
      refine ⟨ring, [packet], rfl, by rw [List.map_singleton, time], ⟨⟨_, _, ran, rfl, ?_, by simp⟩, ⟨_, rfl, offset.symm⟩, rfl⟩⟩
      intro request member
      obtain rfl := List.mem_singleton.mp member
      exact ⟨byte_request_accepted twoSlotRing rfl ⟨5⟩ ['A'] 7 (by decide), byte_request_sized ⟨5⟩ ['A'] 7⟩

theorem byte_accepted (start s : Watch) (journal : Journal) (attends : Attends twoSlots start s journal) (clock : NsTime)
    (streamId : Text) (byte : UInt8) (survives : Survives streamId) : Accepted s.ring (byteRequest clock streamId byte) := by
  have size : s.ring.pktSize = 128 := UInt32.toNat_inj.mp attends.holds.shaped.pktSize
  have known := byte_request_accepted twoSlotRing rfl clock streamId byte survives
  refine ⟨survives, ?_, known.array⟩
  rw [size]
  exact known.passes

theorem watching_byte (fuel : Nat) (allowed : Watch → Prop) (start s : Watch) (journal : Journal)
    (attends : Attends twoSlots start s journal) (reach : Watching fuel allowed start s) (clock : NsTime) (streamId : Text)
    (byte : UInt8) (survives : Survives streamId) (later : ∀ write ∈ s.writes, write.2.pktTime.value ≤ clock.value) :
    ∃ ring packet, packet.pktTime = clock ∧
      Watching fuel allowed start (s.afterWrite ring (byteRequest clock streamId byte) packet) ∧
      Attends twoSlots start (s.afterWrite ring (byteRequest clock streamId byte) packet)
        (journal.record twoSlots (byteRequest clock streamId byte)) := by
  have accepted := byte_accepted start s journal attends clock streamId byte survives
  have sized := byte_request_sized clock streamId byte
  obtain ⟨ring, wrote, _⟩ := write_spec twoSlots s.ring journal attends.holds (byteRequest clock streamId byte) accepted
  exact ⟨ring, _, rfl, .write s _ ring _ reach accepted sized later wrote,
    attends_write twoSlots start s journal attends _ ring _ accepted sized later wrote⟩

theorem on_first_times (ring : RingParams) (packets : List RingPacket) (times : packets.map (·.pktTime.value) = [5]) :
    ∀ write ∈ (onFirst ring packets).writes, write.2.pktTime.value ≤ 6 := by
  intro write member
  have inside : write.2.pktTime.value ∈ packets.map (·.pktTime.value) := List.mem_map_of_mem (List.of_mem_zip member).2
  rw [times] at inside
  rw [List.mem_singleton.mp inside]
  decide

theorem overtaken : ∃ start s journal, Begins twoSlotRing start ∧ Watching 3 (fun _ => True) start s ∧
    Attends twoSlots start s journal ∧ s.writes.length = 3 ∧ s.place = 0 ∧ journal.written = 3 ∧
    ∀ streamId, RingBuffer.passes start.reader streamId = true := by
  obtain ⟨ring, packets, _, times, begins⟩ := on_first_begins
  obtain ⟨journal, attends⟩ := begins_attends twoSlots twoSlotRing two_slots_fresh _ begins
  have length : packets.length = 1 := by simpa using congrArg List.length times
  have earlier := on_first_times ring packets times
  obtain ⟨second, packetB, timeB, reachB, attendsB⟩ := watching_byte 3 (fun _ => True) _ _ journal attends .start ⟨6⟩ ['B'] 8
    (by decide) earlier
  obtain ⟨third, packetC, _, reachC, attendsC⟩ := watching_byte 3 (fun _ => True) _ _ _ attendsB reachB ⟨7⟩ ['C'] 9 (by decide) (by
    intro write member
    rcases List.mem_append.mp member with old | new
    · exact Int64.le_trans (earlier write old) (by decide)
    · obtain rfl := List.mem_singleton.mp new
      rw [timeB]
      decide)
  have writes : ((((onFirst ring packets).afterWrite second (byteRequest ⟨6⟩ ['B'] 8) packetB).afterWrite third
      (byteRequest ⟨7⟩ ['C'] 9) packetC).writes).length = 3 := by simp [Watch.afterWrite, onFirst, length]
  exact ⟨_, _, _, begins, reachC, attendsC, writes, rfl, attendsC.payloads.1.symm.trans writes, fun _ => rfl⟩

theorem read_next_lapped_two_behind : ∃ start s, Begins twoSlotRing start ∧ Watching 3 (fun _ => True) start s ∧
    ¬ s.OnResident ∧ ∀ caller, ∃ reading, RingBuffer.readNext 3 s.ring s.reader caller none = some reading ∧
      (Answers start.reader (s.writes.drop s.low) none reading ↔
        ∀ write ∈ (s.writes.drop s.low).take (2 - s.behind % 2), RingBuffer.passes start.reader write.2.streamId = false) := by
  obtain ⟨start, s, journal, begins, reach, attends, length, place, written, _⟩ := overtaken
  have lapped : ¬ s.OnResident := by
    rw [Watch.OnResident, attends_low twoSlots start s journal attends, place, Journal.low, oldest, written]
    decide
  exact ⟨start, s, begins, reach, lapped, fun caller => read_next_lapped twoSlots twoSlotRing two_slots_fresh 3 (by decide) start s
    begins reach lapped caller none (fun buffer isBuffer => by simp at isBuffer)⟩

-- Two packets are resident and pass, and ReadNext gives none.
theorem read_next_skips_residents : ∃ start s, Begins twoSlotRing start ∧ Watching 3 (fun _ => True) start s ∧
    ¬ s.OnResident ∧ (s.writes.drop s.low).length = 2 ∧ (∀ streamId, RingBuffer.passes start.reader streamId = true) ∧
    ∀ caller, ∃ reading, RingBuffer.readNext 3 s.ring s.reader caller none = some reading ∧
      reading.code = Constants.ringIdNone ∧ ¬ Answers start.reader (s.writes.drop s.low) none reading := by
  obtain ⟨start, s, journal, begins, reach, attends, length, place, written, all⟩ := overtaken
  have low : s.low = 1 := by
    rw [attends_low twoSlots start s journal attends, Journal.low, oldest, written]
    rfl
  have lapped : ¬ s.OnResident := by
    rw [Watch.OnResident, low, place]
    decide
  have two : (s.writes.drop s.low).length = 2 := by rw [List.length_drop, length, low]
  refine ⟨start, s, begins, reach, lapped, two, all, fun caller => ?_⟩
  obtain ⟨reading, ran, scanned⟩ := attends_reading twoSlots start s journal attends 3 (by decide) caller none
    (fun buffer isBuffer => by simp at isBuffer)
  have resumed : resume twoSlots.count journal.written s.place = 3 := by rw [written, place]; rfl
  refine ⟨reading, ran, ?_, fun answers => ?_⟩
  · cases scanned_moved twoSlots start s journal attends caller none reading scanned with
    | hit k found _ _ _ _ =>
        rw [attends.maxPackets, resumed] at found
        obtain ⟨above, below, _, _⟩ := (first_in_some _ _ _ _).mp found
        omega
    | stay _ _ _ isNone => exact isNone
    | miss _ _ _ _ isNone => exact isNone
  · have fails := (lapped_answers twoSlots start s journal attends lapped caller none reading scanned).mp answers
    obtain ⟨write, isWrite⟩ : ∃ write, (s.writes.drop s.low)[0]? = some write := ⟨_, List.getElem?_eq_getElem (by omega)⟩
    have behind : s.behind = 2 := by rw [Watch.behind, length, place]
    have inside : write ∈ (s.writes.drop s.low).take (twoSlots.count - s.behind % twoSlots.count) := by
      refine List.mem_of_getElem? (i := 0) ?_
      rw [List.getElem?_take, behind]
      exact isWrite
    have never := fails write inside
    rw [all] at never
    exact Bool.noConfusion never

theorem read_next_delivers_one_write : ∃ start s, Begins twoSlotRing start ∧ Watching 3 Watch.OnResident start s ∧
    s.writes.length = 2 ∧ s.returned.map unlinked = delivered start.reader s.writes start.place s.place ∧
    (s.OnResident → ∀ caller data, RoomFor s.ring data → ∃ reading,
      RingBuffer.readNext 3 s.ring s.reader caller data = some reading ∧
      Answers start.reader (s.writes.drop (s.place + 1)) data reading) := by
  obtain ⟨ring, packets, _, times, begins⟩ := on_first_begins
  obtain ⟨journal, attends⟩ := begins_attends twoSlots twoSlotRing two_slots_fresh _ begins
  have length : packets.length = 1 := by simpa using congrArg List.length times
  obtain ⟨ring', packet, _, reach, _⟩ := watching_byte 3 Watch.OnResident _ _ journal attends .start ⟨6⟩ ['B'] 8 (by decide)
    (on_first_times ring packets times)
  exact ⟨_, _, begins, reach, by simp [Watch.afterWrite, onFirst, length],
    read_next_delivers twoSlots twoSlotRing two_slots_fresh 3 (by decide) _ _ begins reach⟩

end RingServer
