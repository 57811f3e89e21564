import RingServer.Protocols.SeedLinkFrame
import RingServer.Protocols.SeedLinkReady
import RingServer.Ring.KeepFollow
import RingServer.Ring.KeepRun

set_option autoImplicit false

namespace RingServer.SeedLink

open Library

-- A streaming session beside the writer. writes has all packets so far with the
-- requests they come from, place is the index of the packet the reader stands on.
structure Feed where
  ring : RingParams
  session : Session
  writes : List (Request × RingPacket)
  place : Nat
  frames : List (List UInt8)

namespace Feed

def reader (s : Feed) : RingReader := s.session.client.reader

def watch (s : Feed) : Watch := ⟨s.ring, s.reader, s.writes, s.place, []⟩

def afterWrite (s : Feed) (ring : RingParams) (request : Request) (packet : RingPacket) : Feed :=
  { s with ring := ring, writes := s.writes ++ [(request, packet)] }

def afterStream (s : Feed) (outcome : Outcome) : Feed :=
  { s with
    session := outcome.session
    place := s.watch.standing outcome.session.client.reader
    frames := s.frames ++ outcome.sent }

end Feed

structure Automatic (ring : RingParams) (request : Request) : Prop where
  fits : Fits ring request
  unnamed : request.packet.pktId = Constants.ringIdNone
  header : request.packet.dataSize = request.dataSize
  whole : request.packetData.length = request.dataSize.toNat

-- Any order of Write and StreamPackets steps, where the clock does not go back and
-- the packet of the reader is resident whenever it streams.
inductive Feeding (fuel : Nat) (start : Feed) : Feed → Prop where
  | start : Feeding fuel start start
  | write (s : Feed) (request : Request) (ring : RingParams) (packet : RingPacket) (reach : Feeding fuel start s)
      (automatic : Automatic s.ring request) (later : ∀ write ∈ s.writes, write.2.pktTime.value ≤ request.clock.value)
      (wrote : writeRequest s.ring request = some (0, ring, packet)) : Feeding fuel start (s.afterWrite ring request packet)
  | stream (s : Feed) (around : Surroundings) (outcome : Outcome) (reach : Feeding fuel start s) (resident : s.watch.OnResident)
      (ran : streamPackets around fuel s.ring s.session = some outcome) : Feeding fuel start (s.afterStream outcome)

structure Opens (ring : RingParams) (start : Feed) : Prop where
  run : ∃ requests packets, writeAll ring requests = some (start.ring, packets) ∧ start.writes = requests.zip packets ∧
    (∀ request ∈ requests, Automatic ring request) ∧ (requests.map (·.clock.value)).Pairwise (· ≤ ·)
  placed : ∃ write, start.writes[start.place]? = some write ∧ start.reader.pktOffset = write.2.offset
  state : start.session.client.state = .stream
  drained : start.session.ext.dbRecords = []
  frames : start.frames = []

-- The packets for the client: those that pass the filters, by the stream ID in the
-- ring, and whose payload is miniSEED.
def selected (reader : RingReader) (write : Request × RingPacket) : Bool :=
  RingBuffer.passes reader (storedId write.2.streamId) && write.1.dataSize ≠ 0 &&
    isValidMiniSeedHeader write.1.packetData write.1.packetData.length

def framed (protoMajor : Int) (write : Request × RingPacket) : Nat × List UInt8 :=
  (numbered protoMajor write.2.pktId, write.1.packetData)

theorem passes_same (old new : RingReader) (same : SameFilters old new) (streamId : Text) :
    RingBuffer.passes new streamId = RingBuffer.passes old streamId := by
  rw [RingBuffer.passes, RingBuffer.passes, same.limit, same.matching, same.reject]

theorem selected_same (old new : RingReader) (same : SameFilters old new) : selected new = selected old := by
  funext write
  rw [selected, selected, passes_same old new same]

structure Passed (g : Geometry) (s : Feed) (outcome : Outcome) (k : Nat) : Prop where
  code : ¬ outcome.code < 0
  stands : outcome.session.client.reader.pktOffset = g.offsetAt k
  filters : SameFilters s.reader outcome.session.client.reader
  state : outcome.session.client.state = s.session.client.state
  drained : outcome.session.ext.dbRecords = s.session.ext.dbRecords
  major : outcome.session.ext.protoMajor = s.session.ext.protoMajor
  sent : outcome.sent.map (readFrame s.session.ext.protoMajor) =
    ((between s.writes (s.place + 1) (k + 1)).filter (selected s.reader)).map (framed s.session.ext.protoMajor)

structure Fed (g : Geometry) (ring : RingParams) (writes : List (Request × RingPacket)) (journal : Journal) : Prop where
  stored : Stored g ring writes journal
  timely : Timely journal
  whole : ∀ write ∈ writes, write.1.packetData.length = write.1.dataSize.toNat
  ids : ∀ write ∈ writes, write.2.pktId ≤ Constants.ringIdMaximum

structure Feeds (g : Geometry) (start s : Feed) (journal : Journal) : Prop where
  fed : Fed g s.ring s.writes journal
  placed : s.place < journal.written
  ordered : start.place ≤ s.place
  stands : s.reader.pktOffset = g.offsetAt s.place
  filters : SameFilters start.reader s.reader
  state : s.session.client.state = .stream
  drained : s.session.ext.dbRecords = []
  major : s.session.ext.protoMajor = start.session.ext.protoMajor
  frames : s.frames.map (readFrame start.session.ext.protoMajor) =
    ((between s.writes (start.place + 1) (s.place + 1)).filter (selected start.reader)).map (framed start.session.ext.protoMajor)

section

variable (g : Geometry) (start s : Feed) (journal : Journal) (feeds : Feeds g start s journal)

include feeds

theorem feeds_slot : 112 ≤ g.slot := by
  have positive := g.positive
  have placed := feeds.placed
  exact slot_keeps_size g _ journal _
    (feeds.fed.stored.keeps.slots (journal.written - 1) ⟨by simp only [Journal.low, oldest]; omega, by omega⟩)

theorem feeds_located : Located g s.watch journal := by
  have size := feeds_slot g start s journal feeds
  exact ⟨by omega, feeds.fed.stored.maxPackets, feeds.fed.stored.payloads, feeds.fed.stored.keeps.offsets, feeds.stands⟩

theorem feeds_resident (resident : s.watch.OnResident) : journal.Resident g s.place := by
  rw [Watch.OnResident, located_low g s.watch journal (feeds_located g start s journal feeds)] at resident
  exact ⟨resident, feeds.placed⟩

theorem feeds_passed (resident : s.watch.OnResident) (outcome : Outcome) (k : Nat) (ordered : s.place ≤ k) (below : k < journal.written)
    (passed : Passed g s outcome k) : (s.afterStream outcome).place = k ∧ Feeds g start (s.afterStream outcome) journal := by
  have located := feeds_located g start s journal feeds
  have standing := feeds_resident g start s journal feeds resident
  have place : (s.afterStream outcome).place = k := by
    by_cases here : k = s.place
    · have unmoved : outcome.session.client.reader.pktOffset = s.watch.reader.pktOffset := by
        rw [passed.stands, here]
        exact feeds.stands.symm
      exact (if_pos unmoved).trans here.symm
    · have residentK : journal.Resident g k := ⟨standing.1.trans ordered, below⟩
      refine located_standing g s.watch journal located _ k residentK passed.stands ?_
      refine g.offset_at_ne _ _ located.slots (fun same => here ?_)
      exact slot_injective g.count journal.written k s.place residentK.1 below standing.1 standing.2 same
  refine ⟨place, feeds.fed, ?_, ?_, ?_, ?_,
    passed.state.trans feeds.state, passed.drained.trans feeds.drained, passed.major.trans feeds.major, ?_⟩
  · rw [place]
    exact below
  · rw [place]
    exact feeds.ordered.trans ordered
  · rw [place]
    exact passed.stands
  · exact same_filters_trans _ _ _ feeds.filters passed.filters
  · have written := feeds.fed.stored.payloads.1
    have start' := feeds.ordered
    have frames : (s.afterStream outcome).frames = s.frames ++ outcome.sent := rfl
    have writes : (s.afterStream outcome).writes = s.writes := rfl
    have sent := passed.sent
    rw [feeds.major, selected_same start.reader s.reader feeds.filters] at sent
    rw [place, frames, writes, List.map_append, feeds.frames, sent,
      between_split s.writes (start.place + 1) (k + 1) (s.place + 1) (by omega) (by omega) (by omega), List.filter_append, List.map_append]

omit feeds in
theorem skipped_unselected (payloads : Payloads g journal s.writes) (low high : Nat)
    (skips : ∀ i, low ≤ i → i < high → ¬ RingBuffer.passes s.reader (journal.storedStream i) = true) (i : Nat)
    (write : Request × RingPacket) (above : low ≤ i) (below : i < high) (isWrite : s.writes[i]? = some write) :
    selected s.reader write = false := by
  obtain ⟨request, packet⟩ := write
  have entry := (payloads.2 i request packet isWrite).2.2.2
  have fails := skips i above below
  rw [Journal.storedStream, Journal.streamId, Journal.packet, entry, Bool.not_eq_true] at fails
  rw [selected, fails, Bool.false_and, Bool.false_and]

theorem stream_passed (around : Surroundings) (fuel : Nat) (enough : g.count < fuel) (resident : s.watch.OnResident) :
    ∃ outcome k, streamPackets around fuel s.ring s.session = some outcome ∧ Passed g s outcome k ∧ s.place ≤ k ∧ k < journal.written ∧
      k = min (s.place + 1 + (s.writes.drop (s.place + 1)).findIdx fun write => RingBuffer.passes s.reader (storedId write.2.streamId))
        (s.writes.length - 1) := by
  have standing := feeds_resident g start s journal feeds resident
  have header := feeds_slot g start s journal feeds
  have placed := feeds.placed
  have written := feeds.fed.stored.payloads.1
  obtain ⟨cached, packetData, isCached, size⟩ := cached_buffers_size g s.ring feeds.fed.stored.keeps.shaped header s.session.ext
  have pktSize := DataLink.packet_size_nat g s.ring feeds.fed.stored.keeps.shaped header
  have room : RoomFor s.ring (some (packetData.map fun _ => 0)) := by
    intro buffer isBuffer
    obtain rfl := Option.some.inj isBuffer
    rw [feeds.fed.stored.keeps.shaped.pktSize, List.length_map]
    omega
  obtain ⟨reading, isReading, follows⟩ := read_next_follows g s.ring journal feeds.fed.stored.keeps s.writes feeds.fed.stored.payloads
    cached
    (some (packetData.map fun _ => 0)) room fuel enough s.reader s.place standing feeds.stands (timely_clear journal feeds.fed.timely _ _)
  have filters := read_next_filters fuel s.ring s.reader cached _ reading isReading
  have sameIndex (i : Nat) (write : Request × RingPacket) (isWrite : s.writes[i]? = some write) :
      RingBuffer.passes s.reader (journal.storedStream i) = true ↔ RingBuffer.passes s.reader (storedId write.2.streamId) = true := by
    obtain ⟨request, packet⟩ := write
    have entry := (feeds.fed.stored.payloads.2 i request packet isWrite).2.2.2
    rw [Journal.storedStream, Journal.streamId, Journal.packet, entry]
  have ran : streamPackets around fuel s.ring s.session = streamPacket around fuel s.ring s.session := by
    rw [streamPackets, if_pos feeds.state, feeds.drained, List.isEmpty_nil, if_pos rfl]
  rw [ran]
  cases follows with
  | hit k request packet header moved found isWrite isHeader streamId stands =>
      obtain ⟨above, below, pass, skips⟩ := (first_in_some _ _ _ _).mp found
      obtain ⟨sized, fits, writtenAs, entry⟩ := feeds.fed.stored.payloads.2 k request packet isWrite
      have member := List.mem_of_getElem? isWrite
      have whole : request.packetData.length = request.dataSize.toNat := feeds.fed.whole _ member
      have id : packet.pktId ≤ Constants.ringIdMaximum := feeds.fed.ids _ member
      have reserved : ¬ Constants.ringIdError ≤ Constants.ringIdMaximum ∧ ¬ Constants.ringIdNone ≤ Constants.ringIdMaximum := by decide
      have index := find_idx_first s.writes (s.place + 1) (fun write => RingBuffer.passes s.reader (storedId write.2.streamId)) _ k
        sameIndex (written ▸ found)
      have chosen := filter_between_last s.writes (s.place + 1) k (selected s.reader) _ isWrite above
        (skipped_unselected g s journal feeds.fed.stored.payloads (s.place + 1) k skips)
      have dataSize : header.dataSize = request.dataSize := by
        rw [isHeader.fields]
        show packet.dataSize = request.dataSize
        rw [writtenAs.fields]
        exact sized.header
      have isPayload : request.payload = request.packetData := by rw [Request.payload, ← whole, List.take_length]
      have isData : received request (some (packetData.map fun _ => 0)) =
          some (request.packetData ++ (packetData.map fun _ => 0).drop request.packetData.length) := by
        rw [received, Option.map_some, isPayload, whole]
      obtain ⟨outcome, cached', isOutcome, positive, next, sent⟩ := stream_packet_hit around fuel s.ring s.session cached packetData
        request.packetData _ isCached isReading (fun same => reserved.1 (same ▸ id)) (fun same => reserved.2 (same ▸ id)) isData
        (by show header.dataSize.toNat = _; rw [dataSize, whole])
      refine ⟨outcome, k, isOutcome, ⟨positive, ?_, ?_, ?_, ?_, ?_, ?_⟩, by omega, below, ?_⟩
      · rw [next]
        exact stands
      · rw [next]
        exact filters
      · rw [next]
        rfl
      · rw [next]
        rfl
      · rw [next]
        rfl
      · have passK := (sameIndex k _ isWrite).mp pass
        have isSelected : selected s.reader (request, packet) = true ↔
            header.dataSize ≠ 0 ∧ isValidMiniSeedHeader request.packetData request.packetData.length = true := by
          rw [selected, passK, dataSize, Bool.true_and, Bool.and_eq_true, decide_eq_true_eq]
        rw [sent, chosen]
        by_cases both : header.dataSize ≠ 0 ∧ isValidMiniSeedHeader request.packetData request.packetData.length = true
        · rw [if_pos both, List.filter_cons_of_pos (isSelected.mpr both)]
          rfl
        · rw [if_neg both, List.filter_cons_of_neg (fun chosen => both (isSelected.mp chosen))]
          rfl
      · rw [index]
        omega
  | rest moved missing stands =>
      rw [← written] at missing
      have index := find_idx_none s.writes (s.place + 1) (fun write => RingBuffer.passes s.reader (storedId write.2.streamId)) _
        sameIndex (by omega) missing
      have noError : ¬ Constants.ringIdNone = Constants.ringIdError := by decide
      have start : s.session.client.reader = s.reader := rfl
      simp only [streamPacket, isCached, start, isReading, Option.bind_eq_bind, Option.bind_some, if_neg noError, if_true]
      refine ⟨_, journal.written - 1, rfl, ⟨lt_irrefl (0 : Int), stands, filters, rfl, rfl, rfl, ?_⟩, by omega, by omega, ?_⟩
      · have last : journal.written - 1 + 1 = journal.written := by omega
        have skips := (first_in_none _ _ _).mp missing
        rw [written] at skips
        rw [last, filter_between_none s.writes _ _ _
          (skipped_unselected g s journal feeds.fed.stored.payloads (s.place + 1) journal.written skips)]
        rfl
      · rw [index, written]
        omega

end

theorem fed_write (g : Geometry) (ring : RingParams) (writes : List (Request × RingPacket)) (journal : Journal)
    (fed : Fed g ring writes journal) (request : Request) (next : RingParams) (packet : RingPacket)
    (automatic : Automatic ring request) (later : ∀ write ∈ writes, write.2.pktTime.value ≤ request.clock.value)
    (wrote : writeRequest ring request = some (0, next, packet)) :
    Fed g next (writes ++ [(request, packet)]) (journal.record g request) ∧ next.pktSize = ring.pktSize ∧
      packet.pktTime = request.clock := by
  have sized : Sized request := ⟨automatic.header, le_of_eq automatic.whole.symm⟩
  obtain ⟨ring', wrote', pktSize, stored⟩ := stored_write g ring writes journal fed.stored request automatic.fits sized
  have same := Option.some.inj (wrote'.symm.trans wrote)
  obtain rfl : ring' = next := congrArg (·.2.1) same
  obtain rfl : journal.stamp g request.clock request.packet = packet := congrArg (·.2.2) same
  have laterThan (i : Nat) (below : i < journal.written) : (journal.packet i).pktTime.value ≤ request.clock.value := by
    obtain ⟨other, isWrite, _⟩ := payloads_at g journal writes fed.stored.payloads i below
    exact later (other, journal.packet i) (List.mem_of_getElem? isWrite)
  refine ⟨⟨stored, timely_record g journal request fed.timely laterThan, ?_, ?_⟩, pktSize, rfl⟩
  · intro write member
    cases List.mem_append.mp member with
    | inl old => exact fed.whole write old
    | inr new =>
        rw [List.mem_singleton.mp new]
        exact automatic.whole
  · intro write member
    cases List.mem_append.mp member with
    | inl old => exact fed.ids write old
    | inr new =>
        rw [List.mem_singleton.mp new]
        exact automatic_id_range g journal request.clock request.packet automatic.unnamed

theorem fed_all (g : Geometry) (requests : List Request) (ring next : RingParams) (packets : List RingPacket)
    (writes : List (Request × RingPacket)) (journal : Journal) (fed : Fed g ring writes journal)
    (automatic : ∀ request ∈ requests, Automatic ring request) (clocks : (requests.map (·.clock.value)).Pairwise (· ≤ ·))
    (later : ∀ write ∈ writes, ∀ request ∈ requests, write.2.pktTime.value ≤ request.clock.value)
    (ran : writeAll ring requests = some (next, packets)) :
    ∃ journal', Fed g next (writes ++ requests.zip packets) journal' := by
  induction requests generalizing ring packets writes journal with
  | nil =>
      cases ran
      rw [List.zip_nil_left, List.append_nil]
      exact ⟨journal, fed⟩
  | cons request rest ih =>
      rw [writeAll.eq_def] at ran
      dsimp only at ran
      split at ran
      · rename_i middle packet wrote
        obtain ⟨⟨last, others⟩, ranRest, same⟩ := Option.map_eq_some_iff.mp ran
        cases same
        obtain ⟨fed', pktSize, time⟩ := fed_write g ring writes journal fed request middle packet
          (automatic request List.mem_cons_self) (fun write member => later write member request List.mem_cons_self) wrote
        rw [List.map_cons, List.pairwise_cons] at clocks
        obtain ⟨journal', all⟩ := ih middle others (writes ++ [(request, packet)]) _ fed'
          (fun other member => by
            have known := automatic other (List.mem_cons_of_mem _ member)
            exact ⟨⟨by rw [pktSize]; exact known.fits.passes, known.fits.array⟩, known.unnamed, known.header, known.whole⟩)
          clocks.2
          (fun write member other isOther => by
            cases List.mem_append.mp member with
            | inl old => exact later write old other (List.mem_cons_of_mem _ isOther)
            | inr new =>
                rw [List.mem_singleton.mp new]
                show packet.pktTime.value ≤ other.clock.value
                rw [time]
                exact clocks.1 _ (List.mem_map_of_mem isOther))
          ranRest
        refine ⟨journal', ?_⟩
        rw [List.zip_cons_cons, List.append_cons]
        exact all
      · cases ran

theorem feeds_write (g : Geometry) (start s : Feed) (journal : Journal) (feeds : Feeds g start s journal) (request : Request)
    (ring : RingParams) (packet : RingPacket) (automatic : Automatic s.ring request)
    (later : ∀ write ∈ s.writes, write.2.pktTime.value ≤ request.clock.value)
    (wrote : writeRequest s.ring request = some (0, ring, packet)) :
    Feeds g start (s.afterWrite ring request packet) (journal.record g request) := by
  have written := feeds.fed.stored.payloads.1
  have placed := feeds.placed
  have frames := feeds.frames
  refine ⟨(fed_write g s.ring s.writes journal feeds.fed request ring packet automatic later wrote).1, Nat.lt_succ_of_lt placed,
    feeds.ordered, feeds.stands, feeds.filters, feeds.state, feeds.drained, feeds.major, ?_⟩
  rw [← between_append s.writes _ _ [(request, packet)] (by omega)] at frames
  exact frames

theorem opens_feeds (g : Geometry) (ring : RingParams) (fresh : Fresh g ring) (start : Feed) (opens : Opens ring start) :
    ∃ journal, Feeds g start start journal := by
  obtain ⟨requests, packets, ran, writes, automatic, clocks⟩ := opens.run
  have empty : Fed g ring [] Journal.empty :=
    ⟨stored_fresh g ring fresh, ⟨fun _ j _ below => absurd below (Nat.not_lt_zero j), fun i below => absurd below (Nat.not_lt_zero i)⟩,
      fun _ member => (nomatch member), fun _ member => (nomatch member)⟩
  obtain ⟨journal, fed⟩ := fed_all g requests ring start.ring packets [] Journal.empty empty automatic clocks
    (fun write member => (nomatch member)) ran
  rw [List.nil_append, ← writes] at fed
  obtain ⟨⟨request, packet⟩, isWrite, stands⟩ := opens.placed
  have inside := (List.getElem?_eq_some_iff.mp isWrite).1
  have entry := (fed.stored.payloads.2 start.place request packet isWrite).2.2.2
  have written := fed.stored.payloads.1
  refine ⟨journal, fed, by omega, Nat.le_refl _, ?_, same_filters_refl _, opens.state, opens.drained, rfl, ?_⟩
  · have isPacket : journal.packet start.place = packet := congrArg Entry.packet entry
    rw [stands, ← fed.stored.offsets start.place (by omega), isPacket]
  · have nothing : between start.writes (start.place + 1) (start.place + 1) = [] :=
      List.drop_eq_nil_of_le (by rw [List.length_take]; omega)
    rw [opens.frames, nothing]
    rfl

theorem feeding_feeds (g : Geometry) (start s : Feed) (journal : Journal) (feeds : Feeds g start start journal) (fuel : Nat)
    (enough : g.count < fuel) (reach : Feeding fuel start s) : ∃ journal', Feeds g start s journal' := by
  induction reach with
  | start => exact ⟨journal, feeds⟩
  | write s request ring packet reach automatic later wrote ih =>
      obtain ⟨journal', feeds'⟩ := ih
      exact ⟨_, feeds_write g start s journal' feeds' request ring packet automatic later wrote⟩
  | stream s around outcome reach resident ran ih =>
      obtain ⟨journal', feeds'⟩ := ih
      obtain ⟨outcome', k, ran', passed, ordered, below, _⟩ := stream_passed g start s journal' feeds' around fuel enough resident
      obtain rfl := Option.some.inj (ran'.symm.trans ran)
      exact ⟨journal', (feeds_passed g start s journal' feeds' resident _ k ordered below passed).2⟩

-- The client gets the packets behind the first place of the reader that are for it, in
-- write order and once; a step goes on to the next packet that passes the filters.
theorem stream_delivers (g : Geometry) (ring : RingParams) (fresh : Fresh g ring) (fuel : Nat) (enough : ring.maxPackets.toNat < fuel)
    (start s : Feed) (opens : Opens ring start) (reach : Feeding fuel start s) :
    s.frames.map (readFrame start.session.ext.protoMajor) = ((between s.writes (start.place + 1) (s.place + 1)).filter
        (selected start.reader)).map (framed start.session.ext.protoMajor) ∧
      (s.watch.OnResident → ∀ around, ∃ outcome, streamPackets around fuel s.ring s.session = some outcome ∧ ¬ outcome.code < 0 ∧
        (s.afterStream outcome).place = min (s.place + 1 + (s.writes.drop (s.place + 1)).findIdx fun write =>
          RingBuffer.passes s.reader (storedId write.2.streamId)) (s.writes.length - 1)) := by
  rw [fresh.maxPackets] at enough
  obtain ⟨journal, feeds⟩ := opens_feeds g ring fresh start opens
  obtain ⟨journal', feeds'⟩ := feeding_feeds g start s journal feeds fuel enough reach
  refine ⟨feeds'.frames, fun resident around => ?_⟩
  obtain ⟨outcome, k, ran, passed, ordered, below, isPlace⟩ := stream_passed g start s journal' feeds' around fuel enough resident
  refine ⟨outcome, ran, passed.code, ?_⟩
  rw [(feeds_passed g start s journal' feeds' resident outcome k ordered below passed).1, isPlace]

-- The header of miniSEED 3 up to the seconds.
def ms3Request : Request :=
  ⟨⟨6⟩, ⟨0, Constants.ringIdNone, ⟨6⟩, -1, ['B'], ⟨6⟩, ⟨6⟩, 15⟩, [77, 83, 3, 0, 0, 0, 0, 0, 0, 0, 0, 0, 0, 0, 0], 15⟩

theorem ms3_automatic (ring : RingParams) (clock : NsTime) (pktSize : ring.pktSize = 128) :
    Automatic ring { ms3Request with clock := clock } := by
  refine ⟨⟨?_, ?_⟩, rfl, rfl, rfl⟩
  · rw [pktSize]
    show ¬ 112 + ms3Request.dataSize > 128
    decide
  · show ms3Request.dataSize.toNat < 2 ^ 31
    decide

theorem byte_automatic (ring : RingParams) (clock : NsTime) (streamId : Text) (byte : UInt8) (pktSize : ring.pktSize = 128) :
    Automatic ring (byteRequest clock streamId byte) := ⟨(byte_request_fits ring pktSize clock streamId byte).1, rfl, rfl, rfl⟩

def firstByte : List Request := [byteRequest ⟨5⟩ ['A'] 7]

def onFirst : Feed where
  ring := writtenRing twoSlotRing firstByte
  session := ⟨{ DataLink.newClient with state := .stream, reader := { DataLink.newClient.reader with pktOffset := 0 } }, newExtInfo⟩
  writes := firstByte.zip (writtenPackets twoSlotRing firstByte)
  place := 0
  frames := []

theorem on_first_opens : Opens twoSlotRing onFirst := by
  have stores : (writeAll twoSlotRing firstByte).isSome = true := by decide +kernel
  obtain ⟨⟨ring, packets⟩, ran⟩ := Option.isSome_iff_exists.mp stores
  obtain ⟨isRing, isPackets⟩ := written_of_run twoSlotRing ring firstByte packets ran
  have automatic : ∀ request ∈ firstByte, Automatic twoSlotRing request := by
    intro request member
    rw [List.mem_singleton.mp member]
    exact byte_automatic twoSlotRing ⟨5⟩ ['A'] 7 rfl
  have offset : onFirst.writes[0]?.map (fun write => write.2.offset) = some 0 := by decide +kernel
  obtain ⟨write, isWrite, zero⟩ := Option.map_eq_some_iff.mp offset
  refine ⟨⟨firstByte, packets, ?_, ?_, automatic, List.pairwise_singleton _ _⟩, ⟨write, isWrite, zero.symm⟩, rfl, rfl, rfl⟩
  · rw [onFirst, isRing]
    exact ran
  · rw [onFirst, isPackets]

def fedWrite (s : Feed) (request : Request) : Feed :=
  ((writeRequest s.ring request).map fun written => s.afterWrite written.2.1 request written.2.2).getD s

def fedStream (s : Feed) : Feed := ((streamPackets quiet 3 s.ring s.session).map s.afterStream).getD s

def fedTurn (s : Feed) (request : Request) : Feed := fedStream (fedWrite s request)

theorem fed_turn_reached (start s : Feed) (request : Request) (reach : Feeding 3 start s) (automatic : Automatic s.ring request)
    (later : ∀ write ∈ s.writes, write.2.pktTime.value ≤ request.clock.value)
    (stores : (writeRequest s.ring request).map (·.1) = some 0) (resident : (fedWrite s request).watch.OnResident)
    (streams : (streamPackets quiet 3 (fedWrite s request).ring (fedWrite s request).session).isSome = true) :
    Feeding 3 start (fedTurn s request) := by
  obtain ⟨⟨code, ring, packet⟩, wrote, zero⟩ := Option.map_eq_some_iff.mp stores
  obtain rfl : code = 0 := zero
  have written : Feeding 3 start (fedWrite s request) := by
    rw [fedWrite, wrote]
    exact .write s request ring packet reach automatic later wrote
  obtain ⟨outcome, ran⟩ := Option.isSome_iff_exists.mp streams
  rw [fedTurn, fedStream, ran]
  exact .stream _ quiet outcome written resident ran

def firstTurn : Feed := fedTurn onFirst ms3Request

def secondTurn : Feed := fedTurn firstTurn (byteRequest ⟨7⟩ ['A'] 9)

def thirdTurn : Feed := fedTurn secondTurn { ms3Request with clock := ⟨8⟩ }

theorem third_turn_reached : Feeding 3 onFirst thirdTurn := by
  have first := fed_turn_reached onFirst onFirst ms3Request .start (ms3_automatic _ ⟨6⟩ (by decide +kernel)) (by decide +kernel)
    (by decide +kernel) (by rw [Watch.OnResident]; decide +kernel) (by decide +kernel)
  have second := fed_turn_reached onFirst firstTurn (byteRequest ⟨7⟩ ['A'] 9) first (byte_automatic _ ⟨7⟩ ['A'] 9 (by decide +kernel))
    (by decide +kernel) (by decide +kernel) (by rw [Watch.OnResident]; decide +kernel) (by decide +kernel)
  exact fed_turn_reached onFirst secondTurn { ms3Request with clock := ⟨8⟩ } second (ms3_automatic _ ⟨8⟩ (by decide +kernel))
    (by decide +kernel) (by decide +kernel) (by rw [Watch.OnResident]; decide +kernel) (by decide +kernel)

theorem stream_delivers_two_of_three : Opens twoSlotRing onFirst ∧ Feeding 3 onFirst thirdTurn ∧ thirdTurn.place = 3 ∧
    thirdTurn.frames.map (readFrame 3) = [(2, ms3Request.packetData), (4, ms3Request.packetData)] ∧
    thirdTurn.frames.map (readFrame onFirst.session.ext.protoMajor) =
      ((between thirdTurn.writes (onFirst.place + 1) (thirdTurn.place + 1)).filter (selected onFirst.reader)).map
        (framed onFirst.session.ext.protoMajor) ∧
      (thirdTurn.watch.OnResident → ∀ around, ∃ outcome, streamPackets around 3 thirdTurn.ring thirdTurn.session = some outcome ∧
        ¬ outcome.code < 0 ∧
        (thirdTurn.afterStream outcome).place = min (thirdTurn.place + 1 + (thirdTurn.writes.drop (thirdTurn.place + 1)).findIdx fun write =>
          RingBuffer.passes thirdTurn.reader (storedId write.2.streamId)) (thirdTurn.writes.length - 1)) :=
  ⟨on_first_opens, third_turn_reached, by decide +kernel, by decide +kernel,
    stream_delivers twoSlots twoSlotRing two_slots_fresh 3 (by decide) onFirst thirdTurn on_first_opens third_turn_reached⟩

end RingServer.SeedLink
