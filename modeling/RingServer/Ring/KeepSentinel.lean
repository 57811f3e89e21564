import RingServer.Ring.KeepNext
import RingServer.Ring.KeepResume
import RingServer.Ring.Search

set_option autoImplicit false

namespace RingServer

open Library

structure Hands (write : Request × RingPacket) (data : Option (List UInt8)) (reading : RingBuffer.Reading) : Prop where
  code : reading.code = write.2.pktId
  header : HeaderOf write.2 reading.packet
  streamId : reading.packet.streamId = storedId write.2.streamId
  data : reading.data = received write.1 data

def HandsOut (fuel : Nat) (ring : RingParams) : List (Request × RingPacket) → RingReader → Prop
  | [], reader => ∀ caller data, RoomFor ring data →
      ∃ reading, RingBuffer.readNext fuel ring reader caller data = some reading ∧ reading.code = Constants.ringIdNone
  | write :: rest, reader => ∀ caller data, RoomFor ring data →
      ∃ reading, RingBuffer.readNext fuel ring reader caller data = some reading ∧ Hands write data reading ∧
        HandsOut fuel ring rest reading.reader

structure SentinelReads (fuel : Nat) (ring : RingParams) (resident : List (Request × RingPacket)) (reader : RingReader) : Prop where
  earliest : reader.pktId = Constants.ringIdEarliest → HandsOut fuel ring (resident.filter (wanted reader)) reader
  latest : reader.pktId = Constants.ringIdLatest → ∀ last, resident.getLast? = some last → wanted reader last = true →
    ∀ caller data, RoomFor ring data →
      ∃ reading, RingBuffer.readNext fuel ring reader caller data = some reading ∧ Hands last data reading

-- With a free slot no packet may be late. In a full ring, and behind a late packet at
-- the start, there must be nothing to hand out.
def EarliestOpen (ring : RingParams) (resident : List (Request × RingPacket)) (reader : RingReader) : Prop :=
  if resident.length < ring.maxPackets.toNat then
    (∀ write ∈ resident, ¬ LateWrite resident write) ∨
      (resident.filter (wanted reader) = [] ∧ ∃ first, resident.head? = some first ∧ LateWrite resident first)
  else resident.filter (wanted reader) = []

theorem no_buffer (ring : RingParams) : RoomFor ring none := by
  intro buffer isBuffer
  cases isBuffer

theorem hands_out_nothing (fuel : Nat) (ring : RingParams) (reader : RingReader) (writes : List (Request × RingPacket))
    (named : ∀ write ∈ writes, write.2.pktId ≠ Constants.ringIdNone) (caller : RingPacket)
    (nothing : ∀ caller data, ∃ reading, RingBuffer.readNext fuel ring reader caller data = some reading ∧
      reading.code = Constants.ringIdNone) : HandsOut fuel ring writes reader ↔ writes = [] := by
  cases writes with
  | nil => exact ⟨fun _ => rfl, fun _ caller data _ => nothing caller data⟩
  | cons write rest =>
      refine ⟨fun hands => ?_, fun empty => absurd empty (List.cons_ne_nil _ _)⟩
      obtain ⟨reading, ran, isHanded, _⟩ := hands caller none (no_buffer ring)
      obtain ⟨other, ran', isNone⟩ := nothing caller none
      obtain rfl := Option.some.inj (ran'.symm.trans ran)
      exact absurd (isHanded.code.symm.trans isNone) (named write List.mem_cons_self)

section

variable (g : Geometry) (ring : RingParams) (journal : Journal) (keeps : Keeps g ring journal)

include keeps

-- In a full ring the earliest packet has the offset that ends the loop.
theorem read_next_full (full : g.count ≤ journal.written) (caller : RingPacket) (data : Option (List UInt8)) (fuel : Nat)
    (reader : RingReader) (unset : reader.pktOffset < 0) (earliest : reader.pktId = Constants.ringIdEarliest) :
    RingBuffer.readNext (fuel + 1) ring reader caller data = some ⟨Constants.ringIdNone, reader, caller, data⟩ := by
  have positive := g.positive
  have wrapped : g.offsetAt (journal.low g) = g.offsetAt journal.written :=
    g.offset_at_congr _ _ (slot_reused g.count journal.written full).symm
  rw [read_next_sentinel g ring journal keeps (by omega) caller data (fuel + 1) reader unset (journal.low g) (.inr ⟨earliest, rfl⟩),
    RingBuffer.readNextFrom, if_pos wrapped]

end

def BeginsAt (g : Geometry) (ring : RingParams) (journal : Journal) (fuel : Nat) (reader : RingReader) (i : Nat) : Prop :=
  ∀ caller data, RingBuffer.readNext fuel ring reader caller data =
    RingBuffer.readNextFrom ring (journal.packet (journal.written - 1)).pktTime (g.offsetAt journal.written) caller data fuel 0 reader
      (g.offsetAt i)

section

variable (g : Geometry) (ring : RingParams) (journal : Journal) (writes : List (Request × RingPacket))
  (stored : Stored g ring writes journal)

include stored

theorem zero_follows (filling : journal.written < g.count) (positive : 0 < journal.written) (fuel skipped : Nat)
    (enough : g.count < fuel) (reader : RingReader) (clear : Clear journal reader 0) (caller : RingPacket) (data : Option (List UInt8))
    (room : RoomFor ring data) : ∃ reading, RingBuffer.readNextFrom ring (journal.packet (journal.written - 1)).pktTime
      (g.offsetAt journal.written) caller data fuel skipped reader (g.offsetAt 0) = some reading ∧
      Follows g journal writes reader caller data 0 reading := by
  have fresh (k : Nat) : oldest g.count (journal.written + 1) ≤ k := by
    rw [(oldest_filling g.count journal.written filling).2]
    exact Nat.zero_le k
  obtain ⟨rounds, rfl⟩ : ∃ rounds, fuel = rounds + 1 := ⟨fuel - 1, by omega⟩
  obtain ⟨request, header, isWrite, isHeader, streamId, pass⟩ := follow_pass g ring journal stored.keeps writes stored.payloads 0 (fresh 0)
    positive (clear 0 (Nat.le_refl 0) positive (fun j _ below => absurd below (Nat.not_lt_zero j))) caller data room rounds skipped reader
  rw [pass]
  by_cases hit : RingBuffer.passes reader (journal.storedStream 0) = true
  · rw [if_pos hit]
    exact ⟨_, rfl, .hit 0 request _ header _ (first_in_head _ _ _ positive hit) isWrite isHeader streamId rfl⟩
  · rw [if_neg hit]
    obtain ⟨reading, ran, follows⟩ := read_next_from_follows g ring journal stored.keeps writes stored.payloads caller data room rounds 0 1
      (RingBuffer.moveTo reader (g.offsetAt 0) header) Nat.one_pos rfl (fresh 1) positive (by omega) (clear_next journal reader 0 clear hit)
    refine ⟨reading, ran, ?_⟩
    have tail := first_in_tail (fun k => RingBuffer.passes reader (journal.storedStream k) = true) 0 journal.written hit
    cases follows with
    | hit k request packet header moved found isWrite isHeader streamId stands =>
        exact .hit k request packet header moved (tail.trans found) isWrite isHeader streamId stands
    | rest moved missing stands => exact .rest moved (tail.trans missing) stands

theorem begins_follows (filling : journal.written < g.count) (fuel i : Nat) (enough : g.count < fuel) (reader : RingReader)
    (ordered : i ≤ journal.written) (begins : BeginsAt g ring journal fuel reader i)
    (placed : (i = 0 ∧ 0 < journal.written) ∨ (0 < i ∧ reader.pktOffset = g.offsetAt (i - 1))) (clear : Clear journal reader i)
    (caller : RingPacket) (data : Option (List UInt8)) (room : RoomFor ring data) :
    ∃ reading, RingBuffer.readNext fuel ring reader caller data = some reading ∧ Follows g journal writes reader caller data i reading := by
  rw [begins]
  rcases placed with ⟨rfl, positive⟩ | ⟨positive, stands⟩
  · exact zero_follows g ring journal writes stored filling positive fuel 0 enough reader clear caller data room
  · apply read_next_from_follows g ring journal stored.keeps writes stored.payloads caller data room fuel 0 i reader positive stands
    · rw [(oldest_filling g.count journal.written filling).2]
      exact Nat.zero_le i
    · exact ordered
    · omega
    · exact clear

theorem latest_handed (nonempty : journal.written ≠ 0) (fuel : Nat) (reader : RingReader) (unset : reader.pktOffset < 0)
    (latest : reader.pktId = Constants.ringIdLatest) (last : Request × RingPacket) (isLast : writes.getLast? = some last)
    (isWanted : wanted reader last = true) (caller : RingPacket) (data : Option (List UInt8)) (room : RoomFor ring data) :
    ∃ reading, RingBuffer.readNext (fuel + 1) ring reader caller data = some reading ∧ Hands last data reading := by
  have two := g.two
  have isWrite : writes[journal.written - 1]? = some last := by
    rw [← stored.payloads.1, ← List.getLast?_eq_getElem?]
    exact isLast
  have punctual : ¬ journal.Late (journal.written - 1) := fun late => Int64.lt_irrefl late
  obtain ⟨request, header, isRequest, isHeader, streamId, pass⟩ := follow_pass g ring journal stored.keeps writes stored.payloads
    (journal.written - 1) (by simp only [oldest]; omega) (by omega) punctual caller data room fuel 0 reader
  have hit := (wanted_iff g journal writes stored.payloads reader _ last isWrite).mpr isWanted
  rw [isRequest, Option.some.injEq] at isWrite
  rw [read_next_sentinel g ring journal stored.keeps nonempty caller data (fuel + 1) reader unset (journal.written - 1)
    (.inl ⟨latest, rfl⟩),
    pass, if_pos hit, ← isWrite]
  exact ⟨_, rfl, rfl, isHeader, streamId, rfl⟩

theorem hands_out_punctual (filling : journal.written < g.count) (fuel : Nat) (enough : g.count < fuel)
    (punctual : ∀ k, k < journal.written → ¬ journal.Late k) (rest : List (Request × RingPacket)) (i : Nat) (reader : RingReader)
    (ordered : i ≤ journal.written) (begins : BeginsAt g ring journal fuel reader i)
    (placed : (i = 0 ∧ 0 < journal.written) ∨ (0 < i ∧ reader.pktOffset = g.offsetAt (i - 1)))
    (isRest : (writes.drop i).filter (wanted reader) = rest) : HandsOut fuel ring rest reader := by
  have same := fun k write isWrite => wanted_iff g journal writes stored.payloads reader k write isWrite
  have clear : Clear journal reader i := fun k _ below _ => punctual k below
  have written := stored.payloads.1
  induction rest generalizing i reader with
  | nil =>
      intro caller data room
      obtain ⟨reading, ran, follows⟩ := begins_follows g ring journal writes stored filling fuel i enough reader ordered begins placed clear
        caller data room
      refine ⟨reading, ran, ?_⟩
      cases follows with
      | hit k request packet header moved found isWrite isHeader streamId stands =>
          rw [← written] at found
          have cons := filter_drop_first writes i (wanted reader) _ k _ same found isWrite
          exact absurd (cons.symm.trans isRest) (List.cons_ne_nil _ _)
      | rest moved missing stands => rfl
  | cons write rest ih =>
      intro caller data room
      obtain ⟨reading, ran, follows⟩ := begins_follows g ring journal writes stored filling fuel i enough reader ordered begins placed clear
        caller data room
      have filters := read_next_filters fuel ring reader caller data reading ran
      refine ⟨reading, ran, ?_⟩
      cases follows with
      | hit k request packet header moved found isWrite isHeader streamId stands =>
          have below := ((first_in_some _ _ _ _).mp found).2.1
          rw [← written] at found
          have cons := filter_drop_first writes i (wanted reader) _ k _ same found isWrite
          obtain ⟨rfl, others⟩ := List.cons.inj (isRest.symm.trans cons)
          refine ⟨⟨rfl, isHeader, streamId, rfl⟩, ?_⟩
          apply ih (k + 1) moved below
          · exact fun caller data => read_next_standing g ring journal stored.keeps caller data fuel moved k below stands
          · exact Or.inr ⟨Nat.succ_pos k, stands⟩
          · rw [wanted_same reader moved filters, others]
          · exact fun k' write isWrite => wanted_iff g journal writes stored.payloads moved k' write isWrite
          · exact fun k' _ below' _ => punctual k' below'
      | rest moved missing stands =>
          rw [← written] at missing
          have none := filter_drop_none writes i (wanted reader) _ same missing
          exact absurd (isRest.symm.trans none) (List.cons_ne_nil _ _)

theorem header_same (filling : journal.written < g.count) (i k : Nat) (belowI : i < journal.written) (belowK : k < journal.written)
    (header : RingPacket) (first : HeaderOf (journal.packet i) header) (second : HeaderOf (journal.packet k) header) : i = k := by
  have same : (journal.packet i).offset = (journal.packet k).offset := by rw [← first.offset, ← second.offset]
  rw [stored.offsets i belowI, stored.offsets k belowK] at same
  exact resident_offset g ring journal stored.keeps i k (filling_apart g ring journal stored.keeps filling i belowI).1
    (filling_apart g ring journal stored.keeps filling k belowK).1 same

theorem header_apart (filling : journal.written < g.count) (i k : Nat) (before : k < i) (below : k < journal.written)
    (write : Request × RingPacket) (member : write ∈ writes.drop i) (header : RingPacket)
    (first : HeaderOf (journal.packet k) header) : ¬ HeaderOf write.2 header := by
  intro second
  obtain ⟨j, isWrite⟩ := List.mem_iff_getElem?.mp member
  rw [List.getElem?_drop] at isWrite
  obtain ⟨belowJ, isPacket⟩ := write_packet g journal writes stored.payloads (i + j) write isWrite
  rw [← isPacket] at second
  have same := header_same g ring journal writes stored filling k (i + j) below belowJ header first second
  omega

theorem hands_out_hindered (filling : journal.written < g.count) (fuel : Nat) (enough : g.count < fuel) (stop : Nat)
    (belowStop : stop < journal.written) (late : journal.Late stop) (least : ∀ k, k < stop → ¬ journal.Late k) (behind : 0 < stop)
    (rest : List (Request × RingPacket)) (i : Nat) (reader : RingReader) (ordered : i ≤ stop)
    (begins : BeginsAt g ring journal fuel reader i)
    (placed : (i = 0 ∧ 0 < journal.written) ∨ (0 < i ∧ reader.pktOffset = g.offsetAt (i - 1)))
    (isRest : (writes.drop i).filter (wanted reader) = rest) : ¬ HandsOut fuel ring rest reader := by
  have same := fun k write isWrite => wanted_iff g journal writes stored.payloads reader k write isWrite
  have written := stored.payloads.1
  induction rest generalizing i reader with
  | nil =>
      intro hands
      obtain ⟨reading, ran, isNone⟩ := hands (journal.packet 0) none (no_buffer ring)
      have skips (k : Nat) (above : i ≤ k) (before : k < stop) : ¬ RingBuffer.passes reader (journal.storedStream k) = true := by
        intro hit
        have isWrite := List.getElem?_eq_getElem (l := writes) (i := k) (by omega)
        have member : writes[k] ∈ writes.drop i := by
          rw [List.mem_iff_getElem?]
          exact ⟨k - i, by rw [List.getElem?_drop, Nat.add_sub_cancel' above, isWrite]⟩
        exact List.filter_eq_nil_iff.mp isRest _ member ((same k _ isWrite).mp hit)
      rw [begins] at ran
      rcases late_scan g ring journal stored.keeps writes stored.payloads filling i stop belowStop late _ none (no_buffer ring) fuel 0 i
        reader ordered skips reading ran with ⟨k, _, below, isCode, _⟩ | ⟨_, early⟩
      · have isWrite := List.getElem?_eq_getElem (l := writes) (i := k) (by omega)
        have named := write_named g ring journal writes stored _ (List.mem_of_getElem? isWrite)
        rw [← (write_packet g journal writes stored.payloads k _ isWrite).2, ← isCode] at named
        exact named isNone
      · exact early ⟨least 0 behind, Or.inl rfl⟩
  | cons write rest ih =>
      intro hands
      obtain ⟨reading, ran, isHanded, handsRest⟩ := hands (journal.packet 0) none (no_buffer ring)
      have filters := read_next_filters fuel ring reader _ none reading ran
      have member : write ∈ writes.drop i := by
        apply List.mem_of_mem_filter (p := wanted reader)
        rw [isRest]
        exact List.mem_cons_self
      cases found : firstIn (fun k => RingBuffer.passes reader (journal.storedStream k) = true) i stop with
      | none =>
          rw [begins] at ran
          rcases late_scan g ring journal stored.keeps writes stored.payloads filling i stop belowStop late _ none (no_buffer ring) fuel 0
            i reader ordered ((first_in_none _ _ _).mp found) reading ran with ⟨k, before, below, _, isHeader⟩ | ⟨_, early⟩
          · exact header_apart g ring journal writes stored filling i k before below write member reading.packet isHeader isHanded.header
          · exact early ⟨least 0 behind, Or.inl rfl⟩
      | some k =>
          obtain ⟨above, before, hit, earlier⟩ := (first_in_some _ _ _ _).mp found
          have clear : Clear journal reader i := by
            intro j _ _ skips
            refine least j ?_
            by_contra beyond
            exact skips k above (by omega) hit
          obtain ⟨other, ran', follows⟩ := begins_follows g ring journal writes stored filling fuel i enough reader (by omega) begins
            placed clear (journal.packet 0) none (no_buffer ring)
          obtain rfl := Option.some.inj (ran'.symm.trans ran)
          cases follows with
          | hit k' request packet header moved found' isWrite isHeader streamId stands =>
              obtain ⟨_, below', _, least'⟩ := (first_in_some _ _ _ _).mp found'
              have close : k' < stop := by
                by_contra beyond
                exact least' k above (by omega) hit
              rw [← written] at found'
              have cons := filter_drop_first writes i (wanted reader) _ k' _ same found' isWrite
              obtain ⟨rfl, others⟩ := List.cons.inj (isRest.symm.trans cons)
              refine ih (k' + 1) moved close ?_ (Or.inr ⟨Nat.succ_pos k', stands⟩) ?_ ?_ handsRest
              · exact fun caller data => read_next_standing g ring journal stored.keeps caller data fuel moved k' below' stands
              · rw [wanted_same reader moved filters, others]
              · exact fun j write isWrite => wanted_iff g journal writes stored.payloads moved j write isWrite
          | rest moved missing stands => exact (first_in_none _ _ _).mp missing k above (by omega) hit

theorem hands_out_filling (nonempty : journal.written ≠ 0) (filling : journal.written < g.count) (fuel : Nat)
    (enough : g.count + 100 < fuel) (reader : RingReader) (unset : reader.pktOffset < 0)
    (earliest : reader.pktId = Constants.ringIdEarliest) : HandsOut fuel ring (writes.filter (wanted reader)) reader ↔
      (∀ write ∈ writes, ¬ LateWrite writes write) ∨
        (writes.filter (wanted reader) = [] ∧ ∃ first, writes.head? = some first ∧ LateWrite writes first) := by
  have keeps := stored.keeps
  have payloads := stored.payloads
  have written := payloads.1
  have positive : 0 < journal.written := by omega
  have low : journal.low g = 0 := (oldest_filling g.count journal.written filling).1
  have begins : BeginsAt g ring journal fuel reader 0 := fun caller data =>
    read_next_sentinel g ring journal keeps nonempty caller data fuel reader unset 0 (.inr ⟨earliest, low.symm⟩)
  have all : (writes.drop 0).filter (wanted reader) = writes.filter (wanted reader) := by rw [List.drop_zero]
  obtain ⟨first, atFirst⟩ : ∃ first, writes[0]? = some first := ⟨_, List.getElem?_eq_getElem (by omega)⟩
  have isFirst : writes.head? = some first := by
    rw [List.head?_eq_getElem?]
    exact atFirst
  by_cases punctual : ∀ k, k < journal.written → ¬ journal.Late k
  · have handed := hands_out_punctual g ring journal writes stored filling fuel (by omega) punctual _ 0 reader (Nat.zero_le _) begins
      (Or.inl ⟨rfl, positive⟩) all
    refine ⟨fun _ => Or.inl fun write member late => ?_, fun _ => handed⟩
    obtain ⟨k, isWrite⟩ := List.mem_iff_getElem?.mp member
    exact punctual k (write_packet g journal writes payloads k write isWrite).1
      ((late_write_iff g journal writes payloads k write isWrite).mp late)
  simp only [not_forall, not_not] at punctual
  obtain ⟨some, below, isLate⟩ := punctual
  obtain ⟨stop, _, ordered, late, first_one⟩ := least_late journal 0 some (Nat.zero_le _) isLate
  have least (k : Nat) (before : k < stop) : ¬ journal.Late k := first_one k (Nat.zero_le k) before
  have belowStop : stop < journal.written := by omega
  obtain ⟨write, atStop⟩ := write_stored g journal writes payloads stop belowStop
  have notPunctual : ¬ ∀ write ∈ writes, ¬ LateWrite writes write := fun all =>
    all write (List.mem_of_getElem? atStop) ((late_write_iff g journal writes payloads stop write atStop).mpr late)
  by_cases atStart : stop = 0
  · rw [atStart] at late
    have lateFirst := (late_write_iff g journal writes payloads 0 first atFirst).mpr late
    have nothing (caller : RingPacket) (data : Option (List UInt8)) : ∃ reading,
        RingBuffer.readNext fuel ring reader caller data = Option.some reading ∧ reading.code = Constants.ringIdNone := by
      rw [begins, late_first g ring journal keeps filling positive late caller data fuel 0 reader (by decide) (by omega)]
      exact ⟨_, rfl, rfl⟩
    rw [hands_out_nothing fuel ring reader _ (fun write member => write_named g ring journal writes stored write
      (List.mem_of_mem_filter member)) (journal.packet 0) nothing]
    constructor
    · exact fun empty => Or.inr ⟨empty, first, isFirst, lateFirst⟩
    · rintro (allPunctual | ⟨empty, _⟩)
      · exact absurd allPunctual notPunctual
      · exact empty
  · have hindered := hands_out_hindered g ring journal writes stored filling fuel (by omega) stop belowStop late least (by omega) _ 0 reader
      (Nat.zero_le _) begins (Or.inl ⟨rfl, positive⟩) all
    refine ⟨fun hands => absurd hands hindered, ?_⟩
    rintro (allPunctual | ⟨_, other, isOther, lateOther⟩)
    · exact absurd allPunctual notPunctual
    · rw [isFirst, Option.some.injEq] at isOther
      rw [← isOther] at lateOther
      exact absurd ((late_write_iff g journal writes payloads 0 first atFirst).mp lateOther) (least 0 (by omega))

theorem hands_out_earliest (nonempty : journal.written ≠ 0) (fuel : Nat) (enough : g.count + 100 < fuel) (reader : RingReader)
    (unset : reader.pktOffset < 0) (earliest : reader.pktId = Constants.ringIdEarliest) :
    HandsOut fuel ring ((writes.drop (journal.low g)).filter (wanted reader)) reader ↔
      EarliestOpen ring (writes.drop (journal.low g)) reader := by
  have positive := g.positive
  have written := stored.payloads.1
  have length : (writes.drop (journal.low g)).length = journal.written - journal.low g := by rw [List.length_drop, written]
  have lowIs : journal.low g = journal.written - g.count := rfl
  by_cases filling : journal.written < g.count
  · have short : (writes.drop (journal.low g)).length < ring.maxPackets.toNat := by
      rw [length, stored.maxPackets]
      omega
    have low : journal.low g = 0 := (oldest_filling g.count journal.written filling).1
    rw [EarliestOpen, if_pos short, low, List.drop_zero]
    exact hands_out_filling g ring journal writes stored nonempty filling fuel enough reader unset earliest
  · have long : ¬ (writes.drop (journal.low g)).length < ring.maxPackets.toNat := by
      rw [length, stored.maxPackets]
      omega
    rw [EarliestOpen, if_neg long]
    obtain ⟨rounds, rfl⟩ : ∃ rounds, fuel = rounds + 1 := ⟨fuel - 1, by omega⟩
    apply hands_out_nothing _ ring reader _ _ (journal.packet 0)
    · intro caller data
      rw [read_next_full g ring journal stored.keeps (by omega) caller data rounds reader unset earliest]
      exact ⟨_, rfl, rfl⟩
    · exact fun write member => write_named g ring journal writes stored write (List.mem_of_mem_drop (List.mem_of_mem_filter member))

end

-- A reader for LATEST has the latest packet when it is wanted. One for EARLIEST has
-- every packet that is wanted as long as the ring is open to it.
theorem sentinel_reads_iff (g : Geometry) (ring : RingParams) (fresh : Fresh g ring) (requests : List Request) (nonempty : requests ≠ [])
    (fits : ∀ request ∈ requests, Fits ring request ∧ Sized request) (fuel : Nat) (enough : g.count + 100 < fuel) :
    ∃ next packets, writeAll ring requests = some (next, packets) ∧ ∀ reader : RingReader, reader.pktOffset < 0 →
      (SentinelReads fuel next (residentWrites next requests packets) reader ↔
        (reader.pktId = Constants.ringIdEarliest → EarliestOpen next (residentWrites next requests packets) reader)) := by
  have positive := g.positive
  obtain ⟨next, packets, journal, ran, length, stored, written, resident⟩ := fresh_run g ring fresh requests fits
  have some : journal.written ≠ 0 := by
    rw [written]
    exact fun none => nonempty (List.length_eq_zero_iff.mp none)
  have last : (residentWrites next requests packets).getLast? = (requests.zip packets).getLast? := by
    have lowIs : journal.low g = journal.written - g.count := rfl
    rw [resident, List.getLast?_drop, stored.payloads.1, if_neg (by omega)]
  refine ⟨next, packets, ran, fun reader unset => ⟨fun reads earliest => ?_, fun isOpen => ⟨fun earliest => ?_, ?_⟩⟩⟩
  · have handed := reads.earliest earliest
    rw [resident] at handed ⊢
    exact (hands_out_earliest g next journal _ stored some fuel enough reader unset earliest).mp handed
  · have isOpen := isOpen earliest
    rw [resident] at isOpen ⊢
    exact (hands_out_earliest g next journal _ stored some fuel enough reader unset earliest).mpr isOpen
  · intro latest write isLast isWanted caller data room
    obtain ⟨rounds, rfl⟩ : ∃ rounds, fuel = rounds + 1 := ⟨fuel - 1, by omega⟩
    rw [last] at isLast
    exact latest_handed g next journal _ stored some rounds reader unset latest write isLast isWanted caller data room

def fromEarliest : RingReader := ⟨-1, Constants.ringIdEarliest, NsTime.unset, NsTime.unset, NsTime.unset, none, none, none⟩

theorem sentinel_reads_three_bytes :
    SentinelReads 200 (writtenRing fourSlotRing threeBytes)
      (residentWrites (writtenRing fourSlotRing threeBytes) threeBytes (writtenPackets fourSlotRing threeBytes)) fromEarliest ∧
    ¬ SentinelReads 200 (writtenRing twoSlotRing threeBytes)
      (residentWrites (writtenRing twoSlotRing threeBytes) threeBytes (writtenPackets twoSlotRing threeBytes)) fromEarliest := by
  obtain ⟨⟨two, twoHeld⟩, four, fourHeld⟩ := three_bytes_resident
  obtain ⟨next, packets, ran, reads⟩ := sentinel_reads_iff fourSlots fourSlotRing four_slots_fresh threeBytes (List.cons_ne_nil _ _)
    (three_bytes_fit fourSlotRing rfl) 200 (by decide)
  obtain ⟨isFour, isPackets⟩ := written_of_run fourSlotRing next threeBytes packets ran
  obtain ⟨next', packets', ran', reads'⟩ := sentinel_reads_iff twoSlots twoSlotRing two_slots_fresh threeBytes (List.cons_ne_nil _ _)
    (three_bytes_fit twoSlotRing rfl) 200 (by decide)
  obtain ⟨isTwo, isPackets'⟩ := written_of_run twoSlotRing next' threeBytes packets' ran'
  rw [isFour, isPackets] at fourHeld
  rw [isFour] at four
  rw [isTwo, isPackets'] at twoHeld
  rw [isTwo] at two
  rw [isFour, isPackets, isTwo, isPackets']
  refine ⟨(reads fromEarliest (by decide)).mpr fun _ => ?_, fun sentinel => ?_⟩
  · rw [fourHeld, EarliestOpen, four, if_pos (by decide)]
    refine .inl fun write member ⟨last, isLast, late⟩ => ?_
    obtain rfl := Option.some.inj isLast
    simp only [List.mem_cons, List.not_mem_nil, or_false] at member
    rcases member with rfl | rfl | rfl
    · exact absurd late (by decide)
    · exact absurd late (by decide)
    · exact absurd late (by decide)
  · have isOpen := (reads' fromEarliest (by decide)).mp sentinel rfl
    have isWanted : wanted fromEarliest secondByte = true := by decide +kernel
    rw [twoHeld, EarliestOpen, two, if_neg (by decide), List.filter_cons_of_pos isWanted] at isOpen
    cases isOpen

-- Two packets fill the ring of two slots.
theorem full_ring_hands_nothing : ∃ next packets,
    writeAll twoSlotRing [byteRequest ⟨5⟩ ['A'] 7, byteRequest ⟨6⟩ ['B'] 8] = some (next, packets) ∧ packets.map (·.pktId) = [1, 2] ∧
    ¬ SentinelReads 200 next (residentWrites next [byteRequest ⟨5⟩ ['A'] 7, byteRequest ⟨6⟩ ['B'] 8] packets) fromEarliest := by
  have computed : (writeAll twoSlotRing [byteRequest ⟨5⟩ ['A'] 7, byteRequest ⟨6⟩ ['B'] 8]).map (fun result =>
      (result.1.maxPackets.toNat, result.2.map (·.pktId),
        (RingBuffer.readNext 200 result.1 fromEarliest (byteRequest ⟨6⟩ ['B'] 8).packet none).map (·.code))) =
      some (2, [1, 2], some Constants.ringIdNone) := by
    decide +kernel
  cases ran : writeAll twoSlotRing [byteRequest ⟨5⟩ ['A'] 7, byteRequest ⟨6⟩ ['B'] 8] with
  | none => simp [ran] at computed
  | some result =>
      obtain ⟨next, packets⟩ := result
      rw [ran, Option.map_some, Option.some.injEq, Prod.mk.injEq, Prod.mk.injEq] at computed
      obtain ⟨maxPackets, ids, code⟩ := computed
      obtain ⟨first, second, rfl⟩ : ∃ first second, packets = [first, second] := by
        rw [← List.length_eq_two, ← List.length_map (·.pktId), ids]
        rfl
      have isFirst : first.pktId = 1 := (List.cons.inj ids).1
      refine ⟨next, [first, second], rfl, ids, fun reads => ?_⟩
      have handed := reads.earliest rfl
      have resident : residentWrites next [byteRequest ⟨5⟩ ['A'] 7, byteRequest ⟨6⟩ ['B'] 8] [first, second] =
          [(byteRequest ⟨5⟩ ['A'] 7, first), (byteRequest ⟨6⟩ ['B'] 8, second)] := by
        rw [residentWrites, residents, maxPackets]
        rfl
      have all : [(byteRequest ⟨5⟩ ['A'] 7, first), (byteRequest ⟨6⟩ ['B'] 8, second)].filter (wanted fromEarliest) =
          [(byteRequest ⟨5⟩ ['A'] 7, first), (byteRequest ⟨6⟩ ['B'] 8, second)] := rfl
      rw [resident, all] at handed
      obtain ⟨reading, isRead, isHanded, _⟩ := handed (byteRequest ⟨6⟩ ['B'] 8).packet none (no_buffer next)
      rw [isRead, Option.map_some, Option.some.injEq, isHanded.code] at code
      exact absurd (isFirst.symm.trans code) (by decide)

end RingServer
