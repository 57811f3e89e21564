import RingServer.Ring.KeepAfter
import RingServer.Ring.KeepSentinel

set_option autoImplicit false

namespace RingServer

open Library

def startsBy (refTime : NsTime) (write : Request × RingPacket) : Bool := refTime.value ≤ write.2.dataStart.value

def qualifies (reader : RingReader) (refTime : NsTime) (write : Request × RingPacket) : Bool :=
  wanted reader write && startsBy refTime write

-- After with whence 1 places the reader on the first packet that qualifies, and with
-- whence 0 so that ReadNext has this packet.
structure AfterPlaces (fuel : Nat) (ring : RingParams) (resident : List (Request × RingPacket)) (reader : RingReader)
    (refTime : NsTime) : Prop where
  onto : ∀ write, resident.find? (qualifies reader refTime) = some write →
    RingBuffer.after fuel ring reader refTime 1 = some (write.2.pktId, RingBuffer.moveTo reader write.2.offset write.2)
  before : ∀ write, resident.find? (qualifies reader refTime) = some write →
    ∃ code moved, RingBuffer.after fuel ring reader refTime 0 = some (code, moved) ∧ code ≠ Constants.ringIdNone ∧
      ∀ caller data, RoomFor ring data →
        ∃ reading, RingBuffer.readNext fuel ring moved caller data = some reading ∧ Hands write data reading
  none : resident.find? (qualifies reader refTime) = none → ∀ whence : Int, whence = 0 ∨ whence = 1 →
    RingBuffer.after fuel ring reader refTime whence = some (Constants.ringIdNone, reader)

-- The first packet in time is the first one that is wanted, and ReadNext comes back to it
-- from a late packet that lies before the next one.
def ComesBack (resident : List (Request × RingPacket)) (reader : RingReader) (refTime : NsTime) : Prop :=
  let place := resident.findIdx (wanted reader)
  let rest := resident.drop (place + 1)
  place < resident.length ∧ resident.findIdx (startsBy refTime) = place ∧
    (∀ write ∈ resident.take (place + 1), ¬ LateWrite resident write) ∧
    ∃ write ∈ rest.take (rest.findIdx (wanted reader) + 1), LateWrite resident write

-- In a full ring no packet may qualify, and none of the last lap may be in time.
def AfterFits (ring : RingParams) (written : Nat) (resident : List (Request × RingPacket)) (reader : RingReader) (refTime : NsTime) :
    Prop :=
  if resident.length < ring.maxPackets.toNat then
    (∀ write ∈ resident, ¬ startsBy refTime write = true) ∨ ComesBack resident reader refTime
  else (∀ write ∈ resident, ¬ qualifies reader refTime write = true) ∧
    ∀ write ∈ resident.drop (resident.length - written % ring.maxPackets.toNat), ¬ startsBy refTime write = true

theorem passes_same (old new : RingReader) (same : SameFilters old new) : RingBuffer.passes new = RingBuffer.passes old := by
  funext streamId
  rw [RingBuffer.passes, RingBuffer.passes, same.limit, same.matching, same.reject]

theorem clear_same (journal : Journal) (old new : RingReader) (same : SameFilters old new) (i : Nat) :
    Clear journal new i ↔ Clear journal old i := by
  rw [Clear, Clear, passes_same old new same]

section

variable (g : Geometry) (ring : RingParams) (journal : Journal) (writes : List (Request × RingPacket))
  (stored : Stored g ring writes journal)

include stored

theorem late_returns (filling : journal.written < g.count) (stop : Nat) (belowStop : stop < journal.written) (late : journal.Late stop)
    (caller : RingPacket) (data : Option (List UInt8)) (room : RoomFor ring data) (fuel i : Nat) (reader : RingReader)
    (ordered : i ≤ stop) (enough : journal.written < fuel + i) (punctual : ∀ k, i ≤ k → k < stop → ¬ journal.Late k)
    (fails : ∀ k, i ≤ k → k < stop → ¬ RingBuffer.passes reader (journal.storedStream k) = true) :
    ∃ rounds moved, fuel + i ≤ rounds + stop + 1 ∧ SameFilters reader moved ∧
      RingBuffer.readNextFrom ring (journal.packet (journal.written - 1)).pktTime (g.offsetAt journal.written) caller data fuel 0 reader
          (g.offsetAt i) =
        RingBuffer.readNextFrom ring (journal.packet (journal.written - 1)).pktTime (g.offsetAt journal.written) caller data rounds 1
          moved (g.offsetAt 0) := by
  induction fuel generalizing i reader with
  | zero => exact absurd enough (by omega)
  | succ fuel ih =>
      by_cases here : i = stop
      · refine ⟨fuel, reader, by omega, same_filters_refl reader, ?_⟩
        rw [here, late_pass g ring journal stored.keeps filling stop belowStop late, if_neg (by decide)]
      · have fresh : oldest g.count (journal.written + 1) ≤ i := by
          rw [(oldest_filling g.count journal.written filling).2]
          exact Nat.zero_le i
        obtain ⟨request, header, _, _, _, pass⟩ := follow_pass g ring journal stored.keeps writes stored.payloads i fresh (by omega)
          (punctual i (Nat.le_refl i) (by omega)) caller data room fuel 0 reader
        rw [pass, if_neg (fails i (Nat.le_refl i) (by omega))]
        obtain ⟨rounds, moved, left, filters, again⟩ := ih (i + 1) (RingBuffer.moveTo reader (g.offsetAt i) header) (by omega) (by omega)
          (fun k above below => punctual k (by omega) below) (fun k above below => fails k (by omega) below)
        exact ⟨rounds, moved, by omega, same_filters_trans _ _ _ (move_to_filters reader _ header) filters, again⟩

omit stored in
theorem first_late (reader : RingReader) (i : Nat) (blocked : ¬ Clear journal reader i) : ∃ stop, i ≤ stop ∧ stop < journal.written ∧
    journal.Late stop ∧ (∀ k, i ≤ k → k < stop → ¬ journal.Late k) ∧
    ∀ k, i ≤ k → k < stop → ¬ RingBuffer.passes reader (journal.storedStream k) = true := by
  simp only [Clear, not_forall, not_not] at blocked
  obtain ⟨j, above, below, skips, late⟩ := blocked
  obtain ⟨stop, from_i, ordered, isLate, least⟩ := least_late journal i j above late
  exact ⟨stop, from_i, by omega, isLate, least, fun k aboveK before => skips k aboveK (by omega)⟩

theorem handed_again_iff (filling : journal.written < g.count) (fuel : Nat) (enough : 2 * g.count < fuel) (reader : RingReader) (q : Nat)
    (stands : reader.pktOffset = g.offsetAt q) (write : Request × RingPacket) (isWrite : writes[q]? = some write) :
    (∀ caller data, RoomFor ring data →
      ∃ reading, RingBuffer.readNext fuel ring reader caller data = some reading ∧ Hands write data reading) ↔
    firstIn (fun k => RingBuffer.passes reader (journal.storedStream k) = true) 0 journal.written = some q ∧ Clear journal reader 0 ∧
      ¬ Clear journal reader (q + 1) := by
  have keeps := stored.keeps
  have payloads := stored.payloads
  obtain ⟨below, isPacket⟩ := write_packet g journal writes payloads q write isWrite
  have named := write_named g ring journal writes stored write (List.mem_of_getElem? isWrite)
  have begins : BeginsAt g ring journal fuel reader (q + 1) := fun caller data =>
    read_next_standing g ring journal keeps caller data fuel reader q below stands
  constructor
  · intro hands
    obtain ⟨reading, ran, handed⟩ := hands (journal.packet 0) none (no_buffer ring)
    have isHeader : HeaderOf (journal.packet q) reading.packet := isPacket.symm ▸ handed.header
    have blocked : ¬ Clear journal reader (q + 1) := by
      intro clear
      obtain ⟨other, ran', follows⟩ := begins_follows g ring journal writes stored filling fuel (q + 1) (by omega) reader below begins
        (Or.inr ⟨Nat.succ_pos q, stands⟩) clear (journal.packet 0) none (no_buffer ring)
      obtain rfl := Option.some.inj (ran'.symm.trans ran)
      cases follows with
      | hit k request packet header moved found isOther isSecond streamId stands =>
          have above := ((first_in_some _ _ _ _).mp found).1
          have member : (request, packet) ∈ writes.drop (q + 1) := by
            rw [List.mem_iff_getElem?]
            exact ⟨k - (q + 1), by rw [List.getElem?_drop, Nat.add_sub_cancel' above, isOther]⟩
          exact header_apart g ring journal writes stored filling (q + 1) q (Nat.lt_succ_self q) below _ member header isHeader isSecond
      | rest moved missing stands => exact named handed.code.symm
    obtain ⟨stop, above, belowStop, late, punctual, fails⟩ := first_late journal reader (q + 1) blocked
    obtain ⟨rounds, moved, left, filters, again⟩ := late_returns g ring journal writes stored filling stop belowStop late
      (journal.packet 0) none (no_buffer ring) fuel (q + 1) reader above (by omega) punctual fails
    rw [begins, again] at ran
    have clear : Clear journal reader 0 := by
      by_contra notClear
      obtain ⟨start, _, belowStart, lateStart, _, skips⟩ := first_late journal reader 0 notClear
      rw [← passes_same reader moved filters] at skips
      rcases late_scan g ring journal keeps writes payloads filling 0 start belowStart lateStart _ none (no_buffer ring) rounds 1 0 moved
        (Nat.zero_le _) skips reading ran with ⟨k, before, _⟩ | ⟨isNone, _⟩
      · exact Nat.not_lt_zero k before
      · exact named (handed.code.symm.trans isNone)
    refine ⟨?_, clear, blocked⟩
    obtain ⟨other, ran', follows⟩ := zero_follows g ring journal writes stored filling (by omega) rounds 1 (by omega) moved
      ((clear_same journal reader moved filters 0).mpr clear) (journal.packet 0) none (no_buffer ring)
    obtain rfl := Option.some.inj (ran'.symm.trans ran)
    cases follows with
    | hit k request packet header last found isOther isSecond streamId stands =>
        obtain ⟨belowK, isOtherPacket⟩ := write_packet g journal writes payloads k _ isOther
        rw [← show journal.packet k = packet from isOtherPacket] at isSecond
        rw [header_same g ring journal writes stored filling q k below belowK header isHeader isSecond, ← passes_same reader moved filters]
        exact found
    | rest last missing stands => exact absurd handed.code.symm named
  · rintro ⟨found, clear, blocked⟩ caller data room
    obtain ⟨stop, above, belowStop, late, punctual, fails⟩ := first_late journal reader (q + 1) blocked
    obtain ⟨rounds, moved, left, filters, again⟩ := late_returns g ring journal writes stored filling stop belowStop late caller data room
      fuel (q + 1) reader above (by omega) punctual fails
    obtain ⟨reading, ran, follows⟩ := zero_follows g ring journal writes stored filling (by omega) rounds 1 (by omega) moved
      ((clear_same journal reader moved filters 0).mpr clear) caller data room
    refine ⟨reading, (begins caller data).trans (again.trans ran), ?_⟩
    rw [← passes_same reader moved filters] at found
    cases follows with
    | hit k request packet header last found' isOther isHeader streamId stands =>
        obtain rfl := Option.some.inj (found'.symm.trans found)
        rw [isOther, Option.some.injEq] at isWrite
        rw [← isWrite]
        exact ⟨rfl, isHeader, streamId, rfl⟩
    | rest last missing stands => exact absurd (missing.symm.trans found) (Option.some_ne_none q).symm

theorem starts_iff (refTime : NsTime) (k : Nat) (write : Request × RingPacket) (isWrite : writes[k]? = some write) :
    refTime.value ≤ (journal.packet k).dataStart.value ↔ startsBy refTime write = true := by
  rw [(write_packet g journal writes stored.payloads k write isWrite).2, startsBy, decide_eq_true_eq]

theorem qualifies_iff (reader : RingReader) (refTime : NsTime) (k : Nat) (write : Request × RingPacket)
    (isWrite : writes[k]? = some write) :
    RingBuffer.passes reader (journal.storedStream k) = true ∧ refTime.value ≤ (journal.packet k).dataStart.value ↔
      qualifies reader refTime write = true := by
  rw [qualifies, Bool.and_eq_true, wanted_iff g journal writes stored.payloads reader k write isWrite,
    starts_iff g ring journal writes stored refTime k write isWrite]

theorem placed_on (k : Nat) (write : Request × RingPacket) (isWrite : writes[k]? = some write) (header : RingPacket)
    (isHeader : HeaderOf (journal.packet k) header) (reader : RingReader) :
    (header.pktId, RingBuffer.moveTo reader (g.offsetAt k) header) =
      (write.2.pktId, RingBuffer.moveTo reader write.2.offset write.2) := by
  obtain ⟨below, isPacket⟩ := write_packet g journal writes stored.payloads k write isWrite
  rw [← isPacket, stored.offsets k below, isHeader.fields]
  rfl

theorem placed_apart (i k : Nat) (residentI : journal.Resident g i) (residentK : journal.Resident g k) (first second : Request × RingPacket)
    (atFirst : writes[i]? = some first) (atSecond : writes[k]? = some second) (reader : RingReader)
    (same : RingBuffer.moveTo reader first.2.offset first.2 = RingBuffer.moveTo reader second.2.offset second.2) : i = k := by
  have offsets : first.2.offset = second.2.offset := congrArg RingReader.pktOffset same
  rw [← (write_packet g journal writes stored.payloads i first atFirst).2,
    ← (write_packet g journal writes stored.payloads k second atSecond).2,
    stored.offsets i residentI.2, stored.offsets k residentK.2] at offsets
  exact resident_offset g ring journal stored.keeps i k residentI residentK offsets

theorem first_after (reader : RingReader) (refTime : NsTime) (j : Nat) (result : UInt64 × RingReader)
    (after : FirstAfter g journal reader refTime j result) :
    ((writes.drop j).find? (startsBy refTime) = none ∧ result = (Constants.ringIdNone, reader)) ∨
      ∃ k write, j ≤ k ∧ writes[k]? = some write ∧ firstIn (fun i => refTime.value ≤ (journal.packet i).dataStart.value) j writes.length =
        some k ∧
        result = (write.2.pktId, RingBuffer.moveTo reader write.2.offset write.2) := by
  have written := stored.payloads.1
  cases after with
  | missing missing =>
      rw [← written] at missing
      refine Or.inl ⟨?_, rfl⟩
      rw [find_drop_first writes j (startsBy refTime) _ (starts_iff g ring journal writes stored refTime), missing]
      rfl
  | found k header first isHeader =>
      obtain ⟨above, below, _⟩ := (first_in_some _ _ _ _).mp first
      obtain ⟨write, isWrite⟩ : ∃ write, writes[k]? = some write := ⟨_, List.getElem?_eq_getElem (by omega)⟩
      rw [← written] at first
      exact Or.inr ⟨k, write, above, isWrite, first, placed_on g ring journal writes stored k write isWrite header isHeader reader⟩

theorem comes_back_iff (reader : RingReader) (refTime : NsTime) (q : Nat)
    (first : firstIn (fun i => refTime.value ≤ (journal.packet i).dataStart.value) 0 writes.length = some q) :
    ComesBack writes reader refTime ↔
      firstIn (fun k => RingBuffer.passes reader (journal.storedStream k) = true) 0 journal.written = some q ∧ Clear journal reader 0 ∧
        ¬ Clear journal reader (q + 1) := by
  have payloads := stored.payloads
  have inTime := find_idx_first writes 0 (startsBy refTime) _ q (starts_iff g ring journal writes stored refTime) first
  have below := ((first_in_some _ _ _ _).mp first).2.1
  have same := fun k write isWrite => wanted_iff g journal writes payloads reader k write isWrite
  rw [List.drop_zero, Nat.zero_add] at inTime
  simp only [ComesBack, inTime]
  rw [clear_iff g journal writes payloads reader 0, clear_iff g journal writes payloads reader (q + 1), List.drop_zero, ← payloads.1]
  constructor
  · rintro ⟨inside, isPlace, clear, late⟩
    rw [← isPlace] at late
    refine ⟨?_, clear, fun all => ?_⟩
    · cases found : firstIn (fun k => RingBuffer.passes reader (journal.storedStream k) = true) 0 writes.length with
      | none =>
          have ends := find_idx_none writes 0 (wanted reader) _ same (Nat.zero_le _) found
          rw [List.drop_zero, Nat.zero_add] at ends
          exact absurd inside (by omega)
      | some k =>
          have here := find_idx_first writes 0 (wanted reader) _ k same found
          rw [List.drop_zero, Nat.zero_add] at here
          rw [← here, isPlace]
    · obtain ⟨write, member, isLate⟩ := late
      exact all write member isLate
  · rintro ⟨found, clear, blocked⟩
    have here := find_idx_first writes 0 (wanted reader) _ q same found
    rw [List.drop_zero, Nat.zero_add] at here
    rw [here] at clear ⊢
    refine ⟨below, rfl, clear, ?_⟩
    by_contra noLate
    exact blocked fun write member late => noLate ⟨write, member, late⟩

theorem after_places_filling (nonempty : journal.written ≠ 0) (filling : journal.written < g.count) (fuel : Nat)
    (enough : 2 * g.count < fuel) (reader : RingReader) (refTime : NsTime) : AfterPlaces fuel ring writes reader refTime ↔
      (∀ write ∈ writes, ¬ startsBy refTime write = true) ∨ ComesBack writes reader refTime := by
  have keeps := stored.keeps
  have written := stored.payloads.1
  have lap : journal.written - journal.written % g.count = 0 := by rw [Nat.mod_eq_of_lt filling, Nat.sub_self]
  obtain ⟨result, ranBefore, before⟩ := after_first g ring journal keeps fuel (by omega) reader refTime
  obtain ⟨result', ranOnto, onto⟩ := after_last_lap g ring journal keeps nonempty fuel (by omega) reader refTime
  rw [if_pos filling] at before
  rw [lap] at onto
  have find := find_drop_first writes 0 (qualifies reader refTime) _ (qualifies_iff g ring journal writes stored reader refTime)
  rw [List.drop_zero] at find
  rcases first_after g ring journal writes stored reader refTime 0 result before with ⟨missing, rfl⟩ | ⟨q, write, _, isWrite, first, rfl⟩
  · rcases first_after g ring journal writes stored reader refTime 0 result' onto with ⟨_, rfl⟩ | ⟨k, _, _, _, first, _⟩
    · rw [List.drop_zero, List.find?_eq_none] at missing
      have none : writes.find? (qualifies reader refTime) = none := by
        rw [List.find?_eq_none]
        intro write member hit
        rw [qualifies, Bool.and_eq_true] at hit
        exact missing write member hit.2
      refine ⟨fun _ => Or.inl missing, fun _ => ⟨fun write isFirst => ?_, fun write isFirst => ?_, fun _ whence either => ?_⟩⟩
      · exact absurd (none.symm.trans isFirst) (Option.some_ne_none write).symm
      · exact absurd (none.symm.trans isFirst) (Option.some_ne_none write).symm
      · rcases either with rfl | rfl
        · exact ranBefore
        · exact ranOnto
    · rw [find_drop_first writes 0 (startsBy refTime) _ (starts_iff g ring journal writes stored refTime), first] at missing
      have below := ((first_in_some _ _ _ _).mp first).2.1
      exact absurd missing (by rw [Option.bind_some, List.getElem?_eq_getElem below]; exact Option.some_ne_none _)
  · have same : result' = (write.2.pktId, RingBuffer.moveTo reader write.2.offset write.2) := by
      rcases first_after g ring journal writes stored reader refTime 0 result' onto with ⟨missing, _⟩ | ⟨k, other, _, isOther, first', rfl⟩
      · rw [find_drop_first writes 0 (startsBy refTime) _ (starts_iff g ring journal writes stored refTime), first, Option.bind_some,
          isWrite] at missing
        cases missing
      · obtain rfl := Option.some.inj (first'.symm.trans first)
        rw [Option.some.inj (isOther.symm.trans isWrite)]
    subst same
    obtain ⟨below, isPacket⟩ := write_packet g journal writes stored.payloads q write isWrite
    have named := write_named g ring journal writes stored write (List.mem_of_getElem? isWrite)
    have stands : (RingBuffer.moveTo reader write.2.offset write.2).pktOffset = g.offsetAt q := by
      rw [← stored.offsets q below, isPacket]
      rfl
    have again := handed_again_iff g ring journal writes stored filling fuel enough (RingBuffer.moveTo reader write.2.offset write.2) q
      stands
      write isWrite
    have inTime : startsBy refTime write = true := (starts_iff g ring journal writes stored refTime q write isWrite).mp
      ((first_in_some _ _ _ _).mp first).2.2.1
    rw [comes_back_iff g ring journal writes stored reader refTime q first]
    constructor
    · intro places
      right
      cases found : writes.find? (qualifies reader refTime) with
      | none =>
          have left := (places.none found 1 (Or.inr rfl)).symm.trans ranOnto
          exact absurd (Prod.mk.inj (Option.some.inj left)).1.symm named
      | some other =>
          obtain ⟨k, isOther⟩ := List.mem_iff_getElem?.mp (List.mem_of_find?_eq_some found)
          have moves := (Prod.mk.inj (Option.some.inj ((places.onto other found).symm.trans ranOnto))).2
          have belowK := (write_packet g journal writes stored.payloads k other isOther).1
          have atPlace := placed_apart g ring journal writes stored k q (filling_apart g ring journal keeps filling k belowK).1
            (filling_apart g ring journal keeps filling q below).1 other write isOther isWrite reader moves
          obtain ⟨code, moved, ran, _, hands⟩ := places.before other found
          obtain ⟨_, rfl⟩ := Prod.mk.inj (Option.some.inj (ran.symm.trans ranBefore))
          rw [atPlace, isWrite, Option.some.injEq] at isOther
          rw [← isOther] at hands
          exact again.mp hands
    · rintro (late | ⟨found, clear, blocked⟩)
      · exact absurd inTime (late write (List.mem_of_getElem? isWrite))
      · have isFirst : writes.find? (qualifies reader refTime) = some write := by
          have least := ((first_in_some _ _ _ _).mp first).2.2
          have both : firstIn (fun k => RingBuffer.passes reader (journal.storedStream k) = true ∧
              refTime.value ≤ (journal.packet k).dataStart.value) 0 writes.length = some q := by
            rw [first_in_some]
            exact ⟨Nat.zero_le q, by omega, ⟨((first_in_some _ _ _ _).mp found).2.2.1, least.1⟩,
              fun k above less hit => least.2 k above less hit.2⟩
          rw [find, both, Option.bind_some, isWrite]
        refine ⟨fun other isOther => ?_, fun other isOther => ?_, fun missing => ?_⟩
        · rw [← Option.some.inj (isFirst.symm.trans isOther)]
          exact ranOnto
        · rw [← Option.some.inj (isFirst.symm.trans isOther)]
          exact ⟨_, _, ranBefore, named, again.mpr ⟨found, clear, blocked⟩⟩
        · exact absurd (missing.symm.trans isFirst) (Option.some_ne_none write).symm

theorem after_places_full (full : g.count ≤ journal.written) (fuel : Nat) (enough : g.count < fuel) (reader : RingReader)
    (refTime : NsTime) : AfterPlaces fuel ring (writes.drop (journal.low g)) reader refTime ↔
      (∀ write ∈ writes.drop (journal.low g), ¬ qualifies reader refTime write = true) ∧
        ∀ write ∈ writes.drop (journal.written - journal.written % g.count), ¬ startsBy refTime write = true := by
  have keeps := stored.keeps
  have positive := g.positive
  obtain ⟨result, ranBefore, before⟩ := after_first g ring journal keeps fuel enough reader refTime
  obtain ⟨result', ranOnto, onto⟩ := after_last_lap g ring journal keeps (by omega) fuel enough reader refTime
  rw [if_neg (by omega)] at before
  rw [before] at ranBefore
  rcases first_after g ring journal writes stored reader refTime _ result' onto with ⟨missing, rfl⟩ | ⟨k, write, above, isWrite, first, rfl⟩
  · rw [List.find?_eq_none] at missing
    constructor
    · intro places
      refine ⟨?_, missing⟩
      rw [← List.find?_eq_none]
      by_contra found
      obtain ⟨write, isFirst⟩ := Option.ne_none_iff_exists'.mp found
      obtain ⟨code, moved, ran, some, _⟩ := places.before write isFirst
      exact some (Prod.mk.inj (Option.some.inj (ran.symm.trans ranBefore))).1
    · rintro ⟨none, _⟩
      rw [← List.find?_eq_none] at none
      refine ⟨fun write isFirst => ?_, fun write isFirst => ?_, fun _ whence either => ?_⟩
      · exact absurd (none.symm.trans isFirst) (Option.some_ne_none write).symm
      · exact absurd (none.symm.trans isFirst) (Option.some_ne_none write).symm
      · rcases either with rfl | rfl
        · exact ranBefore
        · exact ranOnto
  · have named := write_named g ring journal writes stored write (List.mem_of_getElem? isWrite)
    constructor
    · intro places
      cases found : (writes.drop (journal.low g)).find? (qualifies reader refTime) with
      | none =>
          have left := (places.none found 1 (Or.inr rfl)).symm.trans ranOnto
          exact absurd (Prod.mk.inj (Option.some.inj left)).1.symm named
      | some other =>
          obtain ⟨code, moved, ran, some, _⟩ := places.before other found
          exact absurd (Prod.mk.inj (Option.some.inj (ran.symm.trans ranBefore))).1 some
    · rintro ⟨_, late⟩
      have inTime : startsBy refTime write = true := (starts_iff g ring journal writes stored refTime k write isWrite).mp
        ((first_in_some _ _ _ _).mp first).2.2.1
      refine absurd inTime (late write ?_)
      rw [List.mem_iff_getElem?]
      exact ⟨k - (journal.written - journal.written % g.count), by rw [List.getElem?_drop, Nat.add_sub_cancel' above, isWrite]⟩

end

theorem after_places_iff (g : Geometry) (ring : RingParams) (fresh : Fresh g ring) (requests : List Request) (nonempty : requests ≠ [])
    (fits : ∀ request ∈ requests, Fits ring request ∧ Sized request) (fuel : Nat) (enough : 2 * g.count < fuel) :
    ∃ next packets, writeAll ring requests = some (next, packets) ∧ ∀ reader refTime,
      AfterPlaces fuel next (residentWrites next requests packets) reader refTime ↔
        AfterFits next requests.length (residentWrites next requests packets) reader refTime := by
  have positive := g.positive
  obtain ⟨next, packets, journal, ran, length, stored, written, resident⟩ := fresh_run g ring fresh requests fits
  have some : journal.written ≠ 0 := by
    rw [written]
    exact fun none => nonempty (List.length_eq_zero_iff.mp none)
  have lowIs : journal.low g = journal.written - g.count := rfl
  have size : ((requests.zip packets).drop (journal.low g)).length = journal.written - journal.low g := by
    rw [List.length_drop, stored.payloads.1]
  refine ⟨next, packets, ran, fun reader refTime => ?_⟩
  rw [resident, AfterFits, size, stored.maxPackets, ← written]
  by_cases filling : journal.written < g.count
  · have low : journal.low g = 0 := (oldest_filling g.count journal.written filling).1
    rw [if_pos (by omega), low, List.drop_zero]
    exact after_places_filling g next journal _ stored some filling fuel enough reader refTime
  · have lap := Nat.mod_lt journal.written positive
    have lastLap : journal.low g + (journal.written - journal.low g - journal.written % g.count) =
        journal.written - journal.written % g.count := by omega
    rw [if_neg (by omega), List.drop_drop, lastLap]
    exact after_places_full g next journal _ stored (by omega) fuel (by omega) reader refTime

-- The clock has stepped back behind the second of three packets, and no packet of two is in time.
def clockBack : List Request := [byteRequest ⟨5⟩ ['A'] 7, byteRequest ⟨9⟩ ['B'] 8, byteRequest ⟨6⟩ ['A'] 9]

theorem clock_back_fits (ring : RingParams) (pktSize : ring.pktSize = 128) : ∀ request ∈ clockBack, Fits ring request ∧ Sized request := by
  intro request member
  simp only [clockBack, List.mem_cons, List.not_mem_nil, or_false] at member
  rcases member with rfl | rfl | rfl
  · exact byte_request_fits ring pktSize ⟨5⟩ ['A'] 7
  · exact byte_request_fits ring pktSize ⟨9⟩ ['B'] 8
  · exact byte_request_fits ring pktSize ⟨6⟩ ['A'] 9

theorem clock_back_resident : (writtenRing fourSlotRing clockBack).maxPackets.toNat = 4 ∧
    residentWrites (writtenRing fourSlotRing clockBack) clockBack (writtenPackets fourSlotRing clockBack) =
      [(byteRequest ⟨5⟩ ['A'] 7, bytePacket 0 1 ⟨5⟩ ['A']), (byteRequest ⟨9⟩ ['B'] 8, bytePacket 128 2 ⟨9⟩ ['B']),
        (byteRequest ⟨6⟩ ['A'] 9, bytePacket 256 3 ⟨6⟩ ['A'])] := by
  have four : (writtenRing fourSlotRing clockBack).maxPackets.toNat = 4 := by decide +kernel
  have packets : writtenPackets fourSlotRing clockBack =
      [bytePacket 0 1 ⟨5⟩ ['A'], bytePacket 128 2 ⟨9⟩ ['B'], bytePacket 256 3 ⟨6⟩ ['A']] := by decide +kernel
  refine ⟨four, ?_⟩
  rw [residentWrites, residents, four, packets]
  rfl

theorem after_places_three_bytes :
    AfterPlaces 200 (writtenRing fourSlotRing clockBack)
      (residentWrites (writtenRing fourSlotRing clockBack) clockBack (writtenPackets fourSlotRing clockBack)) fromEarliest ⟨5⟩ ∧
    AfterPlaces 200 (writtenRing twoSlotRing threeBytes)
      (residentWrites (writtenRing twoSlotRing threeBytes) threeBytes (writtenPackets twoSlotRing threeBytes)) fromEarliest ⟨8⟩ ∧
    ¬ AfterPlaces 200 (writtenRing twoSlotRing threeBytes)
      (residentWrites (writtenRing twoSlotRing threeBytes) threeBytes (writtenPackets twoSlotRing threeBytes)) fromEarliest ⟨6⟩ := by
  obtain ⟨⟨two, twoHeld⟩, _, _⟩ := three_bytes_resident
  obtain ⟨four, fourHeld⟩ := clock_back_resident
  obtain ⟨next, packets, ran, places⟩ := after_places_iff fourSlots fourSlotRing four_slots_fresh clockBack (List.cons_ne_nil _ _)
    (clock_back_fits fourSlotRing rfl) 200 (by decide)
  obtain ⟨isFour, isPackets⟩ := written_of_run fourSlotRing next clockBack packets ran
  obtain ⟨next', packets', ran', places'⟩ := after_places_iff twoSlots twoSlotRing two_slots_fresh threeBytes (List.cons_ne_nil _ _)
    (three_bytes_fit twoSlotRing rfl) 200 (by decide)
  obtain ⟨isTwo, isPackets'⟩ := written_of_run twoSlotRing next' threeBytes packets' ran'
  rw [isFour, isPackets] at fourHeld
  rw [isFour] at four
  rw [isTwo, isPackets'] at twoHeld
  rw [isTwo] at two
  rw [isFour, isPackets, isTwo, isPackets']
  refine ⟨(places fromEarliest ⟨5⟩).mpr ?_, (places' fromEarliest ⟨8⟩).mpr ?_, fun placed => ?_⟩
  · rw [fourHeld, AfterFits, four, if_pos (by decide)]
    refine .inr ⟨by decide, rfl, fun write member => ?_, ?_⟩
    · obtain rfl := List.mem_singleton.mp member
      rintro ⟨last, isLast, late⟩
      obtain rfl := Option.some.inj isLast
      exact absurd late (by decide)
    · exact ⟨_, List.mem_cons_self, _, rfl, by decide⟩
  · rw [twoHeld, AfterFits, two, if_neg (by decide)]
    refine ⟨fun write member => ?_, fun write member => ?_⟩
    · simp only [List.mem_cons, List.not_mem_nil, or_false] at member
      rcases member with rfl | rfl
      · decide
      · decide
    · obtain rfl := List.mem_singleton.mp member
      decide
  · have fits := (places' fromEarliest ⟨6⟩).mp placed
    rw [twoHeld, AfterFits, two, if_neg (by decide)] at fits
    exact absurd (show qualifies fromEarliest ⟨6⟩ secondByte = true by decide +kernel) (fits.1 secondByte List.mem_cons_self)

-- The search finds the second of two packets, and ReadNext then steps over it.
def twoApart : List Request := [byteRequest ⟨1⟩ ['A'] 7, byteRequest ⟨9⟩ ['A'] 8]

theorem packet_found_is_lost : qualifies fromEarliest ⟨5⟩ (byteRequest ⟨9⟩ ['A'] 8, bytePacket 128 2 ⟨9⟩ ['A']) = true ∧
    ¬ AfterPlaces 200 (writtenRing fourSlotRing twoApart)
      (residentWrites (writtenRing fourSlotRing twoApart) twoApart (writtenPackets fourSlotRing twoApart)) fromEarliest ⟨5⟩ := by
  have four : (writtenRing fourSlotRing twoApart).maxPackets.toNat = 4 := by decide +kernel
  have packets : writtenPackets fourSlotRing twoApart = [bytePacket 0 1 ⟨1⟩ ['A'], bytePacket 128 2 ⟨9⟩ ['A']] := by decide +kernel
  have resident : residentWrites (writtenRing fourSlotRing twoApart) twoApart (writtenPackets fourSlotRing twoApart) =
      [(byteRequest ⟨1⟩ ['A'] 7, bytePacket 0 1 ⟨1⟩ ['A']), (byteRequest ⟨9⟩ ['A'] 8, bytePacket 128 2 ⟨9⟩ ['A'])] := by
    rw [residentWrites, residents, four, packets]
    rfl
  have code : ((RingBuffer.after 200 (writtenRing fourSlotRing twoApart) fromEarliest ⟨5⟩ 0).bind fun found =>
      (RingBuffer.readNext 200 (writtenRing fourSlotRing twoApart) found.2 (byteRequest ⟨5⟩ ['A'] 7).packet none).map (·.code)) =
      some Constants.ringIdNone := by
    decide +kernel
  refine ⟨by decide +kernel, fun places => ?_⟩
  rw [resident] at places
  obtain ⟨_, moved, found, _, hands⟩ := places.before (byteRequest ⟨9⟩ ['A'] 8, bytePacket 128 2 ⟨9⟩ ['A']) rfl
  obtain ⟨reading, isRead, isHanded⟩ := hands (byteRequest ⟨5⟩ ['A'] 7).packet none (no_buffer _)
  rw [found, Option.bind_some, isRead, Option.map_some, Option.some.injEq, isHanded.code] at code
  exact absurd code (by decide)

end RingServer
