import RingServer.Protocols.SeedLinkFrame
import RingServer.Protocols.SeedLinkReady
import RingServer.Ring.KeepResume

set_option autoImplicit false

namespace RingServer.SeedLink

open Library

-- A sequence number of 24 bits with the high bits of the latest packet ID.
def completed (latest next : Nat) : Nat := latest / 2 ^ 24 * 2 ^ 24 + next

theorem high_bits (id : UInt64) : (id &&& 0xFFFFFFFFFF000000).toNat = id.toNat / 2 ^ 24 * 2 ^ 24 := by
  have small := id.toNat_lt
  have mask : (0xFFFFFFFFFF000000 : UInt64).toNat = (2 ^ 40 - 1) * 2 ^ 24 := rfl
  rw [UInt64.toNat_and, mask]
  refine Nat.eq_of_testBit_eq (fun i => ?_)
  rw [Nat.testBit_and, Nat.testBit_mul_two_pow, Nat.testBit_mul_two_pow, Nat.testBit_two_pow_sub_one, Nat.testBit_div_two_pow]
  by_cases low : 24 ≤ i
  · by_cases high : i < 64
    · have inside : i - 24 < 40 := by omega
      simp [low, inside]
    · have none : id.toNat.testBit i = false :=
        Nat.testBit_lt_two_pow (lt_of_lt_of_le small (Nat.pow_le_pow_right (by decide) (by omega)))
      simp [low, none]
  · simp [low]

theorem or_low (high low : Nat) (small : low < 2 ^ 24) : high * 2 ^ 24 ||| low = high * 2 ^ 24 + low := by
  rw [← Nat.shiftLeft_eq, Nat.shiftLeft_add_eq_or_of_lt small]

theorem upper_cases (c upper : Char) (isUpper : c.toUpper = upper) : c = upper ∨ c.val = upper.val + 32 := by
  delta Char.toUpper at isUpper
  by_cases lower : 'a'.val ≤ c.val ∧ c.val ≤ 'z'.val
  · rw [dif_pos lower] at isUpper
    have value := congrArg Char.val isUpper
    dsimp only at value
    have inverse : 'A'.val - 'a'.val + 32 = 0 := rfl
    exact Or.inr (by rw [← value, UInt32.add_assoc, inverse, UInt32.add_zero])
  · rw [dif_neg lower] at isUpper
    exact Or.inl isUpper

theorem hex_is_number (text : Text) (n : UInt32) (parsed : tryParseHex text = some n) :
    toUpperInvariant text ≠ "ALL".toList ∧ text ≠ "-1".toList := by
  refine ⟨fun all => ?_, fun minus => ?_⟩
  · have letters : text.map Char.toUpper = ['A', 'L', 'L'] := all
    obtain ⟨a, rest, rfl, isA, letters⟩ := List.map_eq_cons_iff.mp letters
    obtain ⟨b, rest, rfl, isB, letters⟩ := List.map_eq_cons_iff.mp letters
    obtain ⟨c, rest, rfl, isC, letters⟩ := List.map_eq_cons_iff.mp letters
    obtain rfl := List.map_eq_nil_iff.mp letters
    have none (a b c : Char) (isA : a = 'A' ∨ a = 'a') (isB : b = 'L' ∨ b = 'l') (isC : c = 'L' ∨ c = 'l') :
        tryParseHex [a, b, c] = none := by
      rcases isA with rfl | rfl <;> rcases isB with rfl | rfl <;> rcases isC with rfl | rfl <;> rfl
    have either (c upper lower : Char) (isUpper : c.toUpper = upper) (cases : lower.val = upper.val + 32) : c = upper ∨ c = lower :=
      (upper_cases c upper isUpper).imp_right fun same => Char.ext (same.trans cases.symm)
    rw [none a b c (either a 'A' 'a' isA rfl) (either b 'L' 'l' isB rfl) (either c 'L' 'l' isC rfl)] at parsed
    cases parsed
  · rw [minus] at parsed
    cases parsed

theorem data_pkt_id (protoMajor : Int) (version : protoMajor ≠ 4) (ring : RingParams) (valid : ring.latestId ≤ Constants.ringIdMaximum)
    (seqStr : Text) (next : UInt32) (parsed : tryParseHex seqStr = some next) (small : next.toNat < 2 ^ 24) :
    dataPktId protoMajor ring (some seqStr) =
      if next.toNat = 2 ^ 24 - 1 then Constants.ringIdNext
      else
        let id := UInt64.ofNat (completed ring.latestId.toNat next.toNat)
        if id < Constants.ringIdMaximum ∧ id > 0 then id - 1 else id := by
  obtain ⟨notAll, notMinus⟩ := hex_is_number seqStr next parsed
  rw [dataPktId, if_neg notAll, if_neg notMinus, startPacket, if_neg version, parsed]
  by_cases last : next = 0xFFFFFF
  · rw [last]
    rfl
  have notLast : next.toNat ≠ 2 ^ 24 - 1 := fun same => last (UInt32.toNat_inj.mp same)
  have filtered : (some next).filter (· ≠ (0xFFFFFF : UInt32)) = some next := Option.filter_some_pos (decide_eq_true last)
  have id : (ring.latestId &&& 0xFFFFFFFFFF000000) ||| (next.toUInt64 &&& 0xFFFFFF) =
      UInt64.ofNat (completed ring.latestId.toNat next.toNat) := by
    apply UInt64.toNat_inj.mp
    have latest := ring.latestId.toNat_lt
    have size : UInt64.size = 2 ^ 64 := rfl
    rw [UInt64.toNat_or, high_bits, low_bits, UInt32.toNat_toUInt64, Nat.mod_eq_of_lt small, or_low _ _ small, completed,
      UInt64.toNat_ofNat_of_lt' (by omega)]
  rw [if_neg notLast, filtered, Option.map_some, if_pos valid, id]

theorem data_pkt_id_named (protoMajor : Int) (version : protoMajor ≠ 4) (ring : RingParams)
    (valid : ring.latestId ≤ Constants.ringIdMaximum) (seqStr : Text) (next : UInt32) (parsed : tryParseHex seqStr = some next)
    (small : next.toNat < 2 ^ 24) (notLast : next.toNat ≠ 2 ^ 24 - 1)
    (plain : completed ring.latestId.toNat next.toNat < Constants.ringIdMaximum.toNat) :
    (dataPktId protoMajor ring (some seqStr)).toNat = completed ring.latestId.toNat next.toNat - 1 := by
  have bound := Constants.ringIdMaximum.toNat_lt
  rw [data_pkt_id protoMajor version ring valid seqStr next parsed small, if_neg notLast]
  generalize completed ring.latestId.toNat next.toNat = id at plain ⊢
  have isId : (UInt64.ofNat id).toNat = id := UInt64.toNat_ofNat_of_lt' (lt_trans plain bound)
  dsimp only
  by_cases zero : id = 0
  · rw [zero]
    rfl
  · have positive : UInt64.ofNat id < Constants.ringIdMaximum ∧ UInt64.ofNat id > 0 := by
      rw [UInt64.lt_iff_toNat_lt, gt_iff_lt, UInt64.lt_iff_toNat_lt, isId]
      exact ⟨plain, Nat.pos_of_ne_zero zero⟩
    have one : (1 : UInt64) ≤ UInt64.ofNat id := by
      rw [UInt64.le_iff_toNat_le, isId]
      exact Nat.pos_of_ne_zero zero
    rw [if_pos positive, UInt64.toNat_sub_of_le _ _ one, isId]
    rfl

theorem data_pkt_id_plain (protoMajor : Int) (version : protoMajor ≠ 4) (ring : RingParams)
    (valid : ring.latestId ≤ Constants.ringIdMaximum) (seqStr : Text) (next : UInt32) (parsed : tryParseHex seqStr = some next)
    (small : next.toNat < 2 ^ 24)
    (plain : next.toNat = 2 ^ 24 - 1 ∨ completed ring.latestId.toNat next.toNat < Constants.ringIdMaximum.toNat) :
    (dataPktId protoMajor ring (some seqStr) ≠ Constants.ringIdLatest ∧ dataPktId protoMajor ring (some seqStr) ≠ Constants.ringIdEarliest ∧
      dataPktId protoMajor ring (some seqStr) ≠ Constants.ringIdNone) ∧
      (dataPktId protoMajor ring (some seqStr) = Constants.ringIdNext ↔ next.toNat = 2 ^ 24 - 1) := by
  by_cases last : next.toNat = 2 ^ 24 - 1
  · rw [data_pkt_id protoMajor version ring valid seqStr next parsed small, if_pos last]
    exact ⟨by decide, fun _ => last, fun _ => rfl⟩
  · have id := data_pkt_id_named protoMajor version ring valid seqStr next parsed small last (plain.resolve_left last)
    have above : Constants.ringIdMaximum.toNat ≤ Constants.ringIdLatest.toNat ∧
      Constants.ringIdMaximum.toNat ≤ Constants.ringIdEarliest.toNat ∧
        Constants.ringIdMaximum.toNat ≤ Constants.ringIdNone.toNat ∧ Constants.ringIdMaximum.toNat ≤ Constants.ringIdNext.toNat := by decide
    have below := plain.resolve_left last
    refine ⟨⟨fun same => ?_, fun same => ?_, fun same => ?_⟩, fun same => ?_, fun same => absurd same last⟩
    all_goals
      rw [same] at id
      omega

inductive Named (g : Geometry) (journal : Journal) (reader : RingReader) : Option (RingReader × Bool) → Prop where
  | found (k : Nat) (placed : RingReader) (filling : journal.written < g.count) (below : k < journal.written)
      (isId : (journal.packet k).pktId = reader.pktId) (stands : placed.pktOffset = g.offsetAt k)
      (keepsId : placed.pktId = reader.pktId) (filters : SameFilters reader placed) : Named g journal reader (some (placed, true))
  | missing (nowhere : ¬ (journal.written < g.count ∧ ∃ k, k < journal.written ∧ (journal.packet k).pktId = reader.pktId)) :
      Named g journal reader (some ({ reader with pktId := Constants.ringIdNext }, false))

theorem position_by_id_named (g : Geometry) (ring : RingParams) (journal : Journal) (keeps : Keeps g ring journal) (fuel : Nat)
    (enough : g.count < fuel) (reader : RingReader) (named : 0 < reader.pktId ∧ reader.pktId < Constants.ringIdMaximum) :
    Named g journal reader (positionById fuel ring reader) := by
  have plain : reader.pktId ≤ Constants.ringIdMaximum := UInt64.le_of_lt named.2
  have reserved : ¬ Constants.ringIdNone < Constants.ringIdMaximum ∧ ¬ Constants.ringIdError < Constants.ringIdMaximum := by decide
  have notReserved : ¬ (reader.pktId = Constants.ringIdNone ∨ reader.pktId = Constants.ringIdError) := by
    rintro (isNone | isError)
    · exact reserved.1 (isNone ▸ named.2)
    · exact reserved.2 (isError ▸ named.2)
  obtain ⟨result, ran⟩ := position_ends g ring journal keeps fuel enough reader reader.pktId plain
  rw [positionById, if_pos named, ran, Option.bind_eq_bind, Option.bind_some]
  cases position_kept g ring journal keeps fuel reader reader.pktId plain result ran with
  | missing code isCode =>
      dsimp only
      rw [if_pos isCode]
      refine .missing (fun stands => ?_)
      obtain ⟨filling, k, below, isId⟩ := stands
      rw [← isId] at ran plain
      obtain ⟨_, _, _, found, _⟩ := position_finds g ring journal keeps filling k below fuel enough reader plain _ ran
      rw [isId] at found
      exact notReserved (found ▸ isCode)
  | found i header resident isHeader isWanted =>
      dsimp only
      rw [isWanted, if_neg notReserved]
      have filling : journal.written < g.count := by
        by_contra full
        obtain ⟨more, rfl⟩ : ∃ more, fuel = more + 1 := ⟨fuel - 1, by omega⟩
        have nothing := position_full g ring journal keeps (not_lt.mp full) more reader reader.pktId plain
        rw [ran, isWanted, Option.some.injEq, Prod.mk.injEq] at nothing
        exact notReserved (Or.inl nothing.1)
      exact .found i _ filling resident.2 (isHeader.pktId.symm.trans isWanted) rfl isWanted (move_to_filters reader _ header)

structure Reconnected (session : Session) : Prop where
  version : session.ext.protoMajor ≠ 4
  waiting : session.client.state = .command
  unset : session.client.reader.pktOffset < 0
  untimed : session.ext.startTime = NsTime.unset
  drained : session.ext.dbRecords = []

def RequestsData (line : List UInt8) (seqStr : Text) : Prop :=
  ∃ word behind, splitWords (commandText line) = word :: seqStr :: behind ∧
    (toUpperInvariant word = "DATA".toList ∨ toUpperInvariant word = "FETCH".toList)

def EndsStations (line : List UInt8) : Prop :=
  ∃ word behind, splitWords (commandText line) = word :: behind ∧
    (toUpperInvariant word = "END".toList ∨ toUpperInvariant word = "ENDFETCH".toList)

def answerAll (around : Surroundings) (fuel : Nat) (ring : RingParams) : Session → List (List UInt8) → Option Session
  | session, [] => some session
  | session, line :: lines =>
      (handleCommand around fuel ring session line).bind fun outcome => answerAll around fuel ring outcome.session lines

def resumeLines (session : Session) (data last : List UInt8) : List (List UInt8) :=
  if session.ext.inStationMode then [data, last] else [data]

def selection (around : Surroundings) (session : Session) : RingReader :=
  if session.ext.inStationMode then matchStations around session.ext session.client.reader else session.client.reader

structure Resumes (around : Surroundings) (fuel : Nat) (ring : RingParams) (session : Session)
    (rest : List (Request × RingPacket)) (final : Session) : Prop where
  streams : final.client.state = .stream
  drained : final.ext.dbRecords = []
  receives : ∀ caller data, RoomFor ring data → ∃ reading,
    RingBuffer.readNext fuel ring final.client.reader caller data = some reading ∧ Receives (selection around session) rest data reading

def Looks (ring : RingParams) (session : Session) (next : Nat) : Prop :=
  session.ext.inStationMode = true ∧ next ≠ 2 ^ 24 - 1 ∧ 1 < completed ring.latestId.toNat next ∧
    completed ring.latestId.toNat next < Constants.ringIdMaximum.toNat

def Finds (ring : RingParams) (writes : List (Request × RingPacket)) (packet : RingPacket) (next : Nat) : Prop :=
  writes.length < ring.maxPackets.toNat ∧ completed ring.latestId.toNat next = packet.pktId.toNat + 1

-- The packet is found and no late packet stands in the way; or the reader waits for the
-- next packet, and none behind is wanted.
def ResumeFits (around : Surroundings) (ring : RingParams) (writes : List (Request × RingPacket)) (place : Nat) (packet : RingPacket)
    (session : Session) (next : Nat) : Prop :=
  (Looks ring session next ∧ Finds ring writes packet next ∧ Unhindered (selection around session) writes place) ∨
    ((writes.drop (place + 1)).find? (wanted (selection around session)) = none ∧
      (next = 2 ^ 24 - 1 ∨ (Looks ring session next ∧ ¬ Finds ring writes packet next)))

theorem receives_same (old new : RingReader) (same : SameFilters old new) (rest : List (Request × RingPacket))
    (data : Option (List UInt8)) (reading : RingBuffer.Reading) : Receives new rest data reading ↔ Receives old rest data reading := by
  rw [Receives, Receives, wanted_same old new same]

theorem unhindered_same (old new : RingReader) (same : SameFilters old new) (writes : List (Request × RingPacket)) (place : Nat) :
    Unhindered new writes place ↔ Unhindered old writes place := by
  rw [Unhindered, Unhindered, wanted_same old new same]

theorem resumes_iff (around : Surroundings) (fuel : Nat) (ring : RingParams) (session : Session) (rest : List (Request × RingPacket))
    (final : Session) (streams : final.client.state = .stream) (drained : final.ext.dbRecords = [])
    (filters : SameFilters (selection around session) final.client.reader) :
    Resumes around fuel ring session rest final ↔ ∀ caller data, RoomFor ring data → ∃ reading,
      RingBuffer.readNext fuel ring final.client.reader caller data = some reading ∧ Receives final.client.reader rest data reading := by
  constructor
  · intro resumes caller data room
    obtain ⟨reading, ran, received⟩ := resumes.receives caller data room
    exact ⟨reading, ran, (receives_same _ _ filters rest data reading).mpr received⟩
  · refine fun reads => ⟨streams, drained, fun caller data room => ?_⟩
    obtain ⟨reading, ran, received⟩ := reads caller data room
    exact ⟨reading, ran, (receives_same _ _ filters rest data reading).mp received⟩

theorem match_stations_moved (around : Surroundings) (ext : SLExtInfo) (old new : RingReader) (same : SameFilters old new) :
    SameFilters (matchStations around ext old) (matchStations around ext new) ∧
      (matchStations around ext new).pktOffset = new.pktOffset ∧ (matchStations around ext new).pktId = new.pktId := by
  rw [matchStations, matchStations]
  by_cases none : ext.selectedStations.isEmpty = true
  · rw [if_pos none, if_pos none]
    exact ⟨same, rfl, rfl⟩
  · rw [if_neg none, if_neg none]
    exact ⟨⟨same.limit, rfl, same.reject⟩, rfl, rfl⟩

theorem data_answered (around : Surroundings) (fuel : Nat) (ring : RingParams) (session : Session) (line : List UInt8) (seqStr : Text)
    (requests : RequestsData line seqStr) : ∃ outcome, handleCommand around fuel ring session line = some outcome ∧
      outcome.session = (if session.ext.inStationMode then id else Session.streaming) (session.withReader { session.client.reader with
        pktId := dataPktId session.ext.protoMajor ring (some seqStr) }) := by
  obtain ⟨word, behind, words, command⟩ := requests
  rw [handleCommand.eq_def, words]
  dsimp only
  rw [if_pos command]
  refine ⟨_, rfl, ?_⟩
  by_cases mode : session.ext.inStationMode = true
  · rw [if_pos mode]
    exact congrArg Outcome.session (if_pos mode)
  · rw [if_neg mode]
    exact congrArg Outcome.session (if_neg mode)

theorem end_answered (around : Surroundings) (fuel : Nat) (ring : RingParams) (session : Session) (line : List UInt8)
    (ends : EndsStations line) (waiting : session.client.state = .command) (untimed : session.ext.startTime = NsTime.unset)
    (reader : RingReader) (positioned : Bool) (located : positionById fuel ring session.client.reader = some (reader, positioned)) :
    ∃ outcome, handleCommand around fuel ring session line = some outcome ∧
      (reader.pktId ≠ Constants.ringIdEarliest → reader.pktId ≠ Constants.ringIdNone →
        outcome.session = (session.withReader (matchStations around session.ext reader)).streaming) := by
  obtain ⟨word, behind, words, command⟩ := ends
  have notStart : ¬ HasStart session.ext := fun start => start.1 untimed
  have notStreaming : ¬ session.client.state = .stream := by
    rw [waiting]
    exact fun same => nomatch same
  have pktId := (match_stations_moved around session.ext reader reader (same_filters_refl reader)).2.2
  have byTime : positionByTime fuel ring session.ext reader positioned = some reader := by
    rw [positionByTime, if_neg (fun both => notStart both.2)]
  have other : toUpperInvariant word ≠ "DATA".toList ∧ toUpperInvariant word ≠ "FETCH".toList ∧
      toUpperInvariant word ≠ "TIME".toList ∧ toUpperInvariant word ≠ "STREAM".toList := by
    rcases command with isEnd | isEnd <;> rw [isEnd] <;> decide
  rw [handleCommand.eq_def, words]
  dsimp only
  rw [if_neg (not_or.mpr ⟨other.1, other.2.1⟩), if_neg other.2.2.1, if_neg other.2.2.2, if_pos command, handleEnd, if_neg notStreaming,
    located, Option.bind_eq_bind, Option.bind_some]
  dsimp only
  rw [byTime, Option.bind_eq_bind, Option.bind_some]
  refine ⟨_, rfl, fun notEarliest notNone => ?_⟩
  have auto : ¬ (session.ext.startTime = NsTime.unset ∧ (matchStations around session.ext reader).pktId = Constants.ringIdEarliest) :=
    fun both => notEarliest (pktId ▸ both.2)
  have archive : endArchive around (matchStations around session.ext reader).pktId session.ext = session.ext := by
    simp only [endArchive, if_neg auto]
    exact if_neg (fun both => notStart both.1)
  have next : nextForNone (matchStations around session.ext reader) = matchStations around session.ext reader := by
    rw [nextForNone, if_neg (fun isNone => notNone (pktId ▸ isNone))]
  rw [archive, next]
  rfl

theorem stations_answered (around : Surroundings) (fuel : Nat) (ring : RingParams) (session : Session) (reconnected : Reconnected session)
    (mode : session.ext.inStationMode = true) (seqStr : Text) (data last : List UInt8) (requests : RequestsData data seqStr)
    (ends : EndsStations last) (pktId : UInt64) (isPktId : dataPktId session.ext.protoMajor ring (some seqStr) = pktId)
    (reader : RingReader) (positioned : Bool)
    (located : positionById fuel ring { session.client.reader with pktId := pktId } = some (reader, positioned)) :
    ∃ final, answerAll around fuel ring session (resumeLines session data last) = some final ∧
      (reader.pktId ≠ Constants.ringIdEarliest → reader.pktId ≠ Constants.ringIdNone →
        final = (session.withReader (matchStations around session.ext reader)).streaming) := by
  obtain ⟨outcome, ran, isSession⟩ := data_answered around fuel ring session data seqStr requests
  rw [if_pos mode, isPktId] at isSession
  obtain ⟨answer, ran', isFinal⟩ := end_answered around fuel ring outcome.session last ends (by rw [isSession]; exact reconnected.waiting)
    (by rw [isSession]; exact reconnected.untimed) reader positioned (by rw [isSession]; exact located)
  refine ⟨answer.session, ?_, fun notEarliest notNone => ?_⟩
  · rw [resumeLines, if_pos mode, answerAll, ran, Option.bind_some, answerAll, ran']
    rfl
  · rw [isFinal notEarliest notNone, isSession]
    rfl

theorem stations_selected (around : Surroundings) (session : Session) (mode : session.ext.inStationMode = true) (reader : RingReader)
    (same : SameFilters session.client.reader reader) :
    SameFilters (selection around session) (matchStations around session.ext reader) ∧
      (matchStations around session.ext reader).pktOffset = reader.pktOffset ∧
      (matchStations around session.ext reader).pktId = reader.pktId := by
  rw [selection, if_pos mode]
  exact match_stations_moved around session.ext session.client.reader reader same

theorem next_apart : Constants.ringIdNext ≠ Constants.ringIdEarliest ∧ Constants.ringIdNext ≠ Constants.ringIdNone ∧
    Constants.ringIdNext ≠ Constants.ringIdLatest ∧ ¬ Constants.ringIdNext < Constants.ringIdMaximum := by decide

theorem looks_iff (ring : RingParams) (session : Session) (version : session.ext.protoMajor ≠ 4)
    (mode : session.ext.inStationMode = true) (valid : ring.latestId ≤ Constants.ringIdMaximum) (seqStr : Text) (hex : UInt32)
    (parsed : tryParseHex seqStr = some hex) (next : Nat) (small : next < 2 ^ 24) (isNext : hex.toNat = next)
    (plain : next = 2 ^ 24 - 1 ∨ completed ring.latestId.toNat next < Constants.ringIdMaximum.toNat) :
    0 < dataPktId session.ext.protoMajor ring (some seqStr) ∧
      dataPktId session.ext.protoMajor ring (some seqStr) < Constants.ringIdMaximum ↔ Looks ring session next := by
  have plainId := data_pkt_id_plain session.ext.protoMajor version ring valid seqStr hex parsed (isNext ▸ small)
  have namedId := data_pkt_id_named session.ext.protoMajor version ring valid seqStr hex parsed (isNext ▸ small)
  rw [isNext] at plainId namedId
  by_cases isLast : next = 2 ^ 24 - 1
  · rw [(plainId plain).2.mpr isLast]
    exact ⟨fun named => absurd named.2 next_apart.2.2.2, fun named => absurd isLast named.2.1⟩
  · have below := plain.resolve_left isLast
    rw [UInt64.lt_iff_toNat_lt, UInt64.lt_iff_toNat_lt, namedId isLast below, Looks]
    have zero : (0 : UInt64).toNat = 0 := rfl
    constructor
    · intro named
      exact ⟨mode, isLast, by omega, below⟩
    · intro looking
      have above := looking.2.2.1
      exact ⟨by omega, by omega⟩

section

variable (g : Geometry) (ring : RingParams) (journal : Journal) (all : List (Request × RingPacket))
  (stored : Stored g ring all journal) (consecutive : Consecutive (all.drop (journal.low g))) (place : Nat) (request : Request)
  (packet : RingPacket) (isWrite : (all.drop (journal.low g))[place]? = some (request, packet)) (next : Nat)
  (successor : next = (packet.pktId.toNat + 1) % 2 ^ 24)

include stored consecutive isWrite successor

theorem finds_iff (session : Session) (looks : Looks ring session next) : Finds ring (all.drop (journal.low g)) packet next ↔
    journal.written < g.count ∧ ∃ k, k < journal.written ∧
      (journal.packet k).pktId.toNat = completed ring.latestId.toNat next - 1 := by
  have written := stored.payloads.1
  have few := consecutive.few
  have inside := (List.getElem?_eq_some_iff.mp isWrite).1
  obtain ⟨first, ids⟩ := consecutive_id _ consecutive
  have id : packet.pktId.toNat = first + place := ids place _ isWrite
  have above := looks.2.2.1
  rw [Finds, stored.maxPackets]
  rw [List.length_drop] at few inside ⊢
  constructor
  · rintro ⟨short, same⟩
    have filling : journal.written < g.count := by
      simp only [Journal.low, oldest] at short
      omega
    have low : journal.low g = 0 := (oldest_filling g.count journal.written filling).1
    refine ⟨filling, place, by omega, ?_⟩
    rw [low, List.drop_zero] at isWrite
    rw [(write_packet g journal all stored.payloads place _ isWrite).2]
    show packet.pktId.toNat = _
    omega
  · rintro ⟨filling, k, below, isId⟩
    have low : journal.low g = 0 := (oldest_filling g.count journal.written filling).1
    obtain ⟨write, isOther⟩ : ∃ write, all[k]? = some write := ⟨_, List.getElem?_eq_getElem (by omega)⟩
    rw [(write_packet g journal all stored.payloads k write isOther).2] at isId
    rw [low, List.drop_zero] at ids
    have other := ids k write isOther
    simp only [completed] at isId above ⊢
    refine ⟨by omega, ?_⟩
    rw [low] at few inside
    have here : k = place := by omega
    omega

omit successor in
theorem latest_valid : ring.latestId ≤ Constants.ringIdMaximum := by
  have written := stored.payloads.1
  have inside := (List.getElem?_eq_some_iff.mp isWrite).1
  rw [List.length_drop] at inside
  obtain ⟨write, isLast⟩ : ∃ write, all[journal.written - 1]? = some write := ⟨_, List.getElem?_eq_getElem (by omega)⟩
  have dropped : (all.drop (journal.low g))[journal.written - 1 - journal.low g]? = some write := by
    rw [List.getElem?_drop, Nat.add_sub_cancel' (by omega)]
    exact isLast
  rw [stored.latestId (by omega), (write_packet g journal all stored.payloads _ write isLast).2]
  exact consecutive.valid write (List.mem_of_getElem? dropped)

variable (around : Surroundings) (fuel : Nat) (session : Session) (reconnected : Reconnected session)

omit successor in
theorem resumes_unset (final : Session) (streams : final.client.state = .stream) (drained : final.ext.dbRecords = [])
    (filters : SameFilters (selection around session) final.client.reader) (unset : final.client.reader.pktOffset < 0)
    (notLatest : final.client.reader.pktId ≠ Constants.ringIdLatest) (notEarliest : final.client.reader.pktId ≠ Constants.ringIdEarliest) :
    Resumes around fuel ring session ((all.drop (journal.low g)).drop (place + 1)) final ↔
      final.client.reader.pktId = Constants.ringIdNext ∧
        ((all.drop (journal.low g)).drop (place + 1)).find? (wanted (selection around session)) = none := by
  have inside := (List.getElem?_eq_some_iff.mp isWrite).1
  have written := stored.payloads.1
  rw [List.length_drop] at inside
  rw [resumes_iff around fuel ring session _ final streams drained filters, ← wanted_same _ _ filters]
  exact receives_unset g ring journal all stored (by omega) fuel final.client.reader unset notLatest notEarliest
    ((all.drop (journal.low g)).drop (place + 1)) (fun write member => consecutive.valid write (List.mem_of_mem_drop member))

omit successor in
theorem resumes_standing (enough : g.count + 100 < fuel) (filling : journal.written < g.count) (final : Session)
    (streams : final.client.state = .stream) (drained : final.ext.dbRecords = [])
    (filters : SameFilters (selection around session) final.client.reader)
    (stands : final.client.reader.pktOffset = g.offsetAt place) :
    Resumes around fuel ring session ((all.drop (journal.low g)).drop (place + 1)) final ↔
      Unhindered (selection around session) (all.drop (journal.low g)) place := by
  have inside := (List.getElem?_eq_some_iff.mp isWrite).1
  have written := stored.payloads.1
  have low : journal.low g = 0 := (oldest_filling g.count journal.written filling).1
  rw [low, List.drop_zero] at consecutive inside ⊢
  rw [resumes_iff around fuel ring session _ final streams drained filters, ← unhindered_same _ _ filters]
  exact receives_standing g ring journal all stored filling consecutive fuel enough final.client.reader place (by omega) stands

include reconnected

theorem resumes_at_once (mode : session.ext.inStationMode = false) (seqStr : Text) (hex : UInt32) (parsed : tryParseHex seqStr = some hex)
    (isNext : hex.toNat = next) (data last : List UInt8) (requests : RequestsData data seqStr) :
    ∃ final, answerAll around fuel ring session (resumeLines session data last) = some final ∧
      ((next = 2 ^ 24 - 1 ∨ completed ring.latestId.toNat next < Constants.ringIdMaximum.toNat) →
        (Resumes around fuel ring session ((all.drop (journal.low g)).drop (place + 1)) final ↔
          ResumeFits around ring (all.drop (journal.low g)) place packet session next)) := by
  have small : next < 2 ^ 24 := by omega
  have valid := latest_valid g ring journal all stored consecutive place request packet isWrite
  obtain ⟨outcome, ran, isSession⟩ := data_answered around fuel ring session data seqStr requests
  refine ⟨outcome.session, ?_, fun plain => ?_⟩
  · rw [resumeLines, mode, if_neg Bool.false_ne_true, answerAll, ran]
    rfl
  have noStation : ¬ session.ext.inStationMode = true := by rw [mode]; exact Bool.false_ne_true
  rw [if_neg noStation] at isSession
  have filters : SameFilters (selection around session) outcome.session.client.reader := by
    rw [isSession, selection, if_neg noStation]
    exact ⟨rfl, rfl, rfl⟩
  have pktId : outcome.session.client.reader.pktId = dataPktId session.ext.protoMajor ring (some seqStr) := by
    rw [isSession]
    rfl
  have sentinel := data_pkt_id_plain session.ext.protoMajor reconnected.version ring valid seqStr hex parsed (isNext ▸ small)
    (isNext ▸ plain)
  rw [resumes_unset g ring journal all stored consecutive place request packet isWrite around fuel session outcome.session
    (by rw [isSession]; rfl) (by rw [isSession]; exact reconnected.drained) filters (by rw [isSession]; exact reconnected.unset)
    (pktId ▸ sentinel.1.1) (pktId ▸ sentinel.1.2.1), pktId, sentinel.2, ResumeFits, Looks, isNext]
  constructor
  · exact fun next => Or.inr ⟨next.2, Or.inl next.1⟩
  · rintro (⟨looks, _⟩ | ⟨missing, isLast | ⟨looks, _⟩⟩)
    · exact absurd looks.1 noStation
    · exact ⟨isLast, missing⟩
    · exact absurd looks.1 noStation

omit reconnected isWrite in
theorem finds_place (session : Session) (looks : Looks ring session next) (filling : journal.written < g.count)
    (isWrite : (all.drop (journal.low g))[place]? = some (request, packet)) (k : Nat) (below : k < journal.written)
    (isId : (journal.packet k).pktId.toNat = completed ring.latestId.toNat next - 1) :
    Finds ring (all.drop (journal.low g)) packet next ∧ k = place := by
  have finds := (finds_iff g ring journal all stored consecutive place request packet isWrite next successor session looks).mpr
    ⟨filling, k, below, isId⟩
  have low : journal.low g = 0 := (oldest_filling g.count journal.written filling).1
  obtain ⟨first, ids⟩ := consecutive_id _ consecutive
  have idPlace : packet.pktId.toNat = first + place := ids place _ isWrite
  rw [low, List.drop_zero] at ids
  have written := stored.payloads.1
  obtain ⟨write, isOther⟩ := write_stored g journal all stored.payloads k below
  have idK := ids k write isOther
  have same := finds.2
  rw [← (write_packet g journal all stored.payloads k write isOther).2] at idK
  exact ⟨finds, by omega⟩

omit successor in
theorem resumes_unplaced (mode : session.ext.inStationMode = true) (id : UInt64) (final : Session)
    (notEarliest : id ≠ Constants.ringIdEarliest) (notLatest : id ≠ Constants.ringIdLatest)
    (isFinal : final = (session.withReader (matchStations around session.ext { session.client.reader with pktId := id })).streaming) :
    Resumes around fuel ring session ((all.drop (journal.low g)).drop (place + 1)) final ↔ id = Constants.ringIdNext ∧
      ((all.drop (journal.low g)).drop (place + 1)).find? (wanted (selection around session)) = none := by
  obtain ⟨filters, offset, pktId⟩ := stations_selected around session mode { session.client.reader with pktId := id } ⟨rfl, rfl, rfl⟩
  have isId : final.client.reader.pktId = id := by rw [isFinal]; exact pktId
  rw [← isId]
  exact resumes_unset g ring journal all stored consecutive place request packet isWrite around fuel session final
    (by rw [isFinal]; rfl) (by rw [isFinal]; exact reconnected.drained) (by rw [isFinal]; exact filters)
    (by rw [isFinal]; exact offset ▸ reconnected.unset) (isId ▸ notLatest) (isId ▸ notEarliest)

theorem resumes_after_end (enough : g.count + 100 < fuel) (mode : session.ext.inStationMode = true) (seqStr : Text) (hex : UInt32)
    (parsed : tryParseHex seqStr = some hex) (isNext : hex.toNat = next) (data last : List UInt8)
    (requests : RequestsData data seqStr) (ends : EndsStations last) :
    ∃ final, answerAll around fuel ring session (resumeLines session data last) = some final ∧
      ((next = 2 ^ 24 - 1 ∨ completed ring.latestId.toNat next < Constants.ringIdMaximum.toNat) →
        (Resumes around fuel ring session ((all.drop (journal.low g)).drop (place + 1)) final ↔
          ResumeFits around ring (all.drop (journal.low g)) place packet session next)) := by
  have small : next < 2 ^ 24 := by omega
  have valid := latest_valid g ring journal all stored consecutive place request packet isWrite
  have reserved : ¬ Constants.ringIdEarliest < Constants.ringIdMaximum ∧ ¬ Constants.ringIdNone < Constants.ringIdMaximum := by decide
  have plainId := data_pkt_id_plain session.ext.protoMajor reconnected.version ring valid seqStr hex parsed (isNext ▸ small)
  have namedId := data_pkt_id_named session.ext.protoMajor reconnected.version ring valid seqStr hex parsed (isNext ▸ small)
  have looks := looks_iff ring session reconnected.version mode valid seqStr hex parsed next small isNext
  have answered := stations_answered around fuel ring session reconnected mode seqStr data last requests ends
  have unplaced :=
    resumes_unplaced g ring journal all stored consecutive place request packet isWrite around fuel session reconnected mode
  generalize isPktId : dataPktId session.ext.protoMajor ring (some seqStr) = pktId at plainId namedId looks
  rw [isNext] at plainId namedId
  by_cases named : 0 < pktId ∧ pktId < Constants.ringIdMaximum
  · have located := position_by_id_named g ring journal stored.keeps fuel (by omega) { session.client.reader with pktId := pktId } named
    generalize isResult : positionById fuel ring { session.client.reader with pktId := pktId } = result at located
    cases located with
    | found k placed filling below isId stands keepsId filters =>
        obtain ⟨final, ran', isFinal⟩ := answered pktId isPktId placed true isResult
        refine ⟨final, ran', fun plain => ?_⟩
        have looking := (looks plain).mp named
        obtain ⟨finds, rfl⟩ := finds_place g ring journal all stored consecutive place request packet next successor session looking filling
          isWrite k below (isId ▸ namedId looking.2.1 looking.2.2.2)
        obtain ⟨same, offset, pktId'⟩ := stations_selected around session mode placed ⟨filters.limit, filters.matching, filters.reject⟩
        have apart : placed.pktId ≠ Constants.ringIdEarliest ∧ placed.pktId ≠ Constants.ringIdNone := by
          refine ⟨fun isId => ?_, fun isId => ?_⟩
          · exact reserved.1 (isId ▸ keepsId ▸ named.2)
          · exact reserved.2 (isId ▸ keepsId ▸ named.2)
        have isFinal := isFinal apart.1 apart.2
        rw [resumes_standing g ring journal all stored consecutive k request packet isWrite around fuel session enough filling final
          (by rw [isFinal]; rfl) (by rw [isFinal]; exact reconnected.drained) (by rw [isFinal]; exact same)
          (by rw [isFinal]; exact offset.trans stands), ResumeFits]
        constructor
        · exact fun unhindered => Or.inl ⟨looking, finds, unhindered⟩
        · rintro (⟨_, _, unhindered⟩ | ⟨_, isLast | ⟨_, lost⟩⟩)
          · exact unhindered
          · exact absurd isLast looking.2.1
          · exact absurd finds lost
    | missing nowhere =>
        obtain ⟨final, ran', isFinal⟩ := answered pktId isPktId _ false isResult
        refine ⟨final, ran', fun plain => ?_⟩
        have looking := (looks plain).mp named
        have lost : ¬ Finds ring (all.drop (journal.low g)) packet next := by
          rw [finds_iff g ring journal all stored consecutive place request packet isWrite next successor session looking]
          rintro ⟨filling, k, below, isId⟩
          refine nowhere ⟨filling, k, below, UInt64.toNat_inj.mp ?_⟩
          rw [isId]
          exact (namedId looking.2.1 looking.2.2.2).symm
        rw [unplaced Constants.ringIdNext final next_apart.1 next_apart.2.2.1 (isFinal next_apart.1 next_apart.2.1), ResumeFits]
        constructor
        · exact fun next => Or.inr ⟨next.2, Or.inr ⟨looking, lost⟩⟩
        · rintro (⟨_, finds, _⟩ | ⟨missing, _⟩)
          · exact absurd finds lost
          · exact ⟨rfl, missing⟩
  · obtain ⟨final, ran', isFinal⟩ :=
      answered pktId isPktId { session.client.reader with pktId := pktId } false (by rw [positionById, if_neg named])
    refine ⟨final, ran', fun plain => ?_⟩
    have notLooking : ¬ Looks ring session next := fun looking => named ((looks plain).mpr looking)
    obtain ⟨⟨notLatest, notEarliest, notNone⟩, isLast⟩ := plainId plain
    rw [unplaced pktId final notEarliest notLatest (isFinal notEarliest notNone), ResumeFits, isLast]
    constructor
    · exact fun next => Or.inr ⟨next.2, Or.inl next.1⟩
    · rintro (⟨looking, _⟩ | ⟨missing, isLast | ⟨looking, _⟩⟩)
      · exact absurd looking notLooking
      · exact ⟨isLast, missing⟩
      · exact absurd looking notLooking

end

-- A client resumes behind the packet it has exactly when END finds that packet, or
-- makes it wait while nothing behind is wanted.
theorem resume_delivers (g : Geometry) (ring ring' : RingParams) (isFresh : Fresh g ring) (requests : List Request)
    (packets : List RingPacket) (known : ∀ request ∈ requests, Fits ring request ∧ Sized request)
    (ran : writeAll ring requests = some (ring', packets)) (consecutive : Consecutive (residentWrites ring' requests packets))
    (place : Nat) (request : Request) (packet : RingPacket)
    (isWrite : (residentWrites ring' requests packets)[place]? = some (request, packet)) (fuel : Nat)
    (enough : ring.maxPackets.toNat + 100 < fuel) (around : Surroundings) (session : Session) (reconnected : Reconnected session)
    (seqStr : Text) (next : UInt32) (parsed : tryParseHex seqStr = some next)
    (successor : next.toNat = (numbered session.ext.protoMajor packet.pktId + 1) % 2 ^ 24) (data last : List UInt8)
    (asks : RequestsData data seqStr) (ends : EndsStations last) :
    ∃ final, answerAll around fuel ring' session (resumeLines session data last) = some final ∧
      (ResumeFits around ring' (residentWrites ring' requests packets) place packet session next.toNat →
        Resumes around fuel ring' session ((residentWrites ring' requests packets).drop (place + 1)) final) ∧
      ((next.toNat = 2 ^ 24 - 1 ∨ completed ring'.latestId.toNat next.toNat < Constants.ringIdMaximum.toNat) →
        Resumes around fuel ring' session ((residentWrites ring' requests packets).drop (place + 1)) final →
          ResumeFits around ring' (residentWrites ring' requests packets) place packet session next.toNat) := by
  obtain ⟨ring'', packets', journal, ran', _, stored, _, resident⟩ := fresh_run g ring isFresh requests known
  obtain ⟨rfl, rfl⟩ := Prod.mk.inj (Option.some.inj (ran'.symm.trans ran))
  rw [resident] at consecutive isWrite ⊢
  rw [isFresh.maxPackets] at enough
  have number : next.toNat = (packet.pktId.toNat + 1) % 2 ^ 24 := by
    rw [successor, numbered, if_neg reconnected.version, Nat.mod_add_mod]
  have plain (fits : ResumeFits around ring'' ((requests.zip packets').drop (journal.low g)) place packet session next.toNat) :
      next.toNat = 2 ^ 24 - 1 ∨ completed ring''.latestId.toNat next.toNat < Constants.ringIdMaximum.toNat := by
    rcases fits with ⟨looks, _⟩ | ⟨_, isLast | ⟨looks, _⟩⟩
    · exact Or.inr looks.2.2.2
    · exact Or.inl isLast
    · exact Or.inr looks.2.2.2
  by_cases mode : session.ext.inStationMode = true
  · obtain ⟨final, answered, exactly⟩ := resumes_after_end g ring'' journal _ stored consecutive place request packet isWrite next.toNat
      number around fuel session reconnected enough mode seqStr next parsed rfl data last asks ends
    exact ⟨final, answered, fun fits => (exactly (plain fits)).mpr fits, fun below => (exactly below).mp⟩
  · obtain ⟨final, answered, exactly⟩ := resumes_at_once g ring'' journal _ stored consecutive place request packet isWrite next.toNat
      number around fuel session reconnected (Bool.eq_false_iff.mpr mode) seqStr next parsed rfl data last asks
    exact ⟨final, answered, fun fits => (exactly (plain fits)).mpr fits, fun below => (exactly below).mp⟩

def twoBytes : List Request := [byteRequest ⟨5⟩ ['A'] 7, byteRequest ⟨6⟩ ['B'] 8]

theorem two_bytes_held (ring : RingParams) (slots : UInt64) (room : 2 ≤ slots.toNat)
    (computed : (writeAll ring twoBytes).map (fun result =>
      (result.2.map fun packet => (packet.pktId, packet.pktTime.value), result.1.latestId, result.1.maxPackets)) =
      some ([(1, 5), (2, 6)], 2, slots)) :
    ∃ ring' first second, writeAll ring twoBytes = some (ring', [first, second]) ∧ first.pktId = 1 ∧ second.pktId = 2 ∧
      second.pktTime.value = 6 ∧ ring'.latestId = 2 ∧ ring'.maxPackets = slots ∧
      residentWrites ring' twoBytes [first, second] = twoBytes.zip [first, second] ∧
      Consecutive (residentWrites ring' twoBytes [first, second]) := by
  obtain ⟨⟨ring', packets⟩, ran, same⟩ := Option.map_eq_some_iff.mp computed
  obtain ⟨isPackets, latest, maxPackets⟩ : _ ∧ ring'.latestId = 2 ∧ ring'.maxPackets = slots := by
    simpa only [Prod.mk.injEq] using same
  obtain ⟨first, others, rfl, isFirst, isOthers⟩ := List.map_eq_cons_iff.mp isPackets
  obtain ⟨second, rfl, isSecond⟩ := List.map_eq_singleton_iff.mp isOthers
  obtain ⟨one, _⟩ := Prod.mk.inj isFirst
  obtain ⟨two, time⟩ := Prod.mk.inj isSecond
  have all : residentWrites ring' twoBytes [first, second] = twoBytes.zip [first, second] := by
    have none : twoBytes.length - residents ring' twoBytes.length = 0 := by
      show 2 - min ring'.maxPackets.toNat 2 = 0
      rw [maxPackets]
      omega
    rw [residentWrites, none, List.drop_zero]
  refine ⟨ring', first, second, ran, one, two, time, latest, maxPackets, all, ?_⟩
  rw [all]
  refine ⟨by show 2 < 2 ^ 24; decide, ⟨1, ?_⟩, fun write member => ?_⟩
  · show [first.pktId.toNat, second.pktId.toNat] = [1, 2]
    rw [one, two]
    rfl
  · have either : write = (byteRequest ⟨5⟩ ['A'] 7, first) ∨ write = (byteRequest ⟨6⟩ ['B'] 8, second) := by
      simpa only [twoBytes, List.zip_cons_cons, List.zip_nil_left, List.mem_cons, List.not_mem_nil, or_false] using member
    rcases either with rfl | rfl
    · show first.pktId ≤ _
      rw [one]
      decide
    · show second.pktId ≤ _
      rw [two]
      decide

theorem two_bytes_known (ring : RingParams) (pktSize : ring.pktSize = 128) : ∀ request ∈ twoBytes, Fits ring request ∧ Sized request := by
  intro request member
  have either : request = byteRequest ⟨5⟩ ['A'] 7 ∨ request = byteRequest ⟨6⟩ ['B'] 8 := by
    simpa only [twoBytes, List.mem_cons, List.not_mem_nil, or_false] using member
  rcases either with rfl | rfl
  · exact byte_request_fits ring pktSize ⟨5⟩ ['A'] 7
  · exact byte_request_fits ring pktSize ⟨6⟩ ['B'] 8

def threeSlots : Geometry := ⟨4096, 128, 3, 4480, by decide, by decide, by decide⟩

def threeSlotRing : RingParams :=
  let ring := RingBuffer.newRingParams ⟨none, none⟩ 4480 128 3 256 4096 true
  RingBuffer.resetRingParams (RingBuffer.readHeader ring) 4480 128 3 256 4096

theorem three_slots_fresh : Fresh threeSlots threeSlotRing :=
  ⟨⟨rfl, by decide, by decide, rfl⟩, rfl, rfl, rfl, rfl, rfl⟩

def stationed : Session := (handleStation quiet fresh ["STATION".toList, "STA".toList, "NET".toList]).session

theorem resume_requested : RequestsData (encodeASCII "DATA 000002".toList) "000002".toList ∧ EndsStations (encodeASCII "END".toList) := by
  have words : splitWords (commandText (encodeASCII "DATA 000002".toList)) = ["DATA".toList, "000002".toList] := by decide +kernel
  have word : splitWords (commandText (encodeASCII "END".toList)) = ["END".toList] := by decide +kernel
  exact ⟨⟨_, _, words, Or.inl (by decide)⟩, ⟨_, _, word, Or.inl (by decide)⟩⟩

theorem resume_delivers_second_packet : ∃ ring' first second final, writeAll threeSlotRing twoBytes = some (ring', [first, second]) ∧
    answerAll quiet 104 ring' stationed [encodeASCII "DATA 000002".toList, encodeASCII "END".toList] = some final ∧
    Resumes quiet 104 ring' stationed [(byteRequest ⟨6⟩ ['B'] 8, second)] final := by
  obtain ⟨ring', first, second, ran, one, two, time, latest, maxPackets, all, consecutive⟩ :=
    two_bytes_held threeSlotRing 3 (by decide) (by decide +kernel)
  obtain ⟨asks, ends⟩ := resume_requested
  have isWrite : (residentWrites ring' twoBytes [first, second])[0]? = some (byteRequest ⟨5⟩ ['A'] 7, first) := by rw [all]; rfl
  obtain ⟨final, answered, resumes, _⟩ := resume_delivers threeSlots threeSlotRing ring' three_slots_fresh twoBytes [first, second]
    (two_bytes_known threeSlotRing rfl) ran consecutive 0 _ first isWrite 104 (by decide) quiet stationed
    ⟨by decide, rfl, by decide, rfl, rfl⟩ "000002".toList 2 (by decide +kernel) (by rw [one]; rfl) _ _ asks ends
  refine ⟨ring', first, second, final, ran, answered, ?_⟩
  rw [all] at resumes
  have completes : completed ring'.latestId.toNat (2 : UInt32).toNat = 2 := by rw [latest]; rfl
  refine resumes (Or.inl ⟨⟨rfl, by decide, ?_, ?_⟩, ⟨?_, ?_⟩, Or.inl fun write member late => ?_⟩)
  · rw [completes]
    decide
  · rw [completes]
    decide
  · rw [maxPackets]
    show 2 < (3 : UInt64).toNat
    decide
  · rw [completes, one]
    rfl
  · obtain ⟨last, isLast, later⟩ := late
    obtain rfl := Option.some.inj isLast
    obtain rfl : write = (byteRequest ⟨6⟩ ['B'] 8, second) := List.mem_singleton.mp (List.mem_of_mem_take member)
    have itself : second.pktTime.value < second.pktTime.value := later
    exact Int64.lt_irrefl itself

-- A client that streams all stations and asks for the packet behind the first one is
-- refused, though that packet is in the ring.
theorem all_stations_refused : ∃ ring' first second final, writeAll twoSlotRing twoBytes = some (ring', [first, second]) ∧
    residentWrites ring' twoBytes [first, second] = twoBytes.zip [first, second] ∧
    Consecutive (residentWrites ring' twoBytes [first, second]) ∧ first.pktId = 1 ∧ Reconnected fresh ∧
    answerAll quiet 103 ring' fresh [encodeASCII "DATA 000002".toList] = some final ∧
    ¬ Resumes quiet 103 ring' fresh [(byteRequest ⟨6⟩ ['B'] 8, second)] final := by
  obtain ⟨ring', first, second, ran, one, two, time, latest, maxPackets, all, consecutive⟩ :=
    two_bytes_held twoSlotRing 2 (by decide) (by decide +kernel)
  obtain ⟨ring'', packets, journal, ran', length, stored⟩ := stored_run twoSlots twoBytes twoSlotRing [] Journal.empty
    (stored_fresh twoSlots twoSlotRing two_slots_fresh) (two_bytes_known twoSlotRing rfl)
  obtain ⟨rfl, rfl⟩ := Prod.mk.inj (Option.some.inj (ran'.symm.trans ran))
  have reconnected : Reconnected fresh := ⟨by decide, rfl, by decide, rfl, rfl⟩
  have low : journal.low twoSlots = 0 := by
    have written : 2 = journal.written := stored.payloads.1
    rw [Journal.low, ← written]
    rfl
  have dropped : (twoBytes.zip [first, second]).drop (journal.low twoSlots) = twoBytes.zip [first, second] := by rw [low, List.drop_zero]
  rw [List.nil_append] at stored
  obtain ⟨final, answered, exactly⟩ := resumes_at_once twoSlots ring'' journal _ stored (by rw [dropped, ← all]; exact consecutive) 0 _
    first
    (by rw [dropped]; rfl) 2 (by rw [one]; rfl) quiet 103 fresh reconnected rfl "000002".toList 2 (by decide +kernel) rfl _
    (encodeASCII "END".toList) resume_requested.1
  refine ⟨ring'', first, second, final, ran, all, consecutive, one, reconnected, answered, fun resumes => ?_⟩
  have completes : completed ring''.latestId.toNat 2 = 2 := by rw [latest]; rfl
  rw [dropped] at exactly
  rcases (exactly (Or.inr (by rw [completes]; decide))).mp resumes with ⟨looks, _⟩ | ⟨_, isLast | ⟨looks, _⟩⟩
  · exact absurd looks.1 Bool.false_ne_true
  · exact absurd isLast (by decide)
  · exact absurd looks.1 Bool.false_ne_true

end RingServer.SeedLink
