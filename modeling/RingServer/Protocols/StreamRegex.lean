import RingServer.Library.RegexSyntax
import RingServer.Protocols.DataLinkFrames
import RingServer.Protocols.SeedLinkProtocol

set_option autoImplicit false

namespace RingServer.SeedLink

open Library

-- The regular expressions of the platform, on the notation that Regex.parse reads.
def Speaks (engine : Engine) : Prop :=
  ∀ pattern expression, Regex.parse pattern = some expression → engine.compile pattern = some expression.found

-- A text without the characters, other than the wildcards, that mean something in a
-- regular expression. Nothing escapes them.
def metacharacters : List Char := ['(', '[', ')', '|', '.', '^', '$', '\\', '+', '{']

def Plain (text : Text) : Prop := ∀ c ∈ text, c ∉ metacharacters

theorem plain_iff (text : Text) : (text.all fun c => !metacharacters.contains c) = true ↔ Plain text := by
  simp only [Plain, List.all_eq_true, Bool.not_eq_true', ← Bool.not_eq_true, List.contains_iff_mem]

instance (text : Text) : Decidable (Plain text) := decidable_of_iff _ (plain_iff text)

def wildOf (c : Char) : Wild Char := if c = '?' then .one else if c = '*' then .many else .literal c

-- The wildcards of a station ID or selector stand for no line feed.
def wildcard (text : Text) : List (Wild Char) := text.map wildOf

def Names (station channel id : Text) : Prop :=
  ∃ scheme code source type version ending : Text,
    id = scheme ++ (code ++ '_' :: (source ++ (type ++ version))) ++ ending ∧
    (scheme = [] ∨ scheme = "FDSN:".toList) ∧ wildMatches Regex.point (wildcard station) code = true ∧
    wildMatches Regex.point (wildcard channel) source = true ∧ (type = [] ∨ type = "/MSEED".toList) ∧
    (version = [] ∨ version = ['2'] ∨ version = ['3']) ∧ (ending = [] ∨ ending = ['\n'])

def Picks (station id : Text) : Prop :=
  ∃ scheme code behind ending : Text, id = scheme ++ (code ++ '_' :: behind) ++ ending ∧
    (scheme = [] ∨ scheme = "FDSN:".toList) ∧ wildMatches Regex.point (wildcard station) code = true ∧
    '\n' ∉ behind ∧ (ending = [] ∨ ending = ['\n'])

def wildItems (text : Text) : List (Regex Char) := (wildcard text).map (Regex.ofWild Regex.point)

def literally (text : Text) : Regex Char := Regex.sequence ((text.map Wild.literal).map (Regex.ofWild Regex.point))

def versionDigit : Regex Char := .one ['3', '2'].contains

def streamItems (station channel : Text) : List (Regex Char) :=
  [.look Regex.begins, .optional (literally "FDSN:".toList)] ++ wildItems station ++ wildItems ['_'] ++ wildItems channel ++
    [.optional (literally "/MSEED".toList), .optional versionDigit, .look Regex.closes]

def positive (selector : Text) : Text := if selector.head? = some '!' then selector.tail else selector

theorem stream_regex_parts (staid selector : Option Text) : buildStreamRegex staid selector =
    "^(?:FDSN:)?".toList ++ (translated (staid.getD ['*']) ++ (translated ['_'] ++ (translated (selector.elim ['*'] positive) ++
      "(?:/MSEED)?[23]?$".toList))) := by
  cases staid <;> cases selector <;> rfl

section

open Regex

theorem read_wild_char (c : Char) (plain : c ∉ metacharacters) (stack : List Branches) (past : Option (Regex Char))
    (items : List (Regex Char)) (ready : Bool) :
    ∃ ready', (translated [c]).foldlM Reader.step ⟨stack, ⟨past, items, ready⟩, .plain⟩ =
      some ⟨stack, ⟨past, ofWild point (wildOf c) :: items, ready'⟩, .plain⟩ := by
  by_cases one : c = '?'
  · rw [one]
    exact ⟨true, rfl⟩
  by_cases many : c = '*'
  · rw [many]
    exact ⟨false, rfl⟩
  have apart (d : Char) (isMeta : d ∈ metacharacters) : c ≠ d := fun same => plain (same ▸ isMeta)
  have ordinary : Reader.special c = false := by
    have unlisted : c ∉ ['\\', '+', '{'] := by
      simp only [List.mem_cons, List.not_mem_nil, or_false, not_or]
      exact ⟨apart _ (by decide), apart _ (by decide), apart _ (by decide)⟩
    rw [Reader.special, List.contains_eq_mem, decide_eq_false_iff_not]
    exact unlisted
  refine ⟨true, ?_⟩
  have itself : translated [c] = [c] := by
    rw [translated, List.flatMap_singleton, if_neg one, if_neg many]
  have literal : wildOf c = .literal c := by rw [wildOf, if_neg one, if_neg many]
  rw [itself, List.foldlM_cons, Reader.step, Reader.plainStep, if_neg (apart '(' (by decide)), if_neg (apart '[' (by decide)),
    if_neg (apart ')' (by decide)), if_neg (apart '|' (by decide)), if_neg many, if_neg one, if_neg (apart '.' (by decide)),
    if_neg (apart '^' (by decide)), if_neg (apart '$' (by decide)), ordinary, literal]
  rfl

theorem read_wild (text : Text) (plain : Plain text) (stack : List Branches) (past : Option (Regex Char))
    (items : List (Regex Char)) (ready : Bool) :
    ∃ ready', (translated text).foldlM Reader.step ⟨stack, ⟨past, items, ready⟩, .plain⟩ =
      some ⟨stack, ⟨past, (wildItems text).reverse ++ items, ready'⟩, .plain⟩ := by
  induction text generalizing items ready with
  | nil => exact ⟨ready, rfl⟩
  | cons c text ih =>
      obtain ⟨next, first⟩ := read_wild_char c (plain c List.mem_cons_self) stack past items ready
      obtain ⟨last, rest⟩ := ih (fun d isMember => plain d (List.mem_cons_of_mem c isMember)) (ofWild point (wildOf c) :: items) next
      refine ⟨last, ?_⟩
      have parts : translated (c :: text) = translated [c] ++ translated text := by
        rw [translated, List.flatMap_cons, translated, List.flatMap_singleton, translated]
      have items' : (wildItems (c :: text)).reverse ++ items = (wildItems text).reverse ++ ofWild point (wildOf c) :: items := by
        rw [wildItems, wildcard, List.map_cons, List.map_cons, List.reverse_cons, List.append_assoc, List.singleton_append]
        rfl
      rw [parts, List.foldlM_append, first, Option.bind_eq_bind, Option.bind_some, rest, items']

theorem read_start (past : Option (Regex Char)) (ready : Bool) :
    "^(?:FDSN:)?".toList.foldlM Reader.step ⟨[], ⟨past, [], ready⟩, .plain⟩ =
      some ⟨[], ⟨past, [.optional (literally "FDSN:".toList), .look begins], false⟩, .plain⟩ := rfl

theorem read_end (past : Option (Regex Char)) (items : List (Regex Char)) (ready : Bool) :
    "(?:/MSEED)?[23]?$".toList.foldlM Reader.step ⟨[], ⟨past, items, ready⟩, .plain⟩ =
      some ⟨[], ⟨past, .look closes :: .optional versionDigit :: .optional (literally "/MSEED".toList) :: items, false⟩, .plain⟩ := rfl

theorem read_stream (staid selector : Option Text) (plainStation : Plain (staid.getD ['*']))
    (plainChannel : Plain (selector.elim ['*'] positive)) (past : Option (Regex Char)) (ready : Bool) :
    (buildStreamRegex staid selector).foldlM Reader.step ⟨[], ⟨past, [], ready⟩, .plain⟩ =
      some ⟨[], ⟨past, (streamItems (staid.getD ['*']) (selector.elim ['*'] positive)).reverse, false⟩, .plain⟩ := by
  obtain ⟨_, station⟩ := read_wild _ plainStation [] past [.optional (literally "FDSN:".toList), .look begins] false
  obtain ⟨_, bar⟩ := read_wild ['_'] (by decide) [] past _ _
  obtain ⟨_, channel⟩ := read_wild _ plainChannel [] past _ _
  rw [stream_regex_parts, List.foldlM_append, read_start, Option.bind_eq_bind, Option.bind_some, List.foldlM_append, station,
    Option.bind_eq_bind, Option.bind_some, List.foldlM_append, bar, Option.bind_eq_bind, Option.bind_some, List.foldlM_append,
    channel, Option.bind_eq_bind, Option.bind_some, read_end]
  simp only [streamItems, List.reverse_append, List.reverse_cons, List.reverse_nil, List.nil_append, List.append_assoc,
    List.cons_append]

theorem takes_literally (word before middle behind : Text) : Takes (literally word) before middle behind ↔ middle = word := by
  rw [literally, takes_of_wild, matches_literals]

theorem takes_version (before middle behind : Text) :
    Takes versionDigit before middle behind ↔ middle = ['2'] ∨ middle = ['3'] := by
  rw [versionDigit, takes_one]
  constructor
  · intro digit
    obtain ⟨c, single, isDigit⟩ := digit
    rw [List.contains_eq_mem, decide_eq_true_iff, List.mem_cons, List.mem_singleton] at isDigit
    cases isDigit with
    | inl three => exact .inr (three ▸ single)
    | inr two => exact .inl (two ▸ single)
  · intro digit
    cases digit with
    | inl two => exact ⟨'2', two, rfl⟩
    | inr three => exact ⟨'3', three, rfl⟩

theorem takes_wild_items (text before middle behind : Text) :
    Takes (sequence (wildItems text)) before middle behind ↔ wildMatches point (wildcard text) middle = true :=
  takes_of_wild point (wildcard text) before middle behind

theorem matches_bar (text : Text) : wildMatches point (wildcard ['_']) text = true ↔ text = ['_'] := matches_literals point ['_'] text

theorem takes_stream (station channel before middle behind : Text) :
    Takes (sequence (streamItems station channel)) before middle behind ↔
      before = [] ∧ (behind = [] ∨ behind = ['\n']) ∧ ∃ scheme code source type version : Text,
        middle = scheme ++ (code ++ '_' :: (source ++ (type ++ version))) ∧ (scheme = [] ∨ scheme = "FDSN:".toList) ∧
        wildMatches point (wildcard station) code = true ∧ wildMatches point (wildcard channel) source = true ∧
        (type = [] ∨ type = "/MSEED".toList) ∧ (version = [] ∨ version = ['2'] ∨ version = ['3']) := by
  simp only [streamItems, List.append_assoc, List.cons_append, List.nil_append, takes_sequence_cons, takes_sequence_append, takes_look,
    takes_optional, takes_literally, takes_wild_items, matches_bar, takes_version, takes_sequence_nil]
  constructor
  · rintro ⟨_, _, rfl, ⟨rfl, first⟩, scheme, _, rfl, isScheme, code, _, rfl, isCode, _, _, rfl, rfl, source, _, rfl, isSource,
      type, _, rfl, isType, version, _, rfl, isVersion, _, _, rfl, ⟨rfl, last⟩, rfl⟩
    refine ⟨List.isEmpty_iff.mp first, ?_, scheme, code, source, type, version, ?_, isScheme.symm, isCode, isSource, isType.symm, ?_⟩
    · simpa only [closes, Bool.or_eq_true, decide_eq_true_iff, List.nil_append] using last
    · simp only [List.nil_append, List.append_nil, List.singleton_append]
    · exact isVersion.symm
  · rintro ⟨rfl, last, scheme, code, source, type, version, rfl, isScheme, isCode, isSource, isType, isVersion⟩
    refine ⟨[], _, rfl, ⟨rfl, rfl⟩, scheme, _, rfl, isScheme.symm, code, _, rfl, isCode, ['_'], _, rfl, rfl, source, _, rfl, isSource,
      type, _, rfl, isType.symm, version, [], (List.append_nil _).symm, isVersion.symm, [], [], rfl, ⟨rfl, ?_⟩, rfl⟩
    simpa only [closes, Bool.or_eq_true, decide_eq_true_iff, List.nil_append] using last

theorem finds_stream (station channel id : Text) :
    (∃ before middle behind, id = before ++ (middle ++ behind) ∧ Takes (sequence (streamItems station channel)) before middle behind) ↔
      Names station channel id := by
  simp only [takes_stream]
  constructor
  · rintro ⟨_, _, ending, same, rfl, last, scheme, code, source, type, version, rfl, isScheme, isCode, isSource, isType, isVersion⟩
    exact ⟨scheme, code, source, type, version, ending, same, isScheme, isCode, isSource, isType, isVersion, last⟩
  · rintro ⟨scheme, code, source, type, version, ending, same, isScheme, isCode, isSource, isType, isVersion, last⟩
    exact ⟨[], _, ending, same, rfl, last, scheme, code, source, type, version, rfl, isScheme, isCode, isSource, isType, isVersion⟩

theorem many_free (text : Text) : wildMatches point (wildcard ['*']) text = true ↔ '\n' ∉ text := by
  rw [show wildcard ['*'] = [.many] from rfl, matches_many]
  constructor
  · rintro ⟨front, behind, rfl, allFree, none⟩
    rw [(matches_nil point behind).mp none, List.append_nil]
    intro isMember
    exact absurd (allFree _ isMember) (by decide)
  · intro noFeed
    refine ⟨text, [], (List.append_nil text).symm, fun c isMember => ?_, rfl⟩
    rw [point, decide_eq_true_iff]
    exact fun same => noFeed (same ▸ isMember)

theorem names_any (station id : Text) : Names station ['*'] id ↔ Picks station id := by
  constructor
  · rintro ⟨scheme, code, source, type, version, ending, rfl, isScheme, isCode, isSource, isType, isVersion, last⟩
    refine ⟨scheme, code, source ++ (type ++ version), ending, rfl, isScheme, isCode, ?_, last⟩
    rw [List.mem_append, List.mem_append, not_or, not_or]
    refine ⟨(many_free source).mp isSource, ?_, ?_⟩
    · rcases isType with rfl | rfl <;> decide
    · rcases isVersion with rfl | rfl | rfl <;> decide
  · rintro ⟨scheme, code, behind, ending, same, isScheme, isCode, noFeed, last⟩
    refine ⟨scheme, code, behind, [], [], ending, ?_, isScheme, isCode, (many_free behind).mpr noFeed, .inl rfl, .inl rfl, last⟩
    rw [same, List.append_nil, List.append_nil]

theorem parse_stream (staid selector : Option Text) (plainStation : Plain (staid.getD ['*']))
    (plainChannel : Plain (selector.elim ['*'] positive)) :
    parse (buildStreamRegex staid selector) = some (sequence (streamItems (staid.getD ['*']) (selector.elim ['*'] positive))) := by
  have reads := read_stream staid selector plainStation plainChannel none false
  rw [parse, Reader.new, Branches.new, reads, Option.bind_some, Reader.finish]
  exact congrArg (fun items => some (sequence items)) (List.reverse_reverse _)

theorem takes_whole (past : Option (Regex Char)) (items : List (Regex Char)) (ready : Bool) (before middle behind : Text) :
    Takes (Branches.whole ⟨past, items.reverse, ready⟩) before middle behind ↔
      (∃ earlier, past = some earlier ∧ Takes earlier before middle behind) ∨ Takes (sequence items) before middle behind := by
  have whole : Branches.whole ⟨past, items.reverse, ready⟩ = past.elim (sequence items) fun earlier => .either earlier (sequence items) :=
    congrArg (fun items => past.elim (sequence items) fun earlier => .either earlier (sequence items)) (List.reverse_reverse items)
  rw [whole]
  cases past with
  | none =>
      constructor
      · exact fun takes => .inr takes
      · intro sides
        exact sides.resolve_left fun earlier => nomatch earlier
  | some earlier =>
      rw [Option.elim_some, takes_either]
      simp only [Option.some.injEq, exists_eq_left']

theorem read_stations (station : Text) (stations : List Text) (plain : ∀ staid ∈ station :: stations, Plain staid)
    (past : Option (Regex Char)) (ready : Bool) :
    ∃ top, (buildMultiStationRegex (station :: stations)).foldlM Reader.step ⟨[], ⟨past, [], ready⟩, .plain⟩ = some ⟨[], top, .plain⟩ ∧
      ∀ before middle behind, Takes top.whole before middle behind ↔
        (∃ earlier, past = some earlier ∧ Takes earlier before middle behind) ∨
          ∃ staid ∈ station :: stations, Takes (sequence (streamItems staid ['*'])) before middle behind := by
  induction stations generalizing station past ready with
  | nil =>
      have one : buildMultiStationRegex [station] = buildStreamRegex (some station) none := by
        rw [buildMultiStationRegex, List.map_singleton, List.intercalate_singleton]
      refine ⟨_, by rw [one]; exact read_stream (some station) none (plain station List.mem_cons_self) (by decide) past ready, ?_⟩
      intro before middle behind
      rw [takes_whole]
      simp only [List.mem_singleton, exists_eq_left]
      rfl
  | cons next stations ih =>
      have parts : buildMultiStationRegex (station :: next :: stations) =
          buildStreamRegex (some station) none ++ '|' :: buildMultiStationRegex (next :: stations) := rfl
      have first := read_stream (some station) none (plain station List.mem_cons_self) (by decide) past ready
      obtain ⟨top, rest, means⟩ := ih next (fun staid isMember => plain staid (List.mem_cons_of_mem station isMember))
        (some (Branches.whole ⟨past, (streamItems station ['*']).reverse, false⟩)) false
      refine ⟨top, ?_, fun before middle behind => ?_⟩
      · rw [parts, List.foldlM_append, first, Option.bind_eq_bind, Option.bind_some, List.foldlM_cons]
        exact rest
      · rw [means]
        simp only [Option.some.injEq, exists_eq_left', takes_whole, List.exists_mem_cons_iff, or_assoc]

theorem parse_stations (stations : List Text) (present : stations ≠ []) (plain : ∀ staid ∈ stations, Plain staid) :
    ∃ expression, parse (buildMultiStationRegex stations) = some expression ∧
      ∀ id, expression.found id = true ↔ ∃ staid ∈ stations, Picks staid id := by
  obtain ⟨station, rest, rfl⟩ := List.exists_cons_of_ne_nil present
  obtain ⟨top, reads, means⟩ := read_stations station rest plain none false
  refine ⟨top.whole, ?_, fun id => ?_⟩
  · rw [parse, Reader.new, Branches.new, reads, Option.bind_some, Reader.finish]
  · simp only [found_iff, means, ← names_any, ← finds_stream]
    constructor
    · rintro ⟨before, middle, behind, same, ⟨_, none, _⟩ | ⟨staid, isMember, takes⟩⟩
      · exact nomatch none
      · exact ⟨staid, isMember, before, middle, behind, same, takes⟩
    · rintro ⟨staid, isMember, before, middle, behind, same, takes⟩
      exact ⟨before, middle, behind, same, .inr ⟨staid, isMember, takes⟩⟩

end

theorem stations_nonempty (stations : List Text) (present : stations ≠ []) : (buildMultiStationRegex stations).isEmpty = false := by
  obtain ⟨station, rest, rfl⟩ := List.exists_cons_of_ne_nil present
  cases rest with
  | nil => rfl
  | cons next rest => rfl

theorem stations_compiled (engine : Engine) (speaks : Speaks engine) (stations : List Text) (present : stations ≠ [])
    (plain : ∀ staid ∈ stations, Plain staid) :
    ∃ code, RingBuffer.updatePattern engine (buildMultiStationRegex stations) = (true, some code) ∧
      ∀ id, code id = true ↔ ∃ staid ∈ stations, Picks staid id := by
  obtain ⟨expression, parsed, means⟩ := parse_stations stations present plain
  refine ⟨expression.found, ?_, means⟩
  rw [RingBuffer.updatePattern, stations_nonempty stations present, if_neg Bool.false_ne_true, speaks _ _ parsed]

theorem stream_compiled (engine : Engine) (speaks : Speaks engine) (staid selector : Option Text)
    (plainStation : Plain (staid.getD ['*'])) (plainChannel : Plain (selector.elim ['*'] positive)) :
    ∃ code, RingBuffer.updatePattern engine (buildStreamRegex staid selector) = (true, some code) ∧
      ∀ id, code id = true ↔ Names (staid.getD ['*']) (selector.elim ['*'] positive) id := by
  have parsed := parse_stream staid selector plainStation plainChannel
  refine ⟨_, ?_, fun id => (Regex.found_iff _ id).trans (finds_stream _ _ id)⟩
  rw [RingBuffer.updatePattern, show (buildStreamRegex staid selector).isEmpty = false from rfl, if_neg Bool.false_ne_true,
    speaks _ _ parsed]

def readEngine : Engine := { DataLink.plainEngine with compile := fun pattern => (Regex.parse pattern).map Regex.found }

theorem read_engine_speaks : Speaks readEngine := by
  intro pattern expression parsed
  exact (congrArg (Option.map Regex.found) parsed).trans rfl

end RingServer.SeedLink
