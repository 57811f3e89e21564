import RingServer.Protocols.SeedLinkStream
import RingServer.Protocols.StreamId
import RingServer.Protocols.SeedLinkReady

set_option autoImplicit false

namespace RingServer

open Library

structure Nslc where
  net : Text
  sta : Text
  loc : Text
  chan : Text
deriving DecidableEq

-- StartsWith("FDSN:", OrdinalIgnoreCase).
def stripScheme (streamId : Text) : Text :=
  if toUpperInvariant (streamId.take 5) = "FDSN:".toList then streamId.drop 5 else streamId

namespace MseedArchive

def padOrTruncate (s : Text) (len : Nat) : Text := if len < s.length then s.take len else s ++ List.replicate (len - s.length) ' '

-- The last slash, where it is not the first character.
def stripLastType (streamId : Text) : Text :=
  let upto := streamId.rdropWhile (· ≠ '/')
  if 1 < upto.length then upto.dropLast else streamId

def parseStreamId (streamId : Text) : Nslc :=
  let nothing : Nslc := ⟨"??".toList, "?????".toList, "00".toList, "???".toList⟩
  match (stripLastType (stripScheme streamId)).splitOnP fun c => c = '_' with
  | net :: sta :: loc :: chan :: _ => ⟨padOrTruncate net 2, padOrTruncate sta 5, padOrTruncate loc 2, padOrTruncate chan 3⟩
  | [net, sta, loc] => { nothing with net := padOrTruncate net 2, sta := padOrTruncate sta 5, loc := padOrTruncate loc 2 }
  | [net, sta] => { nothing with net := padOrTruncate net 2, sta := padOrTruncate sta 5 }
  | _ => nothing

end MseedArchive

namespace SeedLink

def stripType (sid : Text) : Text := sid.takeWhile (· ≠ '/')

def parseStationKey (sid : Text) : Text :=
  let sid := stripType (stripScheme sid)
  match sid.splitOnP fun c => c = '_' with
  | net :: sta :: _ :: _ => net ++ '_' :: sta
  | _ => sid

def parseStreamComponents (sid : Text) : Text × Text :=
  match (stripType (stripScheme sid)).splitOnP fun c => c = '_' with
  | _ :: _ :: loc :: band :: source :: subsource :: _ => (loc, band ++ source ++ subsource)
  | [_, _, loc, source, subsource] => (loc, loc ++ source ++ subsource)
  | _ :: _ :: loc :: _ => (loc, "   ".toList)
  | _ => ("  ".toList, "   ".toList)

def infoStream (streamId : Text) : Nslc :=
  let sid := trimBoth (fun c => c = Char.ofNat 0 || c = ' ') streamId
  let key := parseStationKey sid
  let (loc, seedname) := parseStreamComponents sid
  if key.contains '_' then ⟨key.takeWhile (· ≠ '_'), (key.dropWhile (· ≠ '_')).tail, loc, seedname⟩
  else ⟨[], key, loc, seedname⟩

end SeedLink

example : MseedArchive.parseStreamId "FDSN:VG_STNM0_00_E_H_Z/MSEED".toList =
    ⟨"VG".toList, "STNM0".toList, "00".toList, "E  ".toList⟩ := by decide

example : SeedLink.infoStream "FDSN:VG_STNM0_00_E_H_Z/MSEED".toList =
    ⟨"VG".toList, "STNM0".toList, "00".toList, "EHZ".toList⟩ := by decide

inductive SourceId where
  | fdsn (net sta loc band source subsource : Text) (type : Option Text)
  | legacy (net sta loc chan type : Text)

def joinFields : List Text → Text → Text
  | [], last => last
  | field :: rest, last => field ++ '_' :: joinFields rest last

def SourceId.text : SourceId → Text
  | .fdsn net sta loc band source subsource type =>
      "FDSN:".toList ++ joinFields [net, sta, loc, band, source] (subsource ++ (type.map ('/' :: ·)).getD [])
  | .legacy net sta loc chan type => joinFields [net, sta, loc] (chan ++ '/' :: type)

def SourceId.codes : SourceId → Nslc
  | .fdsn net sta loc band source subsource _ => ⟨net, sta, loc, band ++ source ++ subsource⟩
  | .legacy net sta loc chan _ => ⟨net, sta, loc, chan⟩

-- A code has letters, digits and dashes, and any length.
def isCodeChar (c : Char) : Bool := c.isAlphanum || c = '-'

def Code (text : Text) : Prop := text.all isCodeChar = true

def SourceId.WellFormed : SourceId → Prop
  | .fdsn net sta loc band source subsource type =>
      Code net ∧ Code sta ∧ Code loc ∧ Code band ∧ Code source ∧ Code subsource ∧ ∀ text, type = some text → Code text
  | .legacy net sta loc chan type => Code net ∧ Code sta ∧ Code loc ∧ Code chan ∧ Code type

def Denotes (shown codes : Nslc) : Prop :=
  shown.net.rdropWhile (· = ' ') = codes.net ∧ shown.sta.rdropWhile (· = ' ') = codes.sta ∧
    shown.loc.rdropWhile (· = ' ') = codes.loc ∧ shown.chan.rdropWhile (· = ' ') = codes.chan

-- The archive, INFO and the header of SeedLink 4, and the form that WRITE makes of it.
structure Agrees (around : Surroundings) (id : SourceId) : Prop where
  archive : Denotes (MseedArchive.parseStreamId id.text) id.codes
  info : Denotes (SeedLink.infoStream id.text) id.codes
  header : SeedLink.stationId around (id.text.rdropWhile fun c => c = Char.ofNat 0 || c = ' ') = id.codes.net ++ '_' :: id.codes.sta
  rewriting : DataLink.sourceCodes (DataLink.canonicalStreamId id.text) = DataLink.sourceCodes id.text

def FitsColumns : SourceId → Prop
  | .fdsn net sta loc band source subsource _ =>
      net.length ≤ 2 ∧ sta.length ≤ 5 ∧ loc.length ≤ 2 ∧ band.length ≤ 3 ∧ source = [] ∧ subsource = []
  | .legacy _ _ _ _ _ => False

-- Where the culture compares these characters by their codes.
def OrdinalCulture (around : Surroundings) : Prop := ∀ text : Text, (∀ c ∈ text, isCodeChar c = true ∨ c ∈ "_:/".toList) →
  around.startsWithFdsn text = "FDSN:".toList.isPrefixOf text

theorem code_apart (text : Text) (code : Code text) (c : Char) (other : isCodeChar c = false) : c ∉ text := by
  intro member
  rw [List.all_eq_true.mp code c member] at other
  cases other

theorem code_bare (text : Text) (code : Code text) : DataLink.Bare text := by
  intro c member
  constructor
  · apply decide_eq_false
    rintro rfl
    exact code_apart text code '_' (by decide) member
  · rintro rfl
    exact code_apart text code ':' (by decide) member

theorem join_append (fields : List Text) (last more : Text) : joinFields fields last ++ more = joinFields fields (last ++ more) := by
  induction fields with
  | nil => rfl
  | cons field rest ih => rw [joinFields, joinFields, List.append_assoc, List.cons_append, ih]

theorem split_join (fields : List Text) (last : Text) (plain : ∀ field ∈ fields, DataLink.Bare field) (plainLast : DataLink.Bare last) :
    (joinFields fields last).splitOnP (fun c => c = '_') = fields ++ [last] := by
  induction fields with
  | nil => exact DataLink.split_last last plainLast
  | cons field rest ih =>
      rw [joinFields, DataLink.split_field field _ (plain field List.mem_cons_self),
        ih fun other member => plain other (List.mem_cons_of_mem _ member)]
      rfl

theorem join_member (fields : List Text) (last : Text) (c : Char) (member : c ∈ joinFields fields last) :
    c = '_' ∨ c ∈ last ∨ ∃ field ∈ fields, c ∈ field := by
  induction fields with
  | nil => exact .inr (.inl member)
  | cons field rest ih =>
      rw [joinFields, List.mem_append, List.mem_cons] at member
      rcases member with inside | rfl | behind
      · exact .inr (.inr ⟨field, List.mem_cons_self, inside⟩)
      · exact .inl rfl
      · rcases ih behind with sep | inLast | ⟨other, isOther, inside⟩
        · exact .inl sep
        · exact .inr (.inl inLast)
        · exact .inr (.inr ⟨other, List.mem_cons_of_mem _ isOther, inside⟩)

theorem strip_scheme (streamId : Text) : stripScheme ("FDSN:".toList ++ streamId) = streamId := rfl

theorem rdrop_append (drop : Char → Bool) (before after : Text) (all : ∀ c ∈ after, drop c = true) :
    (before ++ after).rdropWhile drop = before.rdropWhile drop := by
  rw [List.rdropWhile, List.rdropWhile, List.reverse_append,
    List.dropWhile_append_of_pos fun c member => all c (List.mem_reverse.mp member)]

theorem rdrop_none (drop : Char → Bool) (text : Text) (none : ∀ c ∈ text, drop c = false) : text.rdropWhile drop = text := by
  apply List.rdropWhile_eq_self_iff.mpr
  intro some
  rw [none _ (List.getLast_mem some)]
  exact Bool.false_ne_true

theorem strip_last_type (body type : Text) (some : body ≠ []) (plain : '/' ∉ type) :
    MseedArchive.stripLastType (body ++ '/' :: type) = body := by
  have upto : (body ++ '/' :: type).rdropWhile (· ≠ '/') = body ++ ['/'] := by
    rw [← List.singleton_append, ← List.append_assoc, rdrop_append]
    · exact List.rdropWhile_concat_neg _ _ _ (by decide)
    · intro c member
      apply decide_eq_true
      rintro rfl
      exact plain member
  rw [MseedArchive.stripLastType, upto, if_pos, List.dropLast_concat]
  have positive := List.length_pos_iff.mpr some
  rw [List.length_append, List.length_singleton]
  omega

theorem strip_last_type_plain (body : Text) (plain : '/' ∉ body) : MseedArchive.stripLastType body = body := by
  have upto : body.rdropWhile (· ≠ '/') = [] := by
    apply List.rdropWhile_eq_nil_iff.mpr
    intro c member
    apply decide_eq_true
    rintro rfl
    exact plain member
  rw [MseedArchive.stripLastType, upto, if_neg (by decide)]

theorem take_while_before (stop : Char) (before after : Text) (plain : stop ∉ before) :
    (before ++ stop :: after).takeWhile (· ≠ stop) = before := by
  rw [List.takeWhile_append_of_pos, List.takeWhile_cons_of_neg (by simp), List.append_nil]
  intro c member
  apply decide_eq_true
  rintro rfl
  exact plain member

theorem drop_while_before (stop : Char) (before after : Text) (plain : stop ∉ before) :
    (before ++ stop :: after).dropWhile (· ≠ stop) = stop :: after := by
  rw [List.dropWhile_append_of_pos, List.dropWhile_cons_of_neg (by simp)]
  intro c member
  apply decide_eq_true
  rintro rfl
  exact plain member

theorem strip_type (body type : Text) (plain : '/' ∉ body) : SeedLink.stripType (body ++ '/' :: type) = body :=
  take_while_before '/' body type plain

theorem strip_type_plain (body : Text) (plain : '/' ∉ body) : SeedLink.stripType body = body := by
  apply List.takeWhile_eq_self_iff.mpr
  intro c member
  apply decide_eq_true
  rintro rfl
  exact plain member

theorem code_no_blank (text : Text) (code : Code text) : ∀ c ∈ text, decide (c = ' ') = false := by
  intro c member
  apply decide_eq_false
  rintro rfl
  exact code_apart text code ' ' (by decide) member

theorem pad_shows (code shown : Text) (len : Nat) (isCode : Code code) (isPrefix : code <+: shown) :
    (MseedArchive.padOrTruncate code len).rdropWhile (· = ' ') = shown ↔ code.length ≤ len ∧ shown = code := by
  have blanks := code_no_blank code isCode
  rw [MseedArchive.padOrTruncate]
  by_cases long : len < code.length
  · rw [if_pos long, rdrop_none _ _ fun c member => blanks c (List.mem_of_mem_take member)]
    constructor
    · intro same
      have shorter := isPrefix.length_le
      rw [← same, List.length_take] at shorter
      omega
    · exact fun fits => absurd fits.1 (Nat.not_le_of_lt long)
  · have filled : (code ++ List.replicate (len - code.length) ' ').rdropWhile (· = ' ') = code := by
      rw [rdrop_append, rdrop_none _ _ blanks]
      exact fun c member => decide_eq_true (List.eq_of_mem_replicate member)
    rw [if_neg long, filled]
    constructor
    · exact fun same => ⟨Nat.le_of_not_lt long, same.symm⟩
    · exact fun fits => fits.2.symm

section

variable (fields : List Text) (last type : Text) (codes : ∀ field ∈ fields, Code field) (codeLast : Code last) (codeType : Code type)

include codes codeLast

theorem join_apart (c : Char) (other : isCodeChar c = false) (notSep : c ≠ '_') : c ∉ joinFields fields last := by
  intro member
  rcases join_member fields last c member with sep | inLast | ⟨field, isField, inside⟩
  · exact notSep sep
  · exact code_apart last codeLast c other inLast
  · exact code_apart field (codes field isField) c other inside

theorem join_split : (joinFields fields last).splitOnP (fun c => c = '_') = fields ++ [last] :=
  split_join fields last (fun field member => code_bare field (codes field member)) (code_bare last codeLast)

end

theorem fdsn_text (net sta loc band source subsource : Text) (type : Option Text) :
    (SourceId.fdsn net sta loc band source subsource type).text =
      "FDSN:".toList ++ (joinFields [net, sta, loc, band, source] subsource ++ (type.map ('/' :: ·)).getD []) := by
  rw [SourceId.text, join_append]

theorem legacy_text (net sta loc chan type : Text) :
    (SourceId.legacy net sta loc chan type).text = joinFields [net, sta, loc] chan ++ '/' :: type := by
  rw [SourceId.text, join_append]

theorem text_plain (id : SourceId) (well : id.WellFormed) : ∀ c ∈ id.text, isCodeChar c = true ∨ c ∈ "_:/".toList := by
  have inside (text : Text) (code : Code text) (c : Char) (member : c ∈ text) : isCodeChar c = true := List.all_eq_true.mp code c member
  intro c member
  cases id with
  | fdsn net sta loc band source subsource type =>
      obtain ⟨codeNet, codeSta, codeLoc, codeBand, codeSource, codeSubsource, codeType⟩ := well
      rw [fdsn_text, List.mem_append, List.mem_append] at member
      rcases member with scheme | body | suffix
      · simp at scheme
        rcases scheme with rfl | rfl | rfl | rfl | rfl
        all_goals decide
      · rcases join_member _ _ c body with rfl | inLast | ⟨field, isField, inField⟩
        · exact .inr (by decide)
        · exact .inl (inside subsource codeSubsource c inLast)
        · simp only [List.mem_cons, List.not_mem_nil, or_false] at isField
          rcases isField with rfl | rfl | rfl | rfl | rfl
          · exact .inl (inside _ codeNet c inField)
          · exact .inl (inside _ codeSta c inField)
          · exact .inl (inside _ codeLoc c inField)
          · exact .inl (inside _ codeBand c inField)
          · exact .inl (inside _ codeSource c inField)
      · cases type with
        | none => cases suffix
        | some text =>
            rcases List.mem_cons.mp suffix with rfl | inType
            · exact .inr (by decide)
            · exact .inl (inside text (codeType text rfl) c inType)
  | legacy net sta loc chan type =>
      obtain ⟨codeNet, codeSta, codeLoc, codeChan, codeType⟩ := well
      rw [legacy_text, List.mem_append, List.mem_cons] at member
      rcases member with body | rfl | inType
      · rcases join_member _ _ c body with rfl | inLast | ⟨field, isField, inField⟩
        · exact .inr (by decide)
        · exact .inl (inside chan codeChan c inLast)
        · simp only [List.mem_cons, List.not_mem_nil, or_false] at isField
          rcases isField with rfl | rfl | rfl
          · exact .inl (inside _ codeNet c inField)
          · exact .inl (inside _ codeSta c inField)
          · exact .inl (inside _ codeLoc c inField)
      · exact .inr (by decide)
      · exact .inl (inside type codeType c inType)

theorem text_not_blank (id : SourceId) (well : id.WellFormed) :
    ∀ c ∈ id.text, (decide (c = Char.ofNat 0) || decide (c = ' ')) = false := by
  intro c member
  have plain := text_plain id well c member
  apply Bool.or_eq_false_iff.mpr
  constructor
  · apply decide_eq_false
    rintro rfl
    revert plain
    decide
  · apply decide_eq_false
    rintro rfl
    revert plain
    decide

theorem trim_text (id : SourceId) (well : id.WellFormed) : trimBoth (fun c => c = Char.ofNat 0 || c = ' ') id.text = id.text ∧
    id.text.rdropWhile (fun c => c = Char.ofNat 0 || c = ' ') = id.text := by
  have plain := text_not_blank id well
  have back : id.text.rdropWhile (fun c => c = Char.ofNat 0 || c = ' ') = id.text := rdrop_none _ _ plain
  have front : id.text.dropWhile (fun c => c = Char.ofNat 0 || c = ' ') = id.text := by
    apply List.dropWhile_eq_self_iff.mpr
    intro some
    rw [plain _ (List.getElem_mem some)]
    exact Bool.false_ne_true
  refine ⟨?_, back⟩
  rw [trimBoth, front, back]

theorem contains_sep (before after : Text) : (before ++ '_' :: after).contains '_' = true := by
  simp

theorem info_stream_of (sid net sta loc : Text) (rest : List Text) (components : Text × Text)
    (trimmed : trimBoth (fun c => c = Char.ofNat 0 || c = ' ') sid = sid)
    (split : (SeedLink.stripType (stripScheme sid)).splitOnP (fun c => c = '_') = net :: sta :: loc :: rest) (codeNet : Code net)
    (isComponents : SeedLink.parseStreamComponents sid = components) :
    SeedLink.infoStream sid = ⟨net, sta, components.1, components.2⟩ := by
  have key : SeedLink.parseStationKey sid = net ++ '_' :: sta := by
    rw [SeedLink.parseStationKey, split]
  have free : '_' ∉ net := code_apart net codeNet '_' (by decide)
  rw [SeedLink.infoStream, trimmed, isComponents, key]
  dsimp only
  rw [contains_sep, if_pos rfl, take_while_before '_' net sta free, drop_while_before '_' net sta free]
  rfl

section

variable (net sta loc band source subsource : Text) (type : Option Text)
  (well : (SourceId.fdsn net sta loc band source subsource type).WellFormed)

include well

theorem fdsn_fields : ∀ field ∈ [net, sta, loc, band, source], Code field := by
  obtain ⟨codeNet, codeSta, codeLoc, codeBand, codeSource, -⟩ := well
  intro field isField
  simp only [List.mem_cons, List.not_mem_nil, or_false] at isField
  rcases isField with rfl | rfl | rfl | rfl | rfl
  · exact codeNet
  · exact codeSta
  · exact codeLoc
  · exact codeBand
  · exact codeSource

theorem fdsn_body :
    MseedArchive.stripLastType (stripScheme (SourceId.fdsn net sta loc band source subsource type).text) =
      joinFields [net, sta, loc, band, source] subsource ∧
    SeedLink.stripType (stripScheme (SourceId.fdsn net sta loc band source subsource type).text) =
      joinFields [net, sta, loc, band, source] subsource := by
  have codes := fdsn_fields net sta loc band source subsource type well
  obtain ⟨-, -, -, -, -, codeSubsource, codeType⟩ := well
  have noSlash := join_apart _ _ codes codeSubsource '/' (by decide) (by decide)
  rw [fdsn_text, strip_scheme]
  cases type with
  | none =>
      rw [Option.map_none, Option.getD_none, List.append_nil]
      exact ⟨strip_last_type_plain _ noSlash, strip_type_plain _ noSlash⟩
  | some text =>
      have plain : '/' ∉ text := code_apart text (codeType text rfl) '/' (by decide)
      have some : joinFields [net, sta, loc, band, source] subsource ≠ [] := by simp [joinFields]
      exact ⟨strip_last_type _ text some plain, strip_type _ text noSlash⟩

theorem fdsn_split : (joinFields [net, sta, loc, band, source] subsource).splitOnP (fun c => c = '_') =
    [net, sta, loc, band, source, subsource] :=
  join_split _ _ (fdsn_fields net sta loc band source subsource type well) well.2.2.2.2.2.1

theorem fdsn_archive : MseedArchive.parseStreamId (SourceId.fdsn net sta loc band source subsource type).text =
    ⟨MseedArchive.padOrTruncate net 2, MseedArchive.padOrTruncate sta 5, MseedArchive.padOrTruncate loc 2,
      MseedArchive.padOrTruncate band 3⟩ := by
  rw [MseedArchive.parseStreamId, (fdsn_body net sta loc band source subsource type well).1,
    fdsn_split net sta loc band source subsource type well]

theorem fdsn_info : SeedLink.infoStream (SourceId.fdsn net sta loc band source subsource type).text =
    ⟨net, sta, loc, band ++ source ++ subsource⟩ := by
  have body := (fdsn_body net sta loc band source subsource type well).2
  have fields := fdsn_split net sta loc band source subsource type well
  have components : SeedLink.parseStreamComponents (SourceId.fdsn net sta loc band source subsource type).text =
      (loc, band ++ source ++ subsource) := by
    rw [SeedLink.parseStreamComponents, body, fields]
  exact info_stream_of _ net sta loc [band, source, subsource] _ (trim_text _ well).1 (by rw [body, fields]) well.1 components

theorem fdsn_header (around : Surroundings) (ordinal : OrdinalCulture around) :
    SeedLink.stationId around ((SourceId.fdsn net sta loc band source subsource type).text.rdropWhile
      fun c => c = Char.ofNat 0 || c = ' ') = net ++ '_' :: sta := by
  have codes := fdsn_fields net sta loc band source subsource type well
  have scheme : around.startsWithFdsn (SourceId.fdsn net sta loc band source subsource type).text = true := by
    rw [ordinal _ (text_plain _ well), fdsn_text]
    rfl
  have codeSubsource := well.2.2.2.2.2.1
  have suffix : DataLink.Bare (subsource ++ (type.map ('/' :: ·)).getD []) := by
    apply DataLink.bare_append _ _ (code_bare _ codeSubsource)
    cases type with
    | none => exact fun c member => absurd member List.not_mem_nil
    | some text => exact DataLink.bare_append ['/'] text (DataLink.bare_of_all _ rfl) (code_bare text (well.2.2.2.2.2.2 text rfl))
  have body : (joinFields [net, sta, loc, band, source] (subsource ++ (type.map ('/' :: ·)).getD [])).splitOnP (fun c => c = '_') =
      [net, sta, loc, band, source, subsource ++ (type.map ('/' :: ·)).getD []] :=
    split_join _ _ (fun field member => code_bare field (codes field member)) suffix
  have noColon : ':' ∉ joinFields [net, sta, loc, band, source] (subsource ++ (type.map ('/' :: ·)).getD []) := by
    intro member
    rcases join_member _ _ ':' member with sep | inLast | ⟨field, isField, inside⟩
    · exact absurd sep (by decide)
    · exact (suffix ':' inLast).2 rfl
    · exact code_apart field (codes field isField) ':' (by decide) inside
  have parts : (SourceId.fdsn net sta loc band source subsource type).text.splitOnP (fun c => c = ':') =
      ["FDSN".toList, joinFields [net, sta, loc, band, source] (subsource ++ (type.map ('/' :: ·)).getD [])] := by
    have whole : (SourceId.fdsn net sta loc band source subsource type).text =
        "FDSN".toList ++ ':' :: joinFields [net, sta, loc, band, source] (subsource ++ (type.map ('/' :: ·)).getD []) := rfl
    have noColonScheme : ':' ∉ "FDSN".toList := by decide
    have apart : ∀ c ∈ "FDSN".toList, decide (c = ':') = false := by
      intro c member
      apply decide_eq_false
      rintro rfl
      exact noColonScheme member
    rw [whole, List.splitOnP_append_cons_of_forall_mem apart ':' (by decide), List.splitOnP_eq_singleton]
    intro c member
    apply decide_eq_false
    rintro rfl
    exact noColon member
  rw [(trim_text _ well).2, SeedLink.stationId, if_pos scheme, parts]
  dsimp only
  rw [List.getLastD_cons, List.getLastD_cons, List.getLastD_nil, body]
  rfl

end

theorem legacy_header (around : Surroundings) (ordinal : OrdinalCulture around) (net sta loc chan type : Text)
    (well : (SourceId.legacy net sta loc chan type).WellFormed) :
    SeedLink.stationId around ((SourceId.legacy net sta loc chan type).text.rdropWhile fun c => c = Char.ofNat 0 || c = ' ') ≠
      net ++ '_' :: sta := by
  have noScheme : around.startsWithFdsn (SourceId.legacy net sta loc chan type).text = false := by
    rw [ordinal _ (text_plain _ well), legacy_text, Bool.eq_false_iff]
    intro scheme
    have member : ':' ∈ joinFields [net, sta, loc] chan ++ '/' :: type := (List.isPrefixOf_iff_prefix.mp scheme).mem (by decide)
    obtain ⟨codeNet, codeSta, codeLoc, codeChan, codeType⟩ := well
    have codes : ∀ field ∈ [net, sta, loc], Code field := by
      intro field isField
      simp only [List.mem_cons, List.not_mem_nil, or_false] at isField
      rcases isField with rfl | rfl | rfl
      · exact codeNet
      · exact codeSta
      · exact codeLoc
    rw [List.mem_append, List.mem_cons] at member
    rcases member with inBody | isSlash | inType
    · exact join_apart _ _ codes codeChan ':' (by decide) (by decide) inBody
    · exact absurd isSlash (by decide)
    · exact code_apart type codeType ':' (by decide) inType
  rw [(trim_text _ well).2, SeedLink.stationId, noScheme, if_neg Bool.false_ne_true, legacy_text]
  intro same
  have length := congrArg List.length same
  simp only [joinFields, List.length_append, List.length_cons] at length
  omega

theorem parsers_agree_iff (around : Surroundings) (ordinal : OrdinalCulture around) (id : SourceId) (well : id.WellFormed) :
    Agrees around id ↔ FitsColumns id := by
  cases id with
  | legacy net sta loc chan type =>
      exact iff_of_false (fun agrees => legacy_header around ordinal net sta loc chan type well agrees.header) id
  | fdsn net sta loc band source subsource type =>
      have archive := fdsn_archive net sta loc band source subsource type well
      have info := fdsn_info net sta loc band source subsource type well
      have header := fdsn_header net sta loc band source subsource type well around ordinal
      obtain ⟨codeNet, codeSta, codeLoc, codeBand, codeSource, codeSubsource, codeType⟩ := well
      have shows (code : Text) (len : Nat) (isCode : Code code) :
          (MseedArchive.padOrTruncate code len).rdropWhile (· = ' ') = code ↔ code.length ≤ len := by
        rw [pad_shows code code len isCode (List.prefix_refl code)]
        exact and_iff_left rfl
      have chan : (MseedArchive.padOrTruncate band 3).rdropWhile (· = ' ') = band ++ source ++ subsource ↔
          band.length ≤ 3 ∧ source = [] ∧ subsource = [] := by
        rw [pad_shows band _ 3 codeBand (List.append_assoc .. ▸ List.prefix_append band _), List.append_assoc, List.append_right_eq_self,
          List.append_eq_nil_iff]
      have columns : Denotes (MseedArchive.parseStreamId (SourceId.fdsn net sta loc band source subsource type).text)
          ⟨net, sta, loc, band ++ source ++ subsource⟩ ↔ FitsColumns (.fdsn net sta loc band source subsource type) := by
        rw [archive, Denotes, FitsColumns]
        dsimp only
        rw [shows net 2 codeNet, shows sta 5 codeSta, shows loc 2 codeLoc, chan]
      constructor
      · exact fun agrees => columns.mp agrees.archive
      · intro fits
        refine ⟨columns.mpr fits, ?_, header, DataLink.canonical_source _⟩
        rw [info]
        have codeChan : Code (band ++ source ++ subsource) := by
          rw [Code, List.all_append, List.all_append, Bool.and_eq_true, Bool.and_eq_true]
          exact ⟨⟨codeBand, codeSource⟩, codeSubsource⟩
        exact ⟨rdrop_none _ _ (code_no_blank net codeNet), rdrop_none _ _ (code_no_blank sta codeSta),
          rdrop_none _ _ (code_no_blank loc codeLoc), rdrop_none _ _ (code_no_blank _ codeChan)⟩

def ordinalAround : Surroundings := { SeedLink.quiet with startsWithFdsn := fun streamId => "FDSN:".toList.isPrefixOf streamId }

theorem band_only_agrees : Agrees ordinalAround (.fdsn "IU".toList "ANMO".toList "00".toList "LOG".toList [] [] (some "MSEED".toList)) := by
  apply (parsers_agree_iff ordinalAround (fun _ _ => rfl) _ ?_).mpr
  · exact ⟨by decide, by decide, by decide, by decide, rfl, rfl⟩
  · refine ⟨rfl, rfl, rfl, rfl, rfl, rfl, fun text isType => ?_⟩
    cases isType
    rfl

-- The stream ID of the comments in the source.
def commented : SourceId := .fdsn "VG".toList "STNM0".toList "00".toList ['E'] ['H'] ['Z'] (some "MSEED".toList)

theorem channel_filed_as_band : OrdinalCulture ordinalAround ∧ commented.WellFormed ∧ ¬ Agrees ordinalAround commented := by
  refine ⟨fun _ _ => rfl, ⟨rfl, rfl, rfl, rfl, rfl, rfl, fun text isType => by cases isType; rfl⟩, fun agrees => ?_⟩
  exact absurd agrees.archive.2.2.2 (by decide)

end RingServer
