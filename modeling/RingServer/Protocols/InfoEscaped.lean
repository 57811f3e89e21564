import RingServer.Protocols.InfoListing
import RingServer.Protocols.SeedLinkDecode

set_option autoImplicit false

namespace RingServer

open Library Xml

theorem verbatim_digits (text : Text) (allDigits : ∀ c ∈ text, c.isDigit = true) : Verbatim text := by
  rw [Verbatim, List.all_eq_true]
  intro c member
  have digit := allDigits c member
  rw [Char.isDigit, Bool.and_eq_true, decide_eq_true_iff, decide_eq_true_iff] at digit
  have low : 48 ≤ c.toNat := digit.1
  have high : c.toNat ≤ 57 := digit.2
  have apart (d : Char) (other : d.toNat < 48 ∨ 57 < d.toNat) : decide (c = d) = false := by
    apply decide_eq_false
    rintro rfl
    omega
  rw [isPrintable, isMarkup, apart '&' (by decide), apart '<' (by decide), apart quotation (by decide), decide_eq_true (by omega),
    decide_eq_true (by omega), decide_eq_true (by omega)]
  rfl

theorem verbatim_decimal (n : Nat) : Verbatim (decimal n) := verbatim_digits _ (decimal_digits n)

theorem verbatim_decimal_int (z : Int) : Verbatim (decimalInt z) := by
  rw [decimalInt]
  split
  · exact verbatim_append ['-'] _ rfl (verbatim_decimal z.natAbs)
  · exact verbatim_decimal z.natAbs

theorem verbatim_iso_string (formats : Formats) (t : NsTime) : Verbatim (NsTime.toIsoString formats t) := by
  rw [NsTime.toIsoString]
  split
  · rfl
  · split
    · rfl
    · exact verbatim_append _ _ (formats.dateTimeVerbatim t.value) rfl

theorem verbatim_printable (text : Text) (verbatim : Verbatim text) : Printable text := ((verbatim_parts text).mp verbatim).1

theorem sound_values (name : String) (values : List (String × Text)) (names : List String) (isNames : values.map Prod.fst = names)
    (well : wellNamed name.toList (names.map String.toList) = true) :
    (Tag.start name.toList (attributesOf values)).sound = true ∧ (Tag.empty name.toList (attributesOf values)).sound = true := by
  have same : (attributesOf values).map Prod.fst = names.map String.toList := by
    rw [attributesOf, ← isNames, List.map_map, List.map_map]
    rfl
  rw [Tag.sound, Tag.sound]
  exact ⟨same ▸ well, same ▸ well⟩

namespace SeedLink

theorem replace_append (c : Char) (newValue s t : Text) : replace c newValue (s ++ t) = replace c newValue s ++ replace c newValue t :=
  List.flatMap_append

theorem escape_xml_append (s t : Text) : escapeXml (s ++ t) = escapeXml s ++ escapeXml t := by
  simp only [escapeXml, replace_append]

theorem escape_xml_char (c : Char) : escapeXml [c] = escapeChar c := by
  have single (d : Char) (newValue : Text) : replace d newValue [c] = if c = d then newValue else [c] := List.flatMap_singleton ..
  by_cases ampersand : c = '&'
  · rw [ampersand]; rfl
  · by_cases less : c = '<'
    · rw [less]; rfl
    · by_cases greater : c = '>'
      · rw [greater]; rfl
      · by_cases double : c = quotation
        · rw [double]; rfl
        · by_cases single : c = apostrophe
          · rw [single]; rfl
          · simp only [escapeXml, escapeChar, *, if_false]

theorem escape_xml (s : Text) : escapeXml s = s.flatMap escapeChar := by
  induction s with
  | nil => rfl
  | cons c s ih =>
      have split : c :: s = [c] ++ s := rfl
      rw [split, escape_xml_append, ih, escape_xml_char, List.flatMap_append, List.flatMap_singleton]

theorem escape_xml_spells (s : Text) (printable : Printable s) : Spells (escapeXml s) s := by
  rw [escape_xml]
  exact escape_spells s printable

theorem verbatim_spells (text : Text) (verbatim : Verbatim text) : Spells text text :=
  unmarked_spells text ((verbatim_parts text).mp verbatim).1 ((verbatim_parts text).mp verbatim).2

inductive ValuesSpell : List (String × Text) → List (String × Text) → Prop where
  | nil : ValuesSpell [] []
  | cons (name : String) (raw value : Text) (raws values : List (String × Text)) (spells : Spells raw value)
      (others : ValuesSpell raws values) : ValuesSpell ((name, raw) :: raws) ((name, value) :: values)

theorem values_spell (raws values : List (String × Text)) (each : ValuesSpell raws values) :
    AttributesSpell (attributesOf raws) (attributesOf values) := by
  induction each with
  | nil => exact .nil
  | cons name raw value raws values spells others ih => exact .cons ⟨rfl, spells⟩ ih

theorem spell_escaped (name : String) (value : Text) (raws values : List (String × Text)) (printable : Printable value)
    (others : ValuesSpell raws values) : ValuesSpell ((name, escapeXml value) :: raws) ((name, id value) :: values) :=
  .cons name _ _ raws values (escape_xml_spells value printable) others

theorem spell_verbatim (name : String) (value : Text) (raws values : List (String × Text)) (verbatim : Verbatim value)
    (others : ValuesSpell raws values) : ValuesSpell ((name, value) :: raws) ((name, value) :: values) :=
  .cons name _ _ raws values (verbatim_spells value verbatim) others

theorem bare_id_part (st : RingStream) : stripType (stripScheme (trimmedId st)) ⊆ st.streamId := by
  have trimmed : trimmedId st ⊆ st.streamId := fun c member =>
    List.dropWhile_subset _ ((List.rdropWhile_prefix _ _).subset member)
  intro c member
  have inScheme : c ∈ stripScheme (trimmedId st) := List.takeWhile_subset _ member
  rw [stripScheme] at inScheme
  split at inScheme
  · exact trimmed (List.mem_of_mem_drop inScheme)
  · exact trimmed inScheme

theorem station_key_part (st : RingStream) : stationKey st ⊆ st.streamId := by
  have part := bare_id_part st
  rw [stationKey, parseStationKey]
  split
  · next net sta loc rest isSplit => exact fun c member => part ((split_front _ net sta _ isSplit).subset member)
  · exact part

theorem components_printable (st : RingStream) (printable : Printable st.streamId) :
    Printable (parseStreamComponents (trimmedId st)).1 ∧ Printable (parseStreamComponents (trimmedId st)).2 := by
  have piece (part : Text) (member : part ∈ (stripType (stripScheme (trimmedId st))).splitOnP fun c => c = '_') : Printable part :=
    fun c inside => printable c (bare_id_part st ((split_piece _ _ part member).subset inside))
  have joined (first second : Text) (one : Printable first) (two : Printable second) : Printable (first ++ second) := by
    intro c member
    rcases List.mem_append.mp member with inFirst | inSecond
    · exact one c inFirst
    · exact two c inSecond
  have blanks (text : Text) (verbatim : Verbatim text) : Printable text := verbatim_printable text verbatim
  rw [parseStreamComponents]
  split
  · next net sta loc band source subsource rest isSplit =>
    rw [isSplit] at piece
    exact ⟨piece loc (by simp), joined _ _ (joined _ _ (piece band (by simp)) (piece source (by simp))) (piece subsource (by simp))⟩
  · next net sta loc source subsource isSplit =>
    rw [isSplit] at piece
    exact ⟨piece loc (by simp), joined _ _ (joined _ _ (piece loc (by simp)) (piece source (by simp))) (piece subsource (by simp))⟩
  · next net sta loc rest longer five isSplit =>
    rw [isSplit] at piece
    exact ⟨piece loc (by simp), blanks _ rfl⟩
  · exact ⟨blanks _ rfl, blanks _ rfl⟩

theorem verbatim_stream_time (formats : Formats) (t : NsTime) : Verbatim (streamTime formats t) := by
  rw [streamTime]
  split
  · rfl
  · exact verbatim_iso_string formats t

section

variable (listed : Listed)

theorem seedlink_values_spell (org : Printable (listed.serverId.getD "RingServer".toList)) :
    AttributesSpell (seedlinkValues escapeXml listed) (seedlinkValues id listed) := by
  apply values_spell
  refine spell_escaped _ _ _ _ (verbatim_printable slServerId rfl) ?_
  refine spell_escaped _ _ _ _ org ?_
  exact spell_verbatim _ _ _ _ listed.formats.utcNowVerbatim .nil

theorem station_values_spell (key : Text) (streams : List RingStream) (printable : Printable key) :
    AttributesSpell (stationValues escapeXml key streams) (stationValues id key streams) := by
  have parts : Printable (splitKey key).1 ∧ Printable (splitKey key).2 := by
    rw [splitKey]
    split
    · refine ⟨fun c member => printable c (List.takeWhile_subset _ member), fun c member => printable c ?_⟩
      exact List.dropWhile_subset _ (List.mem_of_mem_tail member)
    · exact ⟨fun c member => absurd member List.not_mem_nil, printable⟩
  have described : Spells ("Station ID ".toList ++ escapeXml key) ("Station ID ".toList ++ key) := by
    have plain : escapeXml "Station ID ".toList = "Station ID ".toList := by decide
    have whole : "Station ID ".toList ++ escapeXml key = escapeXml ("Station ID ".toList ++ key) := by
      rw [escape_xml_append, plain]
    rw [whole]
    apply escape_xml_spells
    intro c member
    rcases List.mem_append.mp member with inLabel | inKey
    · exact verbatim_printable "Station ID ".toList rfl c inLabel
    · exact printable c inKey
  apply values_spell
  refine spell_escaped _ _ _ _ parts.2 ?_
  refine spell_escaped _ _ _ _ parts.1 ?_
  refine .cons _ _ _ _ _ described ?_
  refine spell_verbatim _ _ _ _ (verbatim_decimal _) ?_
  refine spell_verbatim _ _ _ _ (verbatim_decimal _) ?_
  exact spell_verbatim _ _ _ _ rfl .nil

theorem stream_values_spell (s : RingStream) (printable : Printable s.streamId) :
    AttributesSpell (streamValues escapeXml listed s) (streamValues id listed s) := by
  obtain ⟨loc, seedname⟩ := components_printable s printable
  have time (t : NsTime) : Printable (streamTime listed.formats t) := verbatim_printable _ (verbatim_stream_time listed.formats t)
  apply values_spell
  refine spell_escaped _ _ _ _ loc ?_
  refine spell_escaped _ _ _ _ seedname ?_
  refine spell_verbatim _ _ _ _ rfl ?_
  refine spell_escaped _ _ _ _ (time s.earliestDsTime) ?_
  exact spell_escaped _ _ _ _ (time s.latestDeTime) .nil

theorem client_values_spell (tc : ClientStatus) : AttributesSpell (clientValues tc) (clientValues tc) := by
  have named : Verbatim (network tc) := by
    rw [network]
    split <;> rfl
  apply values_spell
  refine spell_verbatim _ _ _ _ rfl ?_
  refine spell_verbatim _ _ _ _ named ?_
  refine spell_verbatim _ _ _ _ rfl ?_
  refine spell_verbatim _ _ _ _ rfl ?_
  refine spell_verbatim _ _ _ _ rfl ?_
  exact spell_verbatim _ _ _ _ rfl .nil

theorem connection_values_spell (tc : ClientStatus) (host : Printable tc.hostname) (port : Printable tc.portStr) :
    AttributesSpell (connectionValues escapeXml listed tc) (connectionValues id listed tc) := by
  have ctime : Printable (if tc.connTime = NsTime.unset then [] else NsTime.toIsoString listed.formats tc.connTime) := by
    split
    · exact fun c member => absurd member List.not_mem_nil
    · exact verbatim_printable _ (verbatim_iso_string listed.formats tc.connTime)
  have pktid (pktId : UInt64) : Verbatim (if pktId > 0 ∧ pktId ≤ Constants.ringIdMaximum then decimal pktId.toNat else ['0']) := by
    split
    · exact verbatim_decimal pktId.toNat
    · rfl
  apply values_spell
  refine spell_escaped _ _ _ _ host ?_
  refine spell_escaped _ _ _ _ port ?_
  refine spell_escaped _ _ _ _ ctime ?_
  refine spell_verbatim _ _ _ _ rfl ?_
  refine spell_verbatim _ _ _ _ (pktid _) ?_
  refine spell_verbatim _ _ _ _ rfl ?_
  refine spell_verbatim _ _ _ _ (verbatim_decimal _) ?_
  refine spell_verbatim _ _ _ _ (verbatim_decimal _) ?_
  refine spell_verbatim _ _ _ _ rfl ?_
  refine spell_verbatim _ _ _ _ rfl ?_
  exact spell_verbatim _ _ _ _ rfl .nil

end

theorem yields_line (indent : Nat) (raw tag : Tag) (spelled : TagSpells raw tag) (sound : raw.sound = true) :
    Yields (line indent raw) [tag] := by
  have blank : (List.replicate indent ' ').all isSpace = true := by
    rw [List.all_replicate]
    split <;> rfl
  exact yields_append _ _ [] _ (yields_blank _ blank) (yields_append _ _ _ [] (yields_tag raw tag spelled sound) (yields_blank _ rfl))

section

variable (spell : Text → Text) (listed : Listed)

theorem seedlink_sound : (Tag.start "seedlink".toList (seedlinkValues spell listed)).sound = true ∧
    (Tag.empty "seedlink".toList (seedlinkValues spell listed)).sound = true :=
  sound_values "seedlink" _ ["software", "organization", "started"] rfl (by decide +kernel)

theorem station_start_sound (values : List (String × Text))
    (isNames : values.map Prod.fst = ["name", "network", "description", "begin_seq", "end_seq", "stream_check"]) :
    (Tag.start "station".toList (attributesOf values)).sound = true :=
  (sound_values "station" values _ isNames (by decide +kernel)).1

theorem station_sound (key : Text) (streams : List RingStream) :
    (Tag.start "station".toList (stationValues spell key streams)).sound = true :=
  station_start_sound _ rfl

theorem stream_sound (s : RingStream) : (Tag.empty "stream".toList (streamValues spell listed s)).sound = true :=
  (sound_values "stream" _ ["location", "seedname", "type", "begin_time", "end_time"] rfl (by decide +kernel)).2

theorem client_sound (tc : ClientStatus) : (Tag.start "station".toList (clientValues tc)).sound = true :=
  station_start_sound _ rfl

theorem connection_sound (tc : ClientStatus) : (Tag.empty "connection".toList (connectionValues spell listed tc)).sound = true :=
  (sound_values "connection" _ ["host", "port", "ctime", "begin_seq", "current_seq", "sequence_gaps", "txcount", "totBytes",
    "begin_seq_valid", "realtime", "end_of_data"] rfl (by decide +kernel)).2

end

theorem station_end : Yields (line 2 (.finish "station".toList)) [.finish "station".toList] :=
  yields_line 2 _ _ (.finish _) (by decide +kernel)

section

variable (listed : Listed)

theorem stream_yields (s : RingStream) (printable : Printable s.streamId) :
    Yields (line 4 (.empty "stream".toList (streamValues escapeXml listed s))) [streamTag listed s] :=
  yields_line 4 _ _ (.empty _ _ _ (stream_values_spell listed s printable)) (stream_sound escapeXml listed s)

theorem station_yields (includeStreams : Bool) (streams : List RingStream) (key : Text) (isKey : Printable key)
    (printable : ∀ s ∈ Grouping.having stationKey streams key, Printable s.streamId) :
    Yields (stationXml listed includeStreams (key, Grouping.having stationKey streams key))
      (stationTags listed includeStreams streams key) := by
  have opens := yields_line 2 _ _ (.start _ _ _ (station_values_spell key (Grouping.having stationKey streams key) isKey))
    (station_sound escapeXml key (Grouping.having stationKey streams key))
  refine yields_append _ _ _ _ opens (yields_append _ _ _ _ ?_ station_end)
  cases includeStreams with
  | true =>
      have rows := yields_flat_map (Grouping.having stationKey streams key) _ _ fun s member => stream_yields listed s (printable s member)
      rw [← List.map_eq_flatMap] at rows
      exact rows
  | false => exact yields_blank [] rfl

theorem client_yields (tc : ClientStatus) (host : Printable tc.hostname) (port : Printable tc.portStr) :
    Yields (clientXml listed tc) (clientTags listed tc) := by
  have opens := yields_line 2 _ _ (.start _ _ _ (client_values_spell tc)) (client_sound tc)
  have connection := yields_line 4 _ _ (.empty _ _ _ (connection_values_spell listed tc host port)) (connection_sound escapeXml listed tc)
  exact yields_append _ _ _ _ opens (yields_append _ _ _ _ connection station_end)

theorem station_balanced (includeStreams : Bool) (streams : List RingStream) (key : Text) :
    Balanced (stationTags listed includeStreams streams key) := by
  apply balanced_element
  cases includeStreams with
  | true => exact balanced_rows _ "stream".toList (streamValues id listed)
  | false => exact fun _ _ _ => rfl

theorem client_balanced (tc : ClientStatus) : Balanced (clientTags listed tc) :=
  balanced_element _ _ [connectionTag listed tc] (balanced_empty _ _)

end

theorem group_target (targetStation : Option Text) (streams : List RingStream) :
    (Grouping.group stationKey streams).filter (fun kvp => isTarget targetStation kvp.1) =
      (targetKeys targetStation streams).map fun key => (key, Grouping.having stationKey streams key) := by
  rw [Grouping.group_groups, List.filter_map]
  rfl

section

variable (listed : Listed) (org : Printable (listed.serverId.getD "RingServer".toList))

include org

theorem root_document (inside : Text) (tags : List Tag) (yields : Yields inside tags) (balanced : Balanced tags) :
    Xml.read (prolog ++ (line 0 (.start "seedlink".toList (seedlinkValues escapeXml listed)) ++
        (inside ++ line 0 (.finish "seedlink".toList)))) =
      some (.start "seedlink".toList (seedlinkValues id listed) :: (tags ++ [.finish "seedlink".toList])) := by
  have opens : Yields (line 0 (.start "seedlink".toList (seedlinkValues escapeXml listed)))
      [.start "seedlink".toList (seedlinkValues id listed)] :=
    yields_line 0 _ _ (.start _ _ _ (seedlink_values_spell listed org)) (seedlink_sound escapeXml listed).1
  have closes : Yields (line 0 (.finish "seedlink".toList)) [.finish "seedlink".toList] :=
    yields_line 0 _ _ (.finish _) (by decide +kernel)
  have body := yields_append ['\r', '\n'] _ [] _ (yields_blank _ rfl) (yields_append _ _ _ _ opens (yields_append _ _ _ _ yields closes))
  exact read_document _ _ _ rfl body (element_document _ _ tags balanced)

theorem identity_read : Xml.read (buildInfoIdXml listed) = some [.empty "seedlink".toList (seedlinkValues id listed)] := by
  have root : Yields (line 0 (.empty "seedlink".toList (seedlinkValues escapeXml listed)))
      [.empty "seedlink".toList (seedlinkValues id listed)] :=
    yields_line 0 _ _ (.empty _ _ _ (seedlink_values_spell listed org)) (seedlink_sound escapeXml listed).2
  exact read_document _ _ _ rfl (yields_append ['\r', '\n'] _ [] _ (yields_blank _ rfl) root) rfl

theorem capabilities_read : Xml.read (buildInfoCapabilitiesXml listed) =
    some (.start "seedlink".toList (seedlinkValues id listed) :: (capabilityNames.map capabilityTag ++ [.finish "seedlink".toList])) := by
  have spelled (name : String) (verbatim : Verbatim name.toList) : TagSpells (capabilityTag name) (capabilityTag name) :=
    .empty _ _ _ (values_spell _ _ (spell_verbatim _ _ _ _ verbatim .nil))
  have sound (name : String) : (capabilityTag name).sound = true := (sound_values "capability" _ ["name"] rfl (by decide +kernel)).2
  have verbatim : ∀ name ∈ capabilityNames, (name.toList.all fun c => isPrintable c && !isMarkup c) = true := by decide +kernel
  have yields := yields_flat_map capabilityNames (fun name => line 2 (capabilityTag name)) (fun name => [capabilityTag name])
    fun name member => yields_line 2 _ _ (spelled name (verbatim name member)) (sound name)
  have balanced := balanced_flat_map capabilityNames (fun name => [capabilityTag name]) fun name => balanced_empty _ _
  have document := root_document listed org _ _ yields balanced
  rw [← List.map_eq_flatMap] at document
  exact document

theorem stations_read (includeStreams : Bool) (targetStation : Option Text) (streams : List RingStream)
    (printable : ∀ s ∈ streams, isTarget targetStation (stationKey s) = true → Printable s.streamId) :
    Xml.read (buildInfoStreamsXml listed includeStreams targetStation streams) =
      some (.start "seedlink".toList (seedlinkValues id listed) ::
        ((targetKeys targetStation streams).flatMap (stationTags listed includeStreams streams) ++ [.finish "seedlink".toList])) := by
  have each : ∀ key ∈ targetKeys targetStation streams,
      Yields (stationXml listed includeStreams (key, Grouping.having stationKey streams key))
        (stationTags listed includeStreams streams key) := by
    intro key member
    obtain ⟨isKey, target⟩ := List.mem_filter.mp member
    obtain ⟨first, inStreams, rfl⟩ := (Grouping.key_member stationKey streams key).mp isKey
    have firstPrintable := printable first inStreams target
    apply station_yields listed includeStreams streams _ fun c inKey => firstPrintable c (station_key_part first inKey)
    intro s inside
    obtain ⟨inStreams, same⟩ := List.mem_filter.mp inside
    exact printable s inStreams (of_decide_eq_true same ▸ target)
  rw [buildInfoStreamsXml, group_target, List.flatMap_map]
  exact root_document listed org _ _ (yields_flat_map _ _ _ each) (balanced_flat_map _ _ fun key => station_balanced listed _ _ key)

theorem connections_read (printable : ∀ tc ∈ activeClients listed, Printable tc.hostname ∧ Printable tc.portStr) :
    Xml.read (buildInfoConnectionsXml listed) =
      some (.start "seedlink".toList (seedlinkValues id listed) ::
        ((activeClients listed).flatMap (clientTags listed) ++ [.finish "seedlink".toList])) := by
  have yields := yields_flat_map (activeClients listed) (clientXml listed) (clientTags listed) fun tc member =>
    client_yields listed tc (printable tc member).1 (printable tc member).2
  exact root_document listed org _ _ yields (balanced_flat_map _ _ fun tc => client_balanced listed tc)

end

end SeedLink

end RingServer
