import RingServer.Protocols.InfoEscaped

set_option autoImplicit false

namespace RingServer

open Library Xml

def valuesOf (tags : List Tag) : List Text := tags.flatMap fun tag => tag.attributes.map Prod.snd

structure Given (values given : List Text) : Prop where
  each : ∀ value ∈ values, Verbatim value ∨ value ∈ given
  all : given ⊆ values

theorem given_nil : Given [] [] := ⟨fun _ member => absurd member List.not_mem_nil, List.nil_subset _⟩

theorem given_append (values others given more : List Text) (first : Given values given) (second : Given others more) :
    Given (values ++ others) (given ++ more) := by
  constructor
  · intro value member
    rcases List.mem_append.mp member with inFirst | inSecond
    · exact (first.each value inFirst).imp_right (List.mem_append_left more)
    · exact (second.each value inSecond).imp_right (List.mem_append_right given)
  · intro text member
    rcases List.mem_append.mp member with inFirst | inSecond
    · exact List.mem_append_left _ (first.all inFirst)
    · exact List.mem_append_right _ (second.all inSecond)

theorem given_skip (value : Text) (values given : List Text) (verbatim : Verbatim value) (others : Given values given) :
    Given (value :: values) given := by
  constructor
  · intro other member
    rcases List.mem_cons.mp member with rfl | inside
    · exact .inl verbatim
    · exact others.each other inside
  · exact fun text member => List.mem_cons_of_mem _ (others.all member)

theorem given_one (value : Text) : Given [value] [value] := ⟨fun _ member => .inr member, fun _ member => member⟩

theorem given_take (value : Text) (values given : List Text) (others : Given values given) : Given (value :: values) (value :: given) :=
  given_append [value] values [value] given (given_one value) others

theorem given_option (text : Option Text) (values given : List Text) (others : Given values given) :
    Given (text.getD ['-'] :: values) (text.toList ++ given) := by
  cases text with
  | none => exact given_skip ['-'] values given rfl others
  | some text => exact given_take text values given others

theorem given_flat_map {α : Type} (items : List α) (values given : α → List Text) (each : ∀ item, Given (values item) (given item)) :
    Given (items.flatMap values) (items.flatMap given) := by
  induction items with
  | nil => exact given_nil
  | cons item items ih =>
      rw [List.flatMap_cons, List.flatMap_cons]
      exact given_append _ _ _ _ (each item) ih

theorem attributes_values (values : List (String × Text)) : (attributesOf values).map Prod.snd = values.map Prod.snd := by
  rw [attributesOf, List.map_map]
  rfl

theorem given_list {α : Type} (name : Text) (values : List Attribute) (items : List α) (tag : α → Tag) (given : α → List Text)
    (own : Given (values.map Prod.snd) []) (each : ∀ item, Given ((tag item).attributes.map Prod.snd) (given item)) :
    Given (valuesOf (.start name values :: (items.map tag ++ [.finish name]))) (items.flatMap given) := by
  have rows := given_flat_map items (fun item => (tag item).attributes.map Prod.snd) given each
  have inside := given_append _ _ _ _ own (given_append _ _ _ _ rows given_nil)
  rw [valuesOf, List.flatMap_cons, List.flatMap_append, List.flatMap_map, ← List.nil_append (items.flatMap given),
    ← List.append_nil (items.flatMap given)]
  exact inside

theorem given_all (tags : List Tag) (given : List Text) (isGiven : Given (valuesOf tags) given) (keeps : Text → Prop)
    (verbatim : ∀ text, Verbatim text → keeps text) :
    (∀ tag ∈ tags, ∀ pair ∈ tag.attributes, keeps pair.2) ↔ ∀ text ∈ given, keeps text := by
  constructor
  · intro all text member
    obtain ⟨tag, inTags, inValues⟩ := List.mem_flatMap.mp (isGiven.all member)
    obtain ⟨pair, inAttributes, rfl⟩ := List.mem_map.mp inValues
    exact all tag inTags pair inAttributes
  · intro all tag inTags pair inAttributes
    have member : pair.2 ∈ valuesOf tags := List.mem_flatMap.mpr ⟨tag, inTags, List.mem_map_of_mem inAttributes⟩
    rcases isGiven.each pair.2 member with isVerbatim | isText
    · exact verbatim pair.2 isVerbatim
    · exact all pair.2 isText

theorem element_sound (first last : Tag) (inside : List Tag) (opens : first.sound = true) (closes : last.sound = true)
    (each : ∀ tag ∈ inside, tag.sound = true) : ∀ tag ∈ first :: (inside ++ [last]), tag.sound = true := by
  intro tag member
  rcases List.mem_cons.mp member with rfl | behind
  · exact opens
  · rcases List.mem_append.mp behind with inInside | isLast
    · exact each tag inInside
    · exact List.mem_singleton.mp isLast ▸ closes

theorem verbatim_iso (formats : Formats) (t : NsTime) : Verbatim (DataLink.iso formats t) := by
  rw [DataLink.iso]
  split
  · rfl
  · exact verbatim_iso_string formats t

theorem verbatim_flag (flag : Bool) : Verbatim (DataLink.flagText flag) := by
  cases flag <;> rfl

theorem verbatim_state (state : Option Net.ThreadState) : Verbatim (state.elim "UNKNOWN".toList Net.ThreadState.upper) := by
  cases state with
  | none => rfl
  | some state => cases state <;> rfl

theorem verbatim_protocols (protocols : Config.ListenProtocols) (options : Config.ListenOptions) :
    Verbatim (Net.genProtocolString protocols options) := by
  have all : ∀ dataLink seedLink http tls ipv4 ipv6 : Bool,
      ((Net.genProtocolString ⟨dataLink, seedLink, http⟩ ⟨tls, ipv4, ipv6⟩).all fun c => isPrintable c && !isMarkup c) = true := by
    decide +kernel
  exact all _ _ _ _ _ _

namespace DataLink

theorem verbatim_capabilities (ring : RingParams) (writePerm : Bool) : Verbatim (infoCapabilities ring writePerm) := by
  refine verbatim_append _ _ rfl (verbatim_append _ _ rfl (verbatim_append _ _ (verbatim_decimal _) ?_))
  cases writePerm <;> rfl

theorem verbatim_connection_type (tc : ClientStatus) : Verbatim (connectionType tc) := by
  rw [connectionType]
  cases tc.tls <;> split <;> rfl

section

variable (listed : Listed)

theorem root_given (client : ClientInfo) :
    Given ((rootValues listed client).map Prod.snd) [listed.serverId.getD "Ring Server".toList] := by
  rw [rootValues, attributes_values]
  refine given_skip _ _ _ rfl (given_take _ _ _ (given_skip _ _ _ ?_ given_nil))
  exact verbatim_capabilities listed.status.ring client.writePerm

theorem status_given : Given ((statusValues listed).map Prod.snd) [] := by
  have time (t : NsTime) : Verbatim (iso listed.formats t) := verbatim_iso listed.formats t
  have fixed (double : UInt64) : Verbatim (listed.formats.fixed double) := listed.formats.fixedVerbatim double
  rw [statusValues, attributes_values]
  refine ⟨?_, List.nil_subset _⟩
  intro value member
  left
  simp only [List.map_cons, List.map_nil, List.mem_cons, List.not_mem_nil, or_false] at member
  rcases member with rfl | rfl | rfl | rfl | rfl | rfl | rfl | rfl | rfl | rfl | rfl | rfl | rfl | rfl | rfl | rfl | rfl | rfl | rfl |
    rfl | rfl
  all_goals first | exact time _ | exact verbatim_decimal _ | exact verbatim_flag _ | exact fixed _ | exact verbatim_decimal_int _

theorem thread_given (thread : ServerThread) : Given ((threadTag thread).attributes.map Prod.snd) (threadTexts thread) := by
  have state := verbatim_state thread.state
  change Given ((threadValues thread).map Prod.snd) (threadTexts thread)
  rw [threadValues, threadTexts]
  split
  · next lpp family isListen =>
    rw [isListen, attributes_values]
    exact given_skip _ _ _ state (given_skip _ _ _ (verbatim_protocols _ _) (given_one lpp.portStr))
  · next configstr isScan =>
    rw [isScan, attributes_values]
    exact given_skip _ _ _ state (given_skip _ _ _ rfl given_nil)
  · next isOther =>
    rw [isOther, attributes_values]
    exact given_skip _ _ _ state (given_skip _ _ _ rfl given_nil)

theorem stream_given (st : RingStream) : Given ((streamTag listed st).attributes.map Prod.snd) [st.streamId] := by
  have time (t : NsTime) : Verbatim (iso listed.formats t) := verbatim_iso listed.formats t
  change Given ((streamValues listed st).map Prod.snd) [st.streamId]
  rw [streamValues, attributes_values]
  refine given_take _ _ _ (given_skip _ _ _ (verbatim_decimal _) (given_skip _ _ _ (time _) (given_skip _ _ _ (verbatim_decimal _) ?_)))
  refine given_skip _ _ _ (time _) (given_skip _ _ _ (time _) (given_skip _ _ _ ?_ given_nil))
  exact listed.formats.fixedVerbatim _

theorem connection_given (tc : ClientStatus) : Given ((connectionTag listed tc).attributes.map Prod.snd) (clientTexts tc) := by
  have fixed (double : UInt64) : Verbatim (listed.formats.fixed double) := listed.formats.fixedVerbatim double
  have number (n : Nat) : Verbatim (decimal n) := verbatim_decimal n
  have created : Verbatim (tc.reader.elim ['-'] fun reader => iso listed.formats reader.pktTime) := by
    cases tc.reader with
    | none => rfl
    | some reader => exact verbatim_iso listed.formats reader.pktTime
  have counts : Given [decimal tc.txPackets.toNat, listed.formats.fixed tc.txPacketRate, decimal tc.txBytes.toNat,
      listed.formats.fixed tc.txByteRate, decimal tc.rxPackets.toNat, listed.formats.fixed tc.rxPacketRate, decimal tc.rxBytes.toNat,
      listed.formats.fixed tc.rxByteRate] [] := by
    refine given_skip _ _ _ (number _) (given_skip _ _ _ (fixed _) (given_skip _ _ _ (number _) (given_skip _ _ _ (fixed _) ?_)))
    exact given_skip _ _ _ (number _) (given_skip _ _ _ (fixed _) (given_skip _ _ _ (number _) (given_skip _ _ _ (fixed _) given_nil)))
  change Given ((connectionValues listed tc).map Prod.snd) (clientTexts tc)
  rw [connectionValues, attributes_values]
  refine given_skip _ _ _ (verbatim_connection_type tc) (given_take _ _ _ (given_take _ _ _ (given_take _ _ _ (given_take _ _ _ ?_))))
  refine given_skip _ _ _ (verbatim_iso listed.formats tc.connTime) (given_option tc.matchStr _ _ ?_)
  rw [← List.append_nil tc.rejectStr.toList]
  refine given_option tc.rejectStr _ _ (given_skip _ _ _ (verbatim_decimal_int _) (given_skip _ _ _ (number _) ?_))
  exact given_skip _ _ _ rfl (given_skip _ _ _ created counts)

theorem section_given (type : Text) (client : ClientInfo) (matchexpr : Option Text) (stk : List RingStream) :
    Given (valuesOf (infoSection listed type client matchexpr stk)) (sectionTexts listed type client matchexpr stk) := by
  have number (name : String) (n : Nat) : Given ((attributesOf [(name, decimal n)]).map Prod.snd) [] :=
    given_skip _ _ _ (verbatim_decimal n) given_nil
  have numbers (name other : String) (n m : Nat) : Given ((attributesOf [(name, decimal n), (other, decimal m)]).map Prod.snd) [] :=
    given_skip _ _ _ (verbatim_decimal n) (given_skip _ _ _ (verbatim_decimal m) given_nil)
  rw [infoSection, sectionTexts]
  split
  · exact given_list _ _ _ threadTag threadTexts (number _ _) thread_given
  · split
    · rw [List.map_eq_flatMap]
      exact given_list _ _ _ (streamTag listed) _ (numbers _ _ _ _) (stream_given listed)
    · split
      · exact given_list _ _ _ (connectionTag listed) clientTexts given_nil (connection_given listed)
      · exact given_nil

theorem info_given (type : Text) (client : ClientInfo) (matchexpr : Option Text) (stk : List RingStream) :
    Given (valuesOf (infoTags listed type client matchexpr stk))
      (listed.serverId.getD "Ring Server".toList :: sectionTexts listed type client matchexpr stk) := by
  have body := given_append _ _ _ _ (status_given listed) (section_given listed type client matchexpr stk)
  have whole := given_append _ _ _ _ (root_given listed client) (given_append _ _ _ _ body given_nil)
  rw [List.nil_append, List.append_nil (sectionTexts listed type client matchexpr stk)] at whole
  rw [infoTags, valuesOf, List.flatMap_cons, List.flatMap_append, List.flatMap_cons]
  exact whole

theorem section_sound (type : Text) (client : ClientInfo) (matchexpr : Option Text) (stk : List RingStream) :
    ∀ tag ∈ infoSection listed type client matchexpr stk, tag.sound = true := by
  rw [infoSection]
  split
  · refine element_sound _ _ _ (sound_values "ServerThreads" _ ["TotalServerThreads"] rfl (by decide +kernel)).1 (by decide +kernel) ?_
    intro tag member
    obtain ⟨thread, -, rfl⟩ := List.mem_map.mp member
    rw [threadTag, threadValues]
    split
    · exact (sound_values "Thread" _ ["Flags", "Type", "Port"] rfl (by decide +kernel)).2
    · exact (sound_values "Thread" _ ["Flags", "Type"] rfl (by decide +kernel)).2
    · exact (sound_values "Thread" _ ["Flags", "Type"] rfl (by decide +kernel)).2
  · split
    · refine element_sound _ _ _ (sound_values "StreamList" _ ["TotalStreams", "SelectedStreams"] rfl (by decide +kernel)).1
        (by decide +kernel) ?_
      intro tag member
      obtain ⟨st, -, rfl⟩ := List.mem_map.mp member
      exact (sound_values "Stream" _ ["Name", "EarliestPacketID", "EarliestPacketDataStartTime", "LatestPacketID",
        "LatestPacketDataStartTime", "LatestPacketDataEndTime", "DataLatency"] rfl (by decide +kernel)).2
    · split
      · refine element_sound _ _ _ (sound_values "ConnectionList" [] [] rfl (by decide +kernel)).1 (by decide +kernel) ?_
        intro tag member
        obtain ⟨tc, -, rfl⟩ := List.mem_map.mp member
        exact (sound_values "Connection" _ ["Type", "Host", "IP", "Port", "ClientID", "ConnectionTime", "Match", "Reject", "StreamCount",
          "PacketID", "PacketDataStartTime", "PacketCreationTime", "TXPacketCount", "TXPacketRate", "TXByteCount", "TXByteRate",
          "RXPacketCount", "RXPacketRate", "RXByteCount", "RXByteRate"] rfl (by decide +kernel)).2
      · exact fun tag member => absurd member List.not_mem_nil

theorem info_sound (type : Text) (client : ClientInfo) (matchexpr : Option Text) (stk : List RingStream) :
    ∀ tag ∈ infoTags listed type client matchexpr stk, tag.sound = true := by
  refine element_sound _ _ _ (sound_values "DataLink" _ ["Version", "ServerID", "Capabilities"] rfl (by decide +kernel)).1
    (by decide +kernel) ?_
  intro tag member
  rcases List.mem_cons.mp member with rfl | inSection
  · exact (sound_values "Status" _ ["StartTime", "RingVersion", "RingSize", "PacketSize", "MaximumPackets", "MemoryMappedRing",
      "VolatileRing", "TotalConnections", "TotalStreams", "TXPacketRate", "TXByteRate", "RXPacketRate", "RXByteRate",
      "EarliestPacketID", "LatestPacketID", "EarliestPacketCreationTime", "EarliestPacketDataStartTime", "EarliestPacketDataEndTime",
      "LatestPacketCreationTime", "LatestPacketDataStartTime", "LatestPacketDataEndTime"] rfl (by decide +kernel)).2
  · exact section_sound listed type client matchexpr stk tag inSection

theorem section_balanced (type : Text) (client : ClientInfo) (matchexpr : Option Text) (stk : List RingStream) :
    Balanced (infoSection listed type client matchexpr stk) := by
  rw [infoSection]
  split
  · exact balanced_element _ _ _ (balanced_rows _ "Thread".toList threadValues)
  · split
    · exact balanced_element _ _ _ (balanced_rows _ "Stream".toList (streamValues listed))
    · split
      · exact balanced_element _ _ _ (balanced_rows _ "Connection".toList (connectionValues listed))
      · exact fun _ _ _ => rfl

theorem info_read_iff (type : Text) (client : ClientInfo) (matchexpr : Option Text) (stk : List RingStream)
    (printable : ∀ text ∈ listed.serverId.getD "Ring Server".toList :: sectionTexts listed type client matchexpr stk, Printable text) :
    Xml.read (generateInfoXml listed type client matchexpr stk) = some (infoTags listed type client matchexpr stk) ↔
      ∀ text ∈ listed.serverId.getD "Ring Server".toList :: sectionTexts listed type client matchexpr stk, Unmarked text := by
  have isGiven := info_given listed type client matchexpr stk
  have unmarked (text : Text) (verbatim : Verbatim text) : Unmarked text := ((verbatim_parts text).mp verbatim).2
  have inside := balanced_append [.empty "Status".toList (statusValues listed)] _ (balanced_empty _ _)
    (section_balanced listed type client matchexpr stk)
  rw [generateInfoXml, read_exact (infoTags listed type client matchexpr stk) (info_sound listed type client matchexpr stk)
    ((given_all _ _ isGiven Printable verbatim_printable).mpr printable) rfl (element_document _ _ _ inside)]
  exact given_all _ _ isGiven Unmarked unmarked

end

end DataLink

namespace Listing

theorem rows_kept {α : Type} (items : List α) (tag : α → Tag) (isRowTag : ∀ item, isRow (tag item) = true) :
    (items.map tag).filter isRow = items.map tag := by
  rw [List.filter_eq_self]
  intro row member
  obtain ⟨item, -, rfl⟩ := List.mem_map.mp member
  exact isRowTag item

theorem rows_inside (first last : Tag) (inside : List Tag) (opens : isRow first = false) (closes : isRow last = false) :
    (first :: (inside ++ [last])).filter isRow = inside.filter isRow := by
  rw [List.filter_cons, opens, List.filter_append, List.filter_singleton, closes]
  exact List.append_nil _

section

variable (listed : Listed)

theorem info_rows (type : Text) (client : ClientInfo) (matchexpr : Option Text) (stk : List RingStream) :
    (document listed (.info type client matchexpr stk)).filter isRow = rows listed (.info type client matchexpr stk) := by
  have status : isRow (.empty "Status".toList (DataLink.statusValues listed)) = false := rfl
  rw [document, DataLink.infoTags, rows_inside _ _ _ rfl rfl, List.filter_cons, status, if_neg Bool.false_ne_true,
    DataLink.infoSection, rows]
  split
  · rw [rows_inside _ _ _ rfl rfl, List.filter_eq_nil_iff]
    intro tag member
    obtain ⟨thread, -, rfl⟩ := List.mem_map.mp member
    exact Bool.false_ne_true
  · split
    · rw [rows_inside _ _ _ rfl rfl]
      exact rows_kept _ (DataLink.streamTag listed) fun st => rfl
    · split
      · rw [rows_inside _ _ _ rfl rfl]
        exact rows_kept _ (DataLink.connectionTag listed) fun tc => rfl
      · rfl

theorem station_rows (includeStreams : Bool) (streams : List RingStream) (key : Text) :
    (SeedLink.stationTags listed includeStreams streams key).filter isRow =
      if includeStreams then (Grouping.having SeedLink.stationKey streams key).map (SeedLink.streamTag listed) else [] := by
  rw [SeedLink.stationTags, rows_inside _ _ _ rfl rfl]
  cases includeStreams with
  | true => exact rows_kept _ (SeedLink.streamTag listed) fun s => rfl
  | false => rfl

theorem stations_rows (includeStreams : Bool) (targetStation : Option Text) (streams : List RingStream) :
    ((document listed (.stations includeStreams targetStation streams)).filter isRow).Perm
      (rows listed (.stations includeStreams targetStation streams)) := by
  rw [document, rows_inside _ _ _ rfl rfl, List.filter_flatMap, rows]
  simp only [station_rows]
  cases includeStreams with
  | true =>
      simp only [if_true]
      rw [← List.map_flatMap]
      exact (Grouping.kept_groups_perm SeedLink.stationKey (SeedLink.isTarget targetStation) streams).map _
  | false => simp

theorem connections_rows : (document listed .connections).filter isRow = rows listed .connections := by
  have each (tc : ClientStatus) : (SeedLink.clientTags listed tc).filter isRow = [SeedLink.connectionTag listed tc] := rfl
  rw [document, rows_inside _ _ _ rfl rfl, List.filter_flatMap, rows, List.map_eq_flatMap]
  simp only [each]

theorem one_row_each (listing : Listing) : ((listing.document listed).filter isRow).Perm (listing.rows listed) := by
  cases listing with
  | info type client matchexpr stk => exact .of_eq (info_rows listed type client matchexpr stk)
  | identity => exact .refl _
  | capabilities => exact .refl _
  | stations includeStreams targetStation streams => exact stations_rows listed includeStreams targetStation streams
  | connections => exact .of_eq (connections_rows listed)

theorem seedlink_reads (listing : Listing) (ofSeedLink : listing.ofSeedLink = true)
    (printable : ∀ text ∈ listing.supplied listed, Printable text) :
    Xml.read (listing.xml listed) = some (listing.document listed) := by
  cases listing with
  | info type client matchexpr stk => cases ofSeedLink
  | identity => exact SeedLink.identity_read listed (printable _ List.mem_cons_self)
  | capabilities => exact SeedLink.capabilities_read listed (printable _ List.mem_cons_self)
  | stations includeStreams targetStation streams =>
      apply SeedLink.stations_read listed (printable _ List.mem_cons_self)
      intro s member target
      exact printable _ (List.mem_cons_of_mem _ (List.mem_map_of_mem (List.mem_filter.mpr ⟨member, target⟩)))
  | connections =>
      apply SeedLink.connections_read listed (printable _ List.mem_cons_self)
      intro tc member
      have texts : ∀ text ∈ [tc.hostname, tc.portStr], Printable text := fun text inside =>
        printable text (List.mem_cons_of_mem _ (List.mem_flatMap.mpr ⟨tc, member, inside⟩))
      exact ⟨texts _ List.mem_cons_self, texts _ (List.mem_cons_of_mem _ List.mem_cons_self)⟩

theorem faithful_iff (listing : Listing) (printable : ∀ text ∈ listing.supplied listed, Printable text) :
    Faithful listed listing ↔ listing.ofSeedLink = true ∨ ∀ text ∈ listing.supplied listed, Unmarked text := by
  have each := one_row_each listed listing
  by_cases ofSeedLink : listing.ofSeedLink = true
  · exact iff_of_true ⟨seedlink_reads listed listing ofSeedLink printable, each⟩ (.inl ofSeedLink)
  · cases listing with
    | info type client matchexpr stk =>
        have reads := DataLink.info_read_iff listed type client matchexpr stk printable
        constructor
        · exact fun faithful => .inr (reads.mp faithful.reads)
        · exact fun condition => ⟨reads.mpr (condition.resolve_left ofSeedLink), each⟩
    | identity => exact absurd rfl ofSeedLink
    | capabilities => exact absurd rfl ofSeedLink
    | stations includeStreams targetStation streams => exact absurd rfl ofSeedLink
    | connections => exact absurd rfl ofSeedLink

end

def zeroFormats : Formats where
  dateTime := fun _ => "1970-01-01T00:00:00.000000".toList
  fixed := fun _ => "0.0".toList
  seconds := fun _ => 0
  utcNow := "1970-01-01T00:00:00Z".toList
  dateTimeVerbatim := fun _ => rfl
  fixedVerbatim := fun _ => rfl
  utcNowVerbatim := rfl

def calling (clientId : Text) : ClientStatus where
  type := some .dataLink
  tls := false
  hostname := "192.0.2.1".toList
  ipStr := "192.0.2.1".toList
  portStr := "50000".toList
  clientId := clientId
  connTime := ⟨0⟩
  matchStr := none
  rejectStr := none
  streamsCount := 0
  reader := none
  txPackets := 0
  txPacketRate := 0
  txBytes := 0
  txByteRate := 0
  rxPackets := 0
  rxPacketRate := 0
  rxBytes := 0
  rxByteRate := 0

def serving (clientId : Text) : Listed where
  formats := zeroFormats
  compile := fun _ => none
  now := fun _ => ⟨0⟩
  serverId := none
  params := ⟨⟨0⟩, 1, [], [⟨.active, some (calling clientId)⟩]⟩
  status := ⟨twoSlotRing, 0, 0, 0, 0, 0⟩

def askConnections : Listing := .info "CONNECTIONS".toList { DataLink.newClient with trusted := true } none []

theorem texts_have (texts : List Text) (has : Char → Bool) (all : (texts.all fun text => text.all has) = true) :
    ∀ text ∈ texts, ∀ c ∈ text, has c = true := by
  intro text member c inside
  exact List.all_eq_true.mp (List.all_eq_true.mp all text member) c inside

theorem plain_client_listed : Faithful (serving "slink2dali:user:1:linux".toList) askConnections := by
  have printable := texts_have (askConnections.supplied (serving "slink2dali:user:1:linux".toList)) isPrintable (by decide +kernel)
  have unmarked := texts_have (askConnections.supplied (serving "slink2dali:user:1:linux".toList)) (fun c => !isMarkup c)
    (by decide +kernel)
  refine (faithful_iff _ _ printable).mpr (.inr fun text member c inside => ?_)
  exact Bool.not_eq_true' _ ▸ unmarked text member c inside

-- The ID A&B of one client leaves the document unreadable.
theorem client_id_not_escaped : (∀ text ∈ askConnections.supplied (serving "A&B".toList), Printable text) ∧
    ¬ Faithful (serving "A&B".toList) askConnections := by
  refine ⟨texts_have (askConnections.supplied (serving "A&B".toList)) isPrintable (by decide +kernel), fun faithful => ?_⟩
  have reads := faithful.reads
  have unread : Xml.read (askConnections.xml (serving "A&B".toList)) = none := by decide +kernel
  rw [unread] at reads
  cases reads

end Listing

end RingServer
