import RingServer.Protocols.DataLinkRoundTrip
import RingServer.Ring.Lifetime

set_option autoImplicit false

namespace RingServer.DataLink

open Library

theorem command_word_ascii (dlCommand : List UInt8) (word : Text) (isWord : word ∈ (readCommand dlCommand).parts) :
    ∀ c ∈ word, c.toNat < 128 := by
  intro c member
  have inside : c ∈ (readCommand dlCommand).parts.flatten := List.mem_flatten.mpr ⟨word, isWord, member⟩
  have words : (readCommand dlCommand).parts.flatten = (readCommand dlCommand).cmd.filter fun c => !decide (c = ' ') :=
    pieces_flatten _ _
  rw [words] at inside
  have ofCmd : c ∈ trimBoth isWhiteSpace (trimEndNul (decodeASCII dlCommand)) := List.mem_of_mem_filter inside
  have front := (List.rdropWhile_prefix isWhiteSpace _).subset ofCmd
  have whole := (List.dropWhile_sublist isWhiteSpace).subset front
  exact decode_small dlCommand c ((List.rdropWhile_prefix _ _).subset whole)

theorem legacy_length (streamId : Text) (legacy : isLegacyStreamId streamId = true) : streamId.length ≤ 22 := by
  rw [isLegacyStreamId] at legacy
  have cut : streamId.length ≤ (if streamId.getLast? = some '\n' then streamId.dropLast else streamId).length + 1 := by
    by_cases feed : streamId.getLast? = some '\n'
    · rw [if_pos feed, List.length_dropLast]
      omega
    · rw [if_neg feed]
      exact Nat.le_succ _
  generalize (if streamId.getLast? = some '\n' then streamId.dropLast else streamId) = line at legacy cut
  split at legacy
  · rename_i net sta loc chan isSplit
    simp only [Bool.and_eq_true, decide_eq_true_eq] at legacy
    obtain ⟨⟨⟨⟨⟨⟨⟨⟨⟨_, netShort⟩, _⟩, _⟩, staShort⟩, _⟩, locShort⟩, _⟩, suffix⟩, _⟩ := legacy
    have isText := congrArg List.length (split_four line net sta loc chan isSplit)
    have chanLength := congrArg List.length suffix
    have mseed : "/MSEED".toList.length = 6 := rfl
    rw [List.length_drop, mseed] at chanLength
    simp only [List.length_append, List.length_cons] at isText
    omega
  · cases legacy

theorem to_fdsn_length (streamId : Text) : (toFDSN streamId).length ≤ streamId.length + 7 := by
  rw [toFDSN]
  by_cases fields : (streamId.rtakeWhile (· ≠ '_')).length < streamId.length ∧ 3 < (streamId.rtakeWhile (· ≠ '_')).length
  · rw [if_pos fields]
    have scheme : "FDSN:".toList.length = 5 := rfl
    simp only [List.length_append, List.length_cons, List.length_take, List.length_drop, scheme]
    omega
  · rw [if_neg fields]
    exact Nat.le_add_right _ _

theorem mem_to_fdsn (streamId : Text) (c : Char) (member : c ∈ toFDSN streamId) : c ∈ streamId ∨ c ∈ "FDSN:_".toList := by
  have last : ∀ d ∈ streamId.rtakeWhile (· ≠ '_'), d ∈ streamId := fun d inside =>
    (List.rtakeWhile_suffix _ streamId).subset inside
  rw [toFDSN] at member
  by_cases fields : (streamId.rtakeWhile (· ≠ '_')).length < streamId.length ∧ 3 < (streamId.rtakeWhile (· ≠ '_')).length
  · rw [if_pos fields] at member
    have longer : "FDSN:_".toList = "FDSN:".toList ++ ['_'] := rfl
    have scheme (d : Char) (inside : d ∈ "FDSN:".toList) : d ∈ "FDSN:_".toList := by
      rw [longer]
      exact List.mem_append_left _ inside
    simp only [List.mem_append, List.mem_cons] at member
    rcases member with (inScheme | before) | rfl | band | rfl | source | rfl | third | behind
    · exact Or.inr (scheme c inScheme)
    · exact Or.inl (List.mem_of_mem_take before)
    · exact Or.inr (by decide)
    · exact Or.inl (last c (List.mem_of_mem_take band))
    · exact Or.inr (by decide)
    · exact Or.inl (last c (List.mem_of_mem_drop (List.mem_of_mem_take source)))
    · exact Or.inr (by decide)
    · exact Or.inl (last c (List.mem_of_mem_drop (List.mem_of_mem_take third)))
    · exact Or.inl (last c (List.mem_of_mem_drop behind))
  · rw [if_neg fields] at member
    exact Or.inl member

structure Handed (streamId : Text) : Prop where
  length : streamId.length ≤ 59
  ascii : ∀ c ∈ streamId, c.toNat < 128

theorem stored_id_handed (ring : RingParams) (call : Call) (packet : RingPacket) (stores : Stores ring call packet) :
    Handed packet.streamId := by
  obtain ⟨word, streamId, startStr, endStr, flags, sizeStr, behind, isParts, _, canonical, short, _⟩ := stores.asks.request
  have isWord : streamId ∈ (readCommand call.client.dlCommand).parts := by
    rw [isParts]
    exact List.mem_cons_of_mem _ List.mem_cons_self
  have ascii := command_word_ascii call.client.dlCommand streamId isWord
  rw [canonical, canonicalStreamId]
  by_cases legacy : isLegacyStreamId streamId = true
  · rw [if_pos legacy]
    have bound := legacy_length streamId legacy
    refine ⟨(to_fdsn_length streamId).trans (by omega), fun c member => ?_⟩
    cases mem_to_fdsn streamId c member with
    | inl own => exact ascii c own
    | inr added =>
        have listed : "FDSN:_".toList = ['F', 'D', 'S', 'N', ':', '_'] := rfl
        have all : ∀ d ∈ "FDSN:_".toList, d.toNat < 128 := by
          rw [listed]
          exact List.forall_iff_forall_mem.mp ⟨by decide, by decide, by decide, by decide, by decide, by decide⟩
        exact all c added
  · rw [if_neg legacy]
    exact ⟨short, ascii⟩

theorem handed_plain (streamId : Text) (handed : Handed streamId) (clean : nul ∉ streamId) : Plain streamId :=
  ⟨handed.length.trans (by decide), handed.ascii, fun c member isNul => clean (by rw [nul, ← isNul]; exact member)⟩

theorem header_read_back (ring : RingParams) (call : Call) (packet : RingPacket) (stores : Stores ring call packet) :
    RingPacket.deserialize packet.serialize = packet ↔ nul ∉ packet.streamId := by
  have handed := stored_id_handed ring call packet stores
  have decoded := deserialize_stored packet []
  rw [List.append_nil] at decoded
  rw [decoded]
  constructor
  · intro same
    have survives : Survives packet.streamId := congrArg RingPacket.streamId same
    intro inside
    exact (survives_plain packet.streamId survives).noNul nul inside rfl
  · intro clean
    have survives : storedId packet.streamId = packet.streamId :=
      plain_survives packet.streamId (handed_plain packet.streamId handed clean)
    rw [survives]

theorem write_all_last (start ring next : RingParams) (requests : List Request) (packets : List RingPacket) (request : Request)
    (packet : RingPacket) (ran : writeAll start requests = some (ring, packets))
    (wrote : writeRequest ring request = some (0, next, packet)) :
    writeAll start (requests ++ [request]) = some (next, packets ++ [packet]) := by
  induction requests generalizing start packets with
  | nil =>
      cases ran
      rw [List.nil_append, writeAll, wrote]
      rfl
  | cons first rest ih =>
      rw [writeAll] at ran
      split at ran
      · rename_i middle stored one
        obtain ⟨⟨ring', packets'⟩, isRest, same⟩ := Option.map_eq_some_iff.mp ran
        cases same
        rw [List.cons_append, writeAll, one]
        show (writeAll middle (rest ++ [request])).map _ = _
        rw [ih middle packets' isRest]
        rfl
      · cases ran

def requestsOf (log : List (Call × RingPacket)) : List Request := log.map fun entry => entry.1.request entry.2

def CleanIds (log : List (Call × RingPacket)) : Prop := ∀ entry ∈ log, nul ∉ entry.2.streamId

theorem stores_accepted (start ring : RingParams) (same : SameSetup start ring) (call : Call) (packet : RingPacket)
    (stores : Stores ring call packet) (clean : nul ∉ packet.streamId) : Accepted start (call.request packet) := by
  have fits := stores_fits ring call packet stores
  have plain := handed_plain packet.streamId (stored_id_handed ring call packet stores) clean
  refine ⟨plain_survives packet.streamId plain, ?_, fits.array⟩
  rw [← same.pktSize]
  exact fits.passes

theorem served_writes (engine : Engine) (fuel : Nat) (g : Geometry) (start ring : RingParams) (fresh : Fresh g start)
    (log : List (Call × RingPacket)) (served : Served engine fuel start log ring) (clean : CleanIds log) :
    ∃ packets, writeAll start (requestsOf log) = some (ring, packets) ∧ ∀ request ∈ requestsOf log, Accepted start request := by
  induction served with
  | start => exact ⟨[], rfl, fun request member => absurd member List.not_mem_nil⟩
  | stored log ring call packet served stores ih =>
      obtain ⟨packets, ran, accepted⟩ := ih fun entry member => clean entry (List.mem_append_left _ member)
      obtain ⟨ring', packets', journal, ran', setup, holds, _⟩ :=
        write_all_spec g start Journal.empty (fresh_holds g start fresh) (requestsOf log) accepted
      rw [ran] at ran'
      cases ran'
      have here := stores_accepted start ring setup call packet stores (clean (call, packet) (by simp))
      obtain ⟨next, wrote, _⟩ := write_spec g ring journal holds (call.request packet) (accepted_same start ring setup _ here)
      have requests : requestsOf (log ++ [(call, packet)]) = requestsOf log ++ [call.request packet] := List.map_append
      refine ⟨packets ++ [journal.stamp g call.clock packet], ?_, fun request member => ?_⟩
      · rw [requests, ring_after_wrote engine fuel ring call packet stores next _ wrote]
        exact write_all_last start ring next (requestsOf log) packets _ _ ran wrote
      · rw [requests, List.mem_append, List.mem_singleton] at member
        cases member with
        | inl before => exact accepted request before
        | inr last => exact last ▸ here
  | other log ring call served nothing ih =>
      rw [ring_after_same engine fuel ring call nothing]
      exact ih clean

-- What a removal of the earliest packet needs: its slot gives back the stream ID
-- under which the index has the entry that starts at it.
structure Evictable (ring : RingParams) (streamId : Text) : Prop where
  header : ∃ header, RingBuffer.readPacketAtOffset ring ring.earliestOffset = some header ∧ header.streamId = streamId ∧
    header.offset = ring.earliestOffset
  entry : ∃ stream, lookUp ring streamId = some (some stream) ∧ stream.streamId = streamId ∧
    stream.earliestOffset = ring.earliestOffset

theorem entry_of_head (packet : RingPacket) (rest : List RingPacket) : ∃ last,
    entryOf (packet :: rest) packet.streamId = some (streamOf packet.streamId packet last) := by
  have cons : packetsOf packet.streamId (packet :: rest) = packet :: packetsOf packet.streamId rest :=
    List.filter_cons_of_pos (decide_eq_true rfl)
  obtain ⟨last, isLast⟩ : ∃ last, (packet :: packetsOf packet.streamId rest).getLast? = some last :=
    ⟨_, List.getLast?_eq_some_getLast (List.cons_ne_nil _ _)⟩
  exact ⟨last, by rw [entryOf, cons, List.head?_cons, isLast]⟩

theorem earliest_evictable (ring : RingParams) (requests : List Request) (packets : List RingPacket)
    (keeps : KeepsLast ring requests packets) (indexes : IndexesStreams ring (residentPackets ring packets))
    (nonempty : 0 < residents ring requests.length) (request : Request)
    (isEarliest : requests[requests.length - residents ring requests.length]? = some request) :
    Evictable ring request.packet.streamId := by
  obtain ⟨other, packet, isRequest, isPacket, offset, isRead, _⟩ := keeps.slots 0 nonempty
  rw [Nat.add_zero] at isRequest isPacket
  rw [isEarliest] at isRequest
  cases isRequest
  have first : slotAt ring 0 = ring.earliestOffset := rfl
  have streamId : packet.streamId = request.packet.streamId := by
    rw [(keeps.writtenAs _ request packet isEarliest isPacket).fields]
  rw [first] at offset isRead
  obtain ⟨header, isHeader, unlinkedHeader⟩ := Option.map_eq_some_iff.mp isRead
  refine ⟨⟨header, isHeader, ?_, ?_⟩, ?_⟩
  · rw [← streamId, ← unlinkedHeader]
    rfl
  · rw [← offset, ← unlinkedHeader]
    rfl
  · obtain ⟨rest, isRest⟩ : ∃ rest, residentPackets ring packets = packet :: rest := by
      rw [residentPackets, keeps.length]
      exact ⟨_, List.drop_eq_getElem_cons (List.getElem?_eq_some_iff.mp isPacket).1 |>.trans
        (by rw [(List.getElem?_eq_some_iff.mp isPacket).2])⟩
    obtain ⟨last, isEntry⟩ := entry_of_head packet rest
    have found := indexes.lookup packet.streamId
    rw [isRest, isEntry, streamId] at found
    exact ⟨_, found, rfl, offset⟩

-- A run of commands that stores no NUL leaves in each state what the next removal
-- needs, and an index that describes the resident packets.
theorem clean_ids_evicted (engine : Engine) (fuel : Nat) (g : Geometry) (start ring : RingParams) (fresh : Fresh g start)
    (log : List (Call × RingPacket)) (served : Served engine fuel start log ring) (clean : CleanIds log) :
    (∀ before call packet, Stores before call packet →
        (RingPacket.deserialize packet.serialize = packet ↔ nul ∉ packet.streamId)) ∧
      (∀ call packet, log[log.length - residents ring log.length]? = some (call, packet) → Evictable ring packet.streamId) ∧
      ∃ packets, writeAll start (requestsOf log) = some (ring, packets) ∧ IndexesStreams ring (residentPackets ring packets) := by
  obtain ⟨packets, ran, accepted⟩ := served_writes engine fuel g start ring fresh log served clean
  obtain ⟨ring', packets', journal, ran', setup, holds, recorded⟩ :=
    write_all_spec g start Journal.empty (fresh_holds g start fresh) (requestsOf log) accepted
  rw [ran] at ran'
  cases ran'
  have maxPackets : ring.maxPackets.toNat = g.count := by rw [setup.maxPackets, fresh.maxPackets]
  have keeps := holds_keeps_last g ring (requestsOf log) packets journal maxPackets holds recorded
  have indexes := holds_indexes_streams g ring (requestsOf log) packets journal maxPackets holds recorded
  have length : (requestsOf log).length = log.length := List.length_map _
  refine ⟨header_read_back, fun call packet isEarliest => ?_, packets, ran, indexes⟩
  have inside := (List.getElem?_eq_some_iff.mp isEarliest).1
  have request : (requestsOf log)[(requestsOf log).length - residents ring (requestsOf log).length]? = some (call.request packet) := by
    rw [length, requestsOf, List.getElem?_map, isEarliest]
    rfl
  exact earliest_evictable ring (requestsOf log) packets keeps indexes (by rw [length]; omega) (call.request packet) request

-- The third packet takes the slot of the first one.
def threeByteLog : List (Call × RingPacket) :=
  [(writing "WRITE A 0 0 A 1".toList, oneByte), (writing "WRITE B 0 0 A 1".toList, { oneByte with streamId := "B".toList }),
    (writing "WRITE A 0 0 A 1".toList, oneByte)]

def twoByteRing : RingParams :=
  ringAfter plainEngine 1 (ringAfter plainEngine 1 twoSlotRing (writing "WRITE A 0 0 A 1".toList)) (writing "WRITE B 0 0 A 1".toList)

def threeByteRing : RingParams := ringAfter plainEngine 1 twoByteRing (writing "WRITE A 0 0 A 1".toList)

theorem three_byte_clean : CleanIds threeByteLog := by
  intro entry member
  simp only [threeByteLog, List.mem_cons, List.not_mem_nil, or_false] at member
  rcases member with rfl | rfl | rfl
  · decide
  · decide
  · decide

theorem three_byte_served : Served plainEngine 1 twoSlotRing threeByteLog threeByteRing := by
  have second := byte_stored (ringAfter plainEngine 1 twoSlotRing (writing "WRITE A 0 0 A 1".toList)) (by decide +kernel)
    "WRITE B 0 0 A 1".toList "B".toList (by decide +kernel) (by decide) (by decide)
  have third := byte_stored twoByteRing (by decide +kernel) "WRITE A 0 0 A 1".toList "A".toList (by decide +kernel) (by decide) (by decide)
  have both := Served.stored _ _ _ _ one_byte_served second
  exact Served.stored _ twoByteRing _ _ both third

theorem clean_ids_evicted_three_bytes :
    (∀ before call packet, Stores before call packet →
        (RingPacket.deserialize packet.serialize = packet ↔ nul ∉ packet.streamId)) ∧
      Evictable threeByteRing "B".toList ∧
      ∃ packets, writeAll twoSlotRing (requestsOf threeByteLog) = some (threeByteRing, packets) ∧
        IndexesStreams threeByteRing (residentPackets threeByteRing packets) := by
  obtain ⟨reads, evictable, indexed⟩ :=
    clean_ids_evicted plainEngine 1 twoSlots twoSlotRing threeByteRing two_slots_fresh threeByteLog three_byte_served three_byte_clean
  have two : residents threeByteRing threeByteLog.length = 2 := by decide +kernel
  refine ⟨reads, evictable (writing "WRITE B 0 0 A 1".toList) { oneByte with streamId := "B".toList } ?_, indexed⟩
  rw [two]
  rfl

def nulHeader : Text := "WRITE A".toList ++ nul :: "B 0 0 A 1".toList

-- The slot gives back A, so that the removal leaves the entry of the written ID.
theorem nul_id_not_read_back :
    (∃ packet, Stores twoSlotRing (writing nulHeader) packet ∧ packet.streamId = ['A', nul, 'B'] ∧
      (RingPacket.deserialize packet.serialize).streamId = ['A']) ∧
    (lookUp (serve plainEngine 1 twoSlotRing [writing nulHeader, writing "WRITE C 0 0 A 1".toList, writing "WRITE C 0 0 A 1".toList])
        ['A', nul, 'B']).map (·.map (·.earliestOffset)) = some (some 0) ∧
      (RingBuffer.readPacketAtOffset (serve plainEngine 1 twoSlotRing
        [writing nulHeader, writing "WRITE C 0 0 A 1".toList, writing "WRITE C 0 0 A 1".toList]) 0).map (·.streamId) =
          some ['C'] := by
  refine ⟨⟨{ oneByte with streamId := ['A', nul, 'B'] }, ⟨?_, rfl, ?_⟩, rfl, by decide +kernel⟩, by decide +kernel⟩
  · rw [IsWrite]
    decide +kernel
  · have parsed : (readCommand (writing nulHeader).client.dlCommand).parts =
        ["WRITE".toList, ['A', nul, 'B'], "0".toList, "0".toList, "A".toList, "1".toList] := by decide +kernel
    exact ⟨rfl, by decide, by decide, rfl, rfl, "WRITE".toList, ['A', nul, 'B'], "0".toList, "0".toList, "A".toList, "1".toList, [],
      parsed, rfl, by decide, by decide, by decide, by decide, by decide⟩

end RingServer.DataLink
