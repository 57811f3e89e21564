import RingServer.Library.Lines
import RingServer.Protocols.HttpRequests
import RingServer.Protocols.SeedLinkReady
import RingServer.Ring.Lifetime
import RingServer.Ring.StreamIndex

set_option autoImplicit false

namespace RingServer

open Library

def lineFormat (ending : Text) : LineFormat Char where
  isMark := fun c => c = '\n'
  strip := fun line => line.take (line.length - ending.length)
  ending := ending
  mark := '\n'
  marks := rfl

def readCatalog (ending : Text) (bytes : List UInt8) : Option (List Text) :=
  readAll (lineFormat ending).readLine bytes.length (decodeASCII bytes)

def InRing (ring : RingParams) (streamId : Text) : Prop :=
  ∃ offset packet, HeldAt ring offset ∧ RingBuffer.readPacketAtOffset ring offset = some packet ∧ packet.streamId = streamId

structure Catalog (ring : RingParams) (reader : RingReader) (ids : List Text) : Prop where
  order : ids.Pairwise fun a b => b < a
  member : ∀ streamId, streamId ∈ ids ↔ InRing ring streamId ∧ RingBuffer.listed (some reader) streamId = true

theorem ascii_text (text : Text) (small : (text.all fun c => c.toNat < 128) = true) : ∀ c ∈ text, c.toNat < 128 :=
  fun c member => of_decide_eq_true (List.all_eq_true.mp small c member)

theorem line_format_reads (ending : Text) (plain : '\n' ∉ ending) (ascii : ∀ c ∈ ending, c.toNat < 128) (lines : List Text)
    (asciiLines : ∀ line ∈ lines, ∀ c ∈ line, c.toNat < 128) :
    readCatalog ending (encodeASCII (lines.flatMap (· ++ (ending ++ ['\n'])))) = some lines ↔ ∀ line ∈ lines, '\n' ∉ line := by
  have frames : lines.flatMap (· ++ (ending ++ ['\n'])) = lines.flatMap (lineFormat ending).frame := rfl
  have whole : ∀ c ∈ lines.flatMap (lineFormat ending).frame, c.toNat < 128 := by
    intro c member
    obtain ⟨line, isLine, inLine⟩ := List.mem_flatMap.mp member
    rcases List.mem_append.mp inLine with inside | behind
    · exact asciiLines line isLine c inside
    · rcases List.mem_append.mp behind with inEnding | mark
      · exact ascii c inEnding
      · rw [List.mem_singleton.mp mark]
        exact (by decide : '\n'.toNat < 128)
  have noMark (text : Text) : (∀ c ∈ text, (lineFormat ending).isMark c = false) ↔ '\n' ∉ text := by
    constructor
    · intro all member
      exact absurd (all '\n' member) (show ¬ decide ('\n' = '\n') = false from by decide)
    · intro none c member
      exact decide_eq_false fun same => none (same ▸ member)
  have strips (line : Text) : (lineFormat ending).strip (line ++ (lineFormat ending).ending) = line := by
    have front : (line ++ ending).length - ending.length = line.length := by rw [List.length_append]; omega
    show (line ++ ending).take ((line ++ ending).length - ending.length) = line
    rw [front, List.take_left]
  have lines_iff := (lineFormat ending).read_lines_iff ((noMark ending).mpr plain) strips (fun line => List.take_subset _ line) lines
    (encodeASCII (lines.flatMap (lineFormat ending).frame)).length (by rw [encode_length])
  rw [readCatalog, frames, decode_encode _ whole, lines_iff]
  exact forall₂_congr fun line _ => noMark line

theorem in_ring_iff (g : Geometry) (ring : RingParams) (journal : Journal) (holds : Holds g ring journal) (streamId : Text) :
    InRing ring streamId ↔ ∃ i, journal.Resident g i ∧ journal.streamId i = streamId := by
  constructor
  · rintro ⟨offset, packet, held, isPacket, same⟩
    obtain ⟨i, resident, rfl⟩ := (held_at_resident g ring journal holds offset).mp held
    rw [read_resident g ring journal holds i resident] at isPacket
    obtain rfl := Option.some.inj isPacket
    exact ⟨i, resident, same⟩
  · rintro ⟨i, resident, same⟩
    exact ⟨g.offsetAt i, journal.header g i, (held_at_resident g ring journal holds _).mpr ⟨i, resident, rfl⟩,
      read_resident g ring journal holds i resident, same⟩

theorem stream_in_ring (g : Geometry) (ring : RingParams) (journal : Journal) (holds : Holds g ring journal) (streamId : Text) :
    (∃ stream, journal.streamFrom (journal.low g) streamId = some stream) ↔ InRing ring streamId := by
  rw [in_ring_iff g ring journal holds]
  constructor
  · rintro ⟨stream, isStream⟩
    obtain ⟨_, i, above, below, same, _⟩ := journal.stream_from_id _ _ _ isStream
    exact ⟨i, ⟨above, below⟩, same⟩
  · rintro ⟨i, resident, same⟩
    rcases journal.stream_from_cases (journal.low g) streamId with ⟨_, none⟩ | ⟨first, last, _, _, isStream⟩
    · exact absurd same (none i resident.1 resident.2)
    · exact ⟨_, isStream⟩

theorem catalog_of_stack (g : Geometry) (ring : RingParams) (journal : Journal) (holds : Holds g ring journal) (reader : RingReader) :
    ∃ streams : List RingStream, RingBuffer.getStreamsStack ring (some reader) = some streams ∧
      Catalog ring reader (streams.reverse.map (·.streamId)) ∧ ∀ line ∈ streams.reverse.map (·.streamId), ∀ c ∈ line, c.toNat < 128 := by
  obtain ⟨streams, stack, _, sorted, members⟩ := streams_stack_spec g ring journal holds
  have inside (stream : RingStream) (member : stream ∈ streams) : journal.streamFrom (journal.low g) stream.streamId = some stream :=
    (members stream).mp member
  refine ⟨_, stack (some reader), ⟨?_, fun streamId => ?_⟩, fun line member => ?_⟩
  · rw [List.map_reverse, List.pairwise_reverse]
    exact sorted.sublist (List.filter_sublist.map _)
  · rw [List.map_reverse, List.mem_reverse, ← stream_in_ring g ring journal holds]
    constructor
    · intro member
      obtain ⟨stream, isStream, rfl⟩ := List.mem_map.mp member
      obtain ⟨isStream, listed⟩ := List.mem_filter.mp isStream
      exact ⟨⟨stream, inside stream isStream⟩, listed⟩
    · rintro ⟨⟨stream, isStream⟩, listed⟩
      have same := (journal.stream_from_id _ _ _ isStream).1
      subst same
      exact List.mem_map.mpr ⟨stream, List.mem_filter.mpr ⟨(members stream).mpr isStream, listed⟩, rfl⟩
  · rw [List.map_reverse, List.mem_reverse] at member
    obtain ⟨stream, isStream, rfl⟩ := List.mem_map.mp member
    obtain ⟨_, i, above, below, same, _⟩ := journal.stream_from_id _ _ _ (inside stream (List.mem_filter.mp isStream).1)
    have survives := holds.survive i ⟨above, below⟩
    rw [same] at survives
    exact (survives_plain _ survives).ascii

section

variable (pageSize : UInt32) (ringSize : UInt64) (pktSize : UInt32) (ring : RingParams) (web : Http.Surroundings) (around : Surroundings)
  (session : SeedLink.Session) (ending : Text)

-- The list of streams over HTTP and the catalog of SeedLink are the streams of the packets
-- in the ring, also behind a restart, and come back line by line unless an ID has a line feed.
theorem catalogs_list_ring (lived : Lived pageSize ringSize pktSize ring) (isEnding : ending = [] ∨ ending = ['\r'])
    (webLine : web.newLine = ending ++ ['\n']) (line : around.newLine = ending ++ ['\n']) :
    ∃ ids, Catalog ring session.client.reader ids ∧
      (∃ response, Http.serveStreamList web ring session.client.reader = some response ∧
        (readCatalog ending response.body = some ids ↔ ∀ streamId ∈ ids, '\n' ∉ streamId)) ∧
      ∃ outcome, SeedLink.sendCatalog around ring session = some outcome ∧
        (readCatalog ending outcome.sent.flatten = some ("CAT".toList :: (ids ++ ["END".toList])) ↔ ∀ streamId ∈ ids, '\n' ∉ streamId) := by
  obtain ⟨g, journal, _, _, _, alive⟩ := lived_alive pageSize ringSize pktSize ring lived
  obtain ⟨streams, stack, catalog, ascii⟩ := catalog_of_stack g ring journal alive.holds session.client.reader
  have plain : '\n' ∉ ending ∧ ∀ c ∈ ending, c.toNat < 128 := by
    rcases isEnding with rfl | rfl
    · exact ⟨List.not_mem_nil, ascii_text [] rfl⟩
    · exact ⟨by decide, ascii_text ['\r'] rfl⟩
  refine ⟨_, catalog, ⟨_, by rw [Http.serveStreamList, stack]; rfl, ?_⟩, ⟨_, by rw [SeedLink.sendCatalog, stack]; rfl, ?_⟩⟩
  · have body : (streams.reverse.flatMap fun stream => stream.streamId ++ web.newLine) =
        (streams.reverse.map (·.streamId)).flatMap (· ++ (ending ++ ['\n'])) := by
      rw [webLine, List.flatMap_map]
    show readCatalog ending (encodeASCII (streams.reverse.flatMap fun stream => stream.streamId ++ web.newLine)) = some _ ↔ _
    rw [body]
    exact line_format_reads ending plain.1 plain.2 _ ascii
  · have asciiLines : ∀ text ∈ "CAT".toList :: (streams.reverse.map (·.streamId) ++ ["END".toList]), ∀ c ∈ text, c.toNat < 128 :=
      List.forall_mem_cons.mpr ⟨ascii_text _ (by decide), List.forall_mem_append.mpr ⟨ascii, List.forall_mem_singleton.mpr (ascii_text _ (by decide))⟩⟩
    have reads := line_format_reads ending plain.1 plain.2 _ asciiLines
    rw [line, List.flatten_singleton, reads, List.forall_mem_cons, List.forall_mem_append, List.forall_mem_singleton]
    exact ⟨fun all => all.2.1, fun all => ⟨by decide, all, by decide⟩⟩

end

theorem catalogs_list_wrapped : ∃ written, writeAll twoSlotFileRing threeBytes = some written ∧
    ∃ ids, Catalog written.1 SeedLink.fresh.client.reader ids ∧
      (∃ response, Http.serveStreamList Http.noFiles written.1 SeedLink.fresh.client.reader = some response ∧
        response.body = encodeASCII ['B', '\n', 'A', '\n'] ∧
        (readCatalog [] response.body = some ids ↔ ∀ streamId ∈ ids, '\n' ∉ streamId)) ∧
      ∃ outcome, SeedLink.sendCatalog SeedLink.quiet written.1 SeedLink.fresh = some outcome ∧
        (readCatalog [] outcome.sent.flatten = some ("CAT".toList :: (ids ++ ["END".toList])) ↔ ∀ streamId ∈ ids, '\n' ∉ streamId) := by
  have listed : (writeAll twoSlotFileRing threeBytes).bind (fun written =>
      (Http.serveStreamList Http.noFiles written.1 SeedLink.fresh.client.reader).map (·.body)) =
      some (encodeASCII ['B', '\n', 'A', '\n']) := by
    decide +kernel
  obtain ⟨written, ran, listed⟩ := Option.bind_eq_some_iff.mp listed
  have lived := lived_write_all 4096 4352 128 threeBytes three_bytes_plain twoSlotFileRing two_slot_file_ring_lived written ran
  obtain ⟨ids, catalog, ⟨response, served, reads⟩, sent⟩ := catalogs_list_ring 4096 4352 128 written.1 Http.noFiles SeedLink.quiet
    SeedLink.fresh [] lived (Or.inl rfl) rfl rfl
  rw [served, Option.map_some, Option.some.injEq] at listed
  exact ⟨written, ran, ids, catalog, ⟨response, served, listed, reads⟩, sent⟩

end RingServer
