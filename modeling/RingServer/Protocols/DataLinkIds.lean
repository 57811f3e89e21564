import RingServer.Protocols.DataLinkFrames
import RingServer.Protocols.DataLinkServe

set_option autoImplicit false

namespace RingServer.DataLink

open Library

def ValidId (id : UInt64) : Prop := 1 ≤ id ∧ id ≤ Constants.ringIdMaximum

instance (id : UInt64) : Decidable (ValidId id) := inferInstanceAs (Decidable (_ ∧ _))

def reservedIds : List UInt64 :=
  [Constants.ringIdError, Constants.ringIdNone, Constants.ringIdEarliest, Constants.ringIdLatest, Constants.ringIdNext]

def successor (id : UInt64) : UInt64 := if id = Constants.ringIdMaximum then 1 else id + 1

-- The packets that the journal lists are read back under their IDs, and none of these is reserved.
structure SoundIds (g : Geometry) (ring : RingParams) (journal : Journal) : Prop where
  keeps : Keeps g ring journal
  resident : ∀ i, journal.Resident g i → ∃ header, RingBuffer.readPacketAtOffset ring (g.offsetAt i) = some header ∧
    header.pktId = (journal.packet i).pktId ∧ ValidId header.pktId ∧ header.pktId ∉ reservedIds
  handed : ∀ fuel reader packet data reading, Placed g journal reader →
    RingBuffer.readNext fuel ring reader packet data = some reading →
      (reading.packet = packet ∧ reading.data = data) ∨ (reading.code = reading.packet.pktId ∧ reading.code ∉ reservedIds)
  behind : ∀ fuel reader packet data reading i, journal.Resident g i → i + 1 < journal.written → reader.pktOffset = g.offsetAt i →
    RingBuffer.passes reader (storedId (journal.streamId (i + 1))) = true →
    (journal.packet (i + 1)).pktTime.value ≤ (journal.packet (journal.written - 1)).pktTime.value →
    RingBuffer.readNext fuel ring reader packet data = some reading →
      reading.code = (journal.packet (i + 1)).pktId ∧ reading.code ∉ reservedIds
  byId : ∀ fuel reader packet data reading i, journal.written < g.count → journal.Resident g i → journal.written < fuel →
    RingBuffer.read fuel ring reader (journal.packet i).pktId packet data = some reading →
      reading.code = (journal.packet i).pktId ∧ reading.code ∉ reservedIds

def Assigns (ring : RingParams) (call : Call) (next : RingParams) : Prop :=
  ∀ packet, Stores ring call packet → packet.pktId = Constants.ringIdNone →
    ∃ stored, RingBuffer.readPacketAtOffset next next.latestOffset = some stored ∧
      (ring.latestOffset < 0 → stored.pktId = 1) ∧
      ∀ latest, RingBuffer.readPacketAtOffset ring ring.latestOffset = some latest → stored.pktId = successor latest.pktId

def Proper (ring : RingParams) (call : Call) : Prop :=
  ∀ packet, Stores ring call packet → packet.pktId = Constants.ringIdNone ∨ ValidId packet.pktId

def EachStep (engine : Engine) (fuel : Nat) (P : RingParams → Call → RingParams → Prop) (ring : RingParams) : List Call → Prop
  | [] => True
  | call :: rest => P ring call (ringAfter engine fuel ring call) ∧ EachStep engine fuel P (ringAfter engine fuel ring call) rest

theorem valid_not_reserved (id : UInt64) (valid : ValidId id) : id ∉ reservedIds := by
  intro reserved
  have beyond : (reservedIds.all fun other => ¬ other ≤ Constants.ringIdMaximum) = true := rfl
  exact of_decide_eq_true (List.all_eq_true.mp beyond id reserved) valid.2

theorem one_valid : ValidId 1 := by decide

theorem next_pkt_id_successor (packet : RingPacket) (valid : ValidId packet.pktId) :
    RingBuffer.nextPktId packet = successor packet.pktId ∧ ValidId (RingBuffer.nextPktId packet) := by
  obtain ⟨low, high⟩ := valid
  have maximum : Constants.ringIdMaximum.toNat = 18446744073709551605 := rfl
  have one : (1 : UInt64).toNat = 1 := rfl
  rw [UInt64.le_iff_toNat_le, maximum] at high
  have sum : (packet.pktId + 1).toNat = packet.pktId.toNat + 1 := by
    rw [UInt64.toNat_add, one]
    exact Nat.mod_eq_of_lt (by omega)
  rw [RingBuffer.nextPktId, successor]
  by_cases last : packet.pktId = Constants.ringIdMaximum
  · have beyond : packet.pktId + 1 > Constants.ringIdMaximum := by rw [last]; decide
    simp only [if_pos beyond, if_pos last]
    exact ⟨trivial, one_valid⟩
  · have below : packet.pktId.toNat ≠ 18446744073709551605 := fun same => last (UInt64.toNat_inj.mp (same.trans maximum.symm))
    have inside : ¬ packet.pktId + 1 > Constants.ringIdMaximum := by
      rw [gt_iff_lt, UInt64.lt_iff_toNat_lt, sum, maximum]
      omega
    simp only [if_neg inside, if_neg last]
    refine ⟨trivial, ?_, ?_⟩
    · rw [UInt64.le_iff_toNat_le, sum, one]
      omega
    · rw [UInt64.le_iff_toNat_le, sum, maximum]
      omega

def ValidIds (journal : Journal) : Prop := ∀ i, i < journal.written → ValidId (journal.packet i).pktId

theorem keeps_sound (g : Geometry) (ring : RingParams) (journal : Journal) (keeps : Keeps g ring journal) (valid : ValidIds journal) :
    SoundIds g ring journal := by
  have unreserved (i : Nat) (below : i < journal.written) : (journal.packet i).pktId ∉ reservedIds :=
    valid_not_reserved _ (valid i below)
  refine ⟨keeps, fun i resident => ?_, fun fuel reader packet data reading placed ran => ?_,
    fun fuel reader packet data reading i standing next isPlace pass time ran => ?_,
    fun fuel reader packet data reading i filling resident enough ran => ?_⟩
  · obtain ⟨header, isRead, isHeader, _⟩ := read_kept g ring keeps.shaped journal i (keeps.slots i resident)
    refine ⟨header, isRead, isHeader.pktId, ?_⟩
    rw [isHeader.pktId]
    exact ⟨valid i resident.2, unreserved i resident.2⟩
  · cases (read_next_kept g ring journal keeps packet data fuel reader reading placed ran).1 with
    | nothing isPacket isData _ => exact Or.inl ⟨isPacket, isData⟩
    | packet i resident isPacket _ _ code _ =>
        rw [isPacket.pktId, code]
        exact Or.inr ⟨rfl, unreserved i resident.2⟩
  · have code := read_next_behind g ring journal keeps i standing next packet data fuel reader reading isPlace pass time ran
    rw [code]
    exact ⟨rfl, unreserved _ next⟩
  · have code := read_by_id_kept g ring journal keeps filling i resident (valid i resident.2).2 fuel enough reader packet data reading ran
    rw [code]
    exact ⟨rfl, unreserved i resident.2⟩

theorem stamp_valid (g : Geometry) (journal : Journal) (valid : ValidIds journal) (clock : NsTime) (packet : RingPacket)
    (proper : packet.pktId = Constants.ringIdNone ∨ ValidId packet.pktId) : ValidId (journal.stamp g clock packet).pktId := by
  by_cases automatic : packet.pktId = Constants.ringIdNone
  · simp only [Journal.stamp, if_pos automatic]
    by_cases empty : journal.written = 0
    · rw [if_pos empty]
      exact one_valid
    · rw [if_neg empty]
      exact (next_pkt_id_successor _ (valid _ (Nat.sub_one_lt empty))).2
  · simp only [Journal.stamp, if_neg automatic]
    exact proper.resolve_left automatic

theorem record_valid (g : Geometry) (journal : Journal) (valid : ValidIds journal) (request : Request)
    (proper : request.packet.pktId = Constants.ringIdNone ∨ ValidId request.packet.pktId) : ValidIds (journal.record g request) := by
  intro i below
  cases Nat.lt_succ_iff_lt_or_eq.mp below with
  | inl old =>
      rw [Journal.record, journal.append_packet_old _ i old]
      exact valid i old
  | inr new =>
      rw [new, Journal.record, journal.append_packet_new]
      exact stamp_valid g journal valid request.clock request.packet proper

theorem latest_kept (g : Geometry) (ring : RingParams) (journal : Journal) (keeps : Keeps g ring journal) (nonempty : journal.written ≠ 0) :
    ∃ latest, RingBuffer.readPacketAtOffset ring ring.latestOffset = some latest ∧
      latest.pktId = (journal.packet (journal.written - 1)).pktId := by
  have positive := g.positive
  have resident : journal.Resident g (journal.written - 1) := ⟨by simp only [Journal.low, oldest]; omega, by omega⟩
  obtain ⟨header, isRead, isHeader, _⟩ := read_kept g ring keeps.shaped journal _ (keeps.slots _ resident)
  exact ⟨header, by rw [keeps.latest, if_neg nonempty, isRead], isHeader.pktId⟩

theorem stored_assigned (engine : Engine) (fuel : Nat) (g : Geometry) (ring : RingParams) (call : Call) (journal : Journal)
    (keeps : Keeps g ring journal) (valid : ValidIds journal) : Assigns ring call (ringAfter engine fuel ring call) := by
  intro packet stores automatic
  have kept := ring_after_stores engine fuel ring call g journal keeps packet stores
  obtain ⟨stored, isRead, isId⟩ := latest_kept g _ _ kept (Nat.succ_ne_zero journal.written)
  have last : (journal.record g (call.request packet)).written - 1 = journal.written := rfl
  have request : (call.request packet).packet = packet := rfl
  rw [last, Journal.record, journal.append_packet_new, request] at isId
  simp only [Journal.stamp, if_pos automatic] at isId
  refine ⟨stored, isRead, fun none => ?_, fun latest isLatest => ?_⟩
  · have empty : journal.written = 0 := by
      by_contra some
      rw [keeps.latest, if_neg some] at none
      exact g.offset_at_not_neg _ none
    rw [isId, if_pos empty]
  · have some : journal.written ≠ 0 := by
      intro empty
      rw [keeps.latest, if_pos empty, RingBuffer.readPacketAtOffset, if_pos (by decide)] at isLatest
      cases isLatest
    obtain ⟨header, isHeader, sameId⟩ := latest_kept g ring journal keeps some
    obtain rfl := Option.some.inj (isHeader.symm.trans isLatest)
    rw [isId, if_neg some, (next_pkt_id_successor _ (valid _ (Nat.sub_one_lt some))).1, sameId]

theorem served_sound (engine : Engine) (fuel : Nat) (g : Geometry) (ring : RingParams) (journal : Journal)
    (keeps : Keeps g ring journal) (valid : ValidIds journal) (calls : List Call)
    (proper : EachStep engine fuel (fun before call _ => Proper before call) ring calls) :
    EachStep engine fuel Assigns ring calls ∧ ∃ journal', SoundIds g (serve engine fuel ring calls) journal' := by
  induction calls generalizing ring journal with
  | nil => exact ⟨trivial, journal, keeps_sound g ring journal keeps valid⟩
  | cons call rest ih =>
      have assigned := stored_assigned engine fuel g ring call journal keeps valid
      by_cases stored : ∃ packet, Stores ring call packet
      · obtain ⟨packet, stores⟩ := stored
        have kept := ring_after_stores engine fuel ring call g journal keeps packet stores
        obtain ⟨each, sound⟩ := ih _ _ kept (record_valid g journal valid _ (proper.1 packet stores)) proper.2
        exact ⟨⟨assigned, each⟩, sound⟩
      · have same := ring_after_same engine fuel ring call (not_exists.mp stored)
        have after := proper.2
        rw [same] at after
        obtain ⟨each, sound⟩ := ih ring journal keeps valid after
        refine ⟨⟨assigned, ?_⟩, ?_⟩
        · rw [same]
          exact each
        · rw [serve, List.foldl_cons, same]
          exact sound

-- A run of commands whose IDs are proper leaves valid IDs only.
theorem write_run_ids_sound (engine : Engine) (fuel : Nat) (g : Geometry) (ring : RingParams) (fresh : Fresh g ring) (calls : List Call)
    (proper : EachStep engine fuel (fun before call _ => Proper before call) ring calls) :
    EachStep engine fuel Assigns ring calls ∧ ∃ journal, SoundIds g (serve engine fuel ring calls) journal :=
  served_sound engine fuel g ring Journal.empty (fresh_keeps g ring fresh) (fun i below => absurd below (Nat.not_lt_zero i)) calls proper

def writing (header : Text) : Call :=
  ⟨⟨5⟩, { newClient with dlCommand := storeCommand noCommand (encodeASCII header), writePerm := true }, [7]⟩

theorem requested_id_proper (ring : RingParams) (call : Call) (word streamId startStr endStr flags sizeStr : Text) (behind : List Text)
    (parsed : (readCommand call.client.dlCommand).parts = word :: streamId :: startStr :: endStr :: flags :: sizeStr :: behind)
    (proper : requestedId flags behind.head? = Constants.ringIdNone ∨ ValidId (requestedId flags behind.head?)) : Proper ring call := by
  intro packet stores
  obtain ⟨_, _, _, _, flags', _, behind', isParts, pktId, _⟩ := stores.asks.request
  rw [parsed] at isParts
  simp only [List.cons.injEq] at isParts
  obtain ⟨_, _, _, _, rfl, _, rfl⟩ := isParts
  rw [pktId]
  exact proper

-- An automatic ID, the ID 7 and again an automatic one, which evicts the first packet.
def sevenGiven : List Call :=
  [writing "WRITE A 0 0 A 1".toList, writing "WRITE B 0 0 I 1 7".toList, writing "WRITE A 0 0 A 1".toList]

theorem write_run_ids_sound_seven_given :
    EachStep plainEngine 1 Assigns twoSlotRing sevenGiven ∧ ∃ journal, SoundIds twoSlots (serve plainEngine 1 twoSlotRing sevenGiven) journal :=
  write_run_ids_sound plainEngine 1 twoSlots twoSlotRing two_slots_fresh sevenGiven
    ⟨requested_id_proper _ _ "WRITE".toList "A".toList "0".toList "0".toList "A".toList "1".toList [] (by decide +kernel) (.inl rfl),
      requested_id_proper _ _ "WRITE".toList "B".toList "0".toList "0".toList "I".toList "1".toList ["7".toList] (by decide +kernel)
        (.inr (by decide +kernel)),
      requested_id_proper _ _ "WRITE".toList "A".toList "0".toList "0".toList "A".toList "1".toList [] (by decide +kernel) (.inl rfl), trivial⟩

-- ReadNext then returns the ID that means an error, and the next ID is 0.
theorem write_stores_reserved_id :
    (RingBuffer.readPacketAtOffset (serve plainEngine 1 twoSlotRing [writing "WRITE A 0 0 I 1 18446744073709551615".toList]) 0).map
        (·.pktId) = some Constants.ringIdError ∧
      (RingBuffer.readNext 3 (serve plainEngine 1 twoSlotRing [writing "WRITE A 0 0 I 1 18446744073709551615".toList])
        { newClient.reader with pktId := Constants.ringIdEarliest } newPacket none).map (·.code) = some Constants.ringIdError ∧
      (RingBuffer.readPacketAtOffset (serve plainEngine 1 twoSlotRing
        [writing "WRITE A 0 0 I 1 18446744073709551615".toList, writing "WRITE A 0 0 N 1".toList]) 128).map (·.pktId) = some 0 := by
  decide +kernel

end RingServer.DataLink
