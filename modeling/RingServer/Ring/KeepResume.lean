import RingServer.Ring.KeepLate
import RingServer.Ring.KeepRun

set_option autoImplicit false

namespace RingServer

open Library

def wanted (reader : RingReader) (write : Request × RingPacket) : Bool := RingBuffer.passes reader (storedId write.2.streamId)

theorem wanted_same (old new : RingReader) (same : SameFilters old new) : wanted new = wanted old := by
  funext write
  rw [wanted, wanted, RingBuffer.passes, RingBuffer.passes, same.limit, same.matching, same.reject]

def Receives (reader : RingReader) (rest : List (Request × RingPacket)) (data : Option (List UInt8)) (reading : RingBuffer.Reading) :
    Prop :=
  match rest.find? (wanted reader) with
  | some (request, packet) => reading.code = packet.pktId ∧ HeaderOf packet reading.packet ∧
      reading.packet.streamId = storedId packet.streamId ∧ reading.data = received request data
  | none => reading.code = Constants.ringIdNone

-- Packet IDs without a gap that 24 bits tell apart.
structure Consecutive (writes : List (Request × RingPacket)) : Prop where
  few : writes.length < 2 ^ 24
  ids : ∃ first, writes.map (·.2.pktId.toNat) = List.range' first writes.length
  valid : ∀ write ∈ writes, write.2.pktId ≤ Constants.ringIdMaximum

def LateWrite (writes : List (Request × RingPacket)) (write : Request × RingPacket) : Prop :=
  ∃ last, writes.getLast? = some last ∧ last.2.pktTime.value < write.2.pktTime.value

-- No packet behind place is late, up to the first one that passes the filters. With none
-- that passes, a late packet at the start of the ring ends the loop as well.
def Unhindered (reader : RingReader) (writes : List (Request × RingPacket)) (place : Nat) : Prop :=
  let rest := writes.drop (place + 1)
  (∀ write ∈ rest.take (rest.findIdx (wanted reader) + 1), ¬ LateWrite writes write) ∨
    (rest.find? (wanted reader) = none ∧ ∃ first, writes.head? = some first ∧ LateWrite writes first)

theorem consecutive_id (writes : List (Request × RingPacket)) (consecutive : Consecutive writes) :
    ∃ first, ∀ (k : Nat) write, writes[k]? = some write → write.2.pktId.toNat = first + k := by
  obtain ⟨first, ids⟩ := consecutive.ids
  refine ⟨first, fun k write isWrite => ?_⟩
  have inside := (List.getElem?_eq_some_iff.mp isWrite).1
  have same := congrArg (·[k]?) ids
  simp only [List.getElem?_map, isWrite, Option.map_some, List.getElem?_range' inside, Option.some.injEq] at same
  omega

section

variable (g : Geometry) (journal : Journal) (writes : List (Request × RingPacket)) (payloads : Payloads g journal writes)

include payloads

theorem write_packet (k : Nat) (write : Request × RingPacket) (isWrite : writes[k]? = some write) :
    k < journal.written ∧ journal.packet k = write.2 := by
  obtain ⟨request, packet⟩ := write
  have inside := (List.getElem?_eq_some_iff.mp isWrite).1
  exact ⟨payloads.1 ▸ inside, congrArg Entry.packet (payloads.2 k request packet isWrite).2.2.2⟩

theorem wanted_iff (reader : RingReader) (k : Nat) (write : Request × RingPacket) (isWrite : writes[k]? = some write) :
    RingBuffer.passes reader (journal.storedStream k) = true ↔ wanted reader write = true := by
  rw [wanted, ← (write_packet g journal writes payloads k write isWrite).2]
  rfl

theorem late_write_iff (k : Nat) (write : Request × RingPacket) (isWrite : writes[k]? = some write) :
    LateWrite writes write ↔ journal.Late k := by
  obtain ⟨below, isPacket⟩ := write_packet g journal writes payloads k write isWrite
  have written := payloads.1
  have isLast : writes.getLast? = writes[journal.written - 1]? := by rw [List.getLast?_eq_getElem?, written]
  obtain ⟨last, atLast⟩ : ∃ last, writes[journal.written - 1]? = some last := ⟨_, List.getElem?_eq_getElem (by omega)⟩
  have lastPacket := (write_packet g journal writes payloads _ last atLast).2
  rw [Journal.Late, isPacket, lastPacket]
  constructor
  · rintro ⟨other, isOther, late⟩
    rw [isLast, atLast] at isOther
    rw [Option.some.inj isOther]
    exact late
  · exact fun late => ⟨last, isLast.trans atLast, late⟩

theorem write_stored (k : Nat) (below : k < journal.written) : ∃ write, writes[k]? = some write :=
  ⟨_, List.getElem?_eq_getElem (payloads.1 ▸ below)⟩

omit payloads in
theorem write_dropped (i k : Nat) (above : i ≤ k) (write : Request × RingPacket) (isWrite : writes[k]? = some write) :
    (writes.drop i)[k - i]? = some write := by
  rw [List.getElem?_drop, Nat.add_sub_cancel' above]
  exact isWrite

theorem clear_iff (reader : RingReader) (i : Nat) :
    Clear journal reader i ↔
      ∀ write ∈ (writes.drop i).take ((writes.drop i).findIdx (wanted reader) + 1), ¬ LateWrite writes write := by
  constructor
  · intro clear write member late
    obtain ⟨j, isWrite⟩ := List.mem_iff_getElem?.mp member
    rw [List.getElem?_take] at isWrite
    split at isWrite
    · rename_i close
      rw [List.getElem?_drop] at isWrite
      have below := (write_packet g journal writes payloads _ write isWrite).1
      refine clear (i + j) (Nat.le_add_right i j) below (fun k above less pass => ?_)
        ((late_write_iff g journal writes payloads _ write isWrite).mp late)
      obtain ⟨other, isOther⟩ := write_stored g journal writes payloads k (by omega)
      have hit := (wanted_iff g journal writes payloads reader k other isOther).mp pass
      obtain ⟨inside, isEntry⟩ := List.getElem?_eq_some_iff.mp (write_dropped writes i k above other isOther)
      have before : k - i < (writes.drop i).findIdx (wanted reader) := by omega
      have fails := List.not_of_lt_findIdx before
      rw [isEntry] at fails
      exact absurd hit (by rw [fails]; exact Bool.false_ne_true)
    · cases isWrite
  · intro clear k above below skips late
    obtain ⟨write, isWrite⟩ := write_stored g journal writes payloads k below
    have dropped := write_dropped writes i k above write isWrite
    have close : k - i < (writes.drop i).findIdx (wanted reader) + 1 := by
      by_contra far
      have inside : (writes.drop i).findIdx (wanted reader) < (writes.drop i).length := by
        have length := (List.getElem?_eq_some_iff.mp dropped).1
        omega
      have hit := List.findIdx_getElem (w := inside)
      have entry : writes[i + (writes.drop i).findIdx (wanted reader)]? =
        some (writes.drop i)[(writes.drop i).findIdx (wanted reader)] := by
        rw [← List.getElem?_drop]
        exact List.getElem?_eq_getElem inside
      exact skips _ (Nat.le_add_right i _) (by omega) ((wanted_iff g journal writes payloads reader _ _ entry).mpr hit)
    refine clear write (List.mem_iff_getElem?.mpr ⟨k - i, ?_⟩) ((late_write_iff g journal writes payloads k write isWrite).mpr late)
    rw [List.getElem?_take, if_pos close]
    exact dropped

theorem find_wanted (reader : RingReader) (i : Nat) : (writes.drop i).find? (wanted reader) =
    (firstIn (fun k => RingBuffer.passes reader (journal.storedStream k) = true) i journal.written).bind fun k => writes[k]? := by
  rw [← payloads.1]
  exact find_drop_first writes i (wanted reader) _ (fun k write isWrite => wanted_iff g journal writes payloads reader k write isWrite)

end

section

variable (g : Geometry) (ring : RingParams) (journal : Journal) (writes : List (Request × RingPacket))
  (stored : Stored g ring writes journal)

include stored

theorem receives_follows (caller : RingPacket) (data : Option (List UInt8)) (room : RoomFor ring data) (fuel : Nat)
    (enough : g.count < fuel) (reader : RingReader) (place : Nat) (resident : journal.Resident g place)
    (stands : reader.pktOffset = g.offsetAt place) (clear : Clear journal reader (place + 1)) :
    ∃ reading, RingBuffer.readNext fuel ring reader caller data = some reading ∧
      Receives reader (writes.drop (place + 1)) data reading := by
  obtain ⟨reading, ran, follows⟩ := read_next_follows g ring journal stored.keeps writes stored.payloads caller data room fuel enough
    reader place resident stands clear
  refine ⟨reading, ran, ?_⟩
  rw [Receives, find_wanted g journal writes stored.payloads]
  cases follows with
  | hit k request packet header moved found isWrite isHeader streamId stands =>
      rw [found, Option.bind_some, isWrite]
      exact ⟨rfl, isHeader, streamId, rfl⟩
  | rest moved missing stands =>
      rw [missing]
      rfl

theorem write_named (write : Request × RingPacket) (member : write ∈ writes) : write.2.pktId ≠ Constants.ringIdNone := by
  obtain ⟨k, isWrite⟩ := List.mem_iff_getElem?.mp member
  exact (stored.payloads.2 k write.1 write.2 isWrite).2.2.1.named

theorem stored_id_named (k : Nat) (below : k < journal.written) : (journal.packet k).pktId ≠ Constants.ringIdNone := by
  obtain ⟨write, isWrite⟩ := write_stored g journal writes stored.payloads k below
  rw [(write_packet g journal writes stored.payloads k write isWrite).2]
  exact write_named g ring journal writes stored write (List.mem_of_getElem? isWrite)

theorem stored_ids_apart (consecutive : Consecutive writes) (i j : Nat) (less : i < j) (below : j < journal.written) :
    (journal.packet i).pktId ≠ (journal.packet j).pktId := by
  obtain ⟨base, ids⟩ := consecutive_id writes consecutive
  obtain ⟨first, isFirst⟩ := write_stored g journal writes stored.payloads i (by omega)
  obtain ⟨second, isSecond⟩ := write_stored g journal writes stored.payloads j below
  have idFirst := ids i first isFirst
  have idSecond := ids j second isSecond
  rw [← (write_packet g journal writes stored.payloads i first isFirst).2] at idFirst
  rw [← (write_packet g journal writes stored.payloads j second isSecond).2] at idSecond
  intro same
  rw [same] at idFirst
  omega

theorem receives_hindered (filling : journal.written < g.count) (consecutive : Consecutive writes) (fuel : Nat) (reader : RingReader)
    (start stop : Nat) (above : start ≤ stop) (below : stop < journal.written) (late : journal.Late stop)
    (skips : ∀ k, start ≤ k → k < stop → ¬ RingBuffer.passes reader (journal.storedStream k) = true) (caller : RingPacket)
    (reading : RingBuffer.Reading)
    (ran : RingBuffer.readNextFrom ring (journal.packet (journal.written - 1)).pktTime (g.offsetAt journal.written) caller none fuel 0
      reader (g.offsetAt start) = some reading) (received : Receives reader (writes.drop start) none reading) :
    (writes.drop start).find? (wanted reader) = none ∧ journal.Late 0 := by
  have scanned := late_scan g ring journal stored.keeps writes stored.payloads filling start stop below late caller none
    (fun buffer isBuffer => nomatch isBuffer) fuel 0 start reader above skips reading ran
  rw [Receives, find_wanted g journal writes stored.payloads] at received
  cases found : firstIn (fun k => RingBuffer.passes reader (journal.storedStream k) = true) start journal.written with
  | none =>
      rw [found, Option.bind_none] at received
      cases scanned with
      | inl early =>
          obtain ⟨k, _, belowK, isCode, _⟩ := early
          exact absurd (isCode.symm.trans received) (stored_id_named g ring journal writes stored k belowK)
      | inr nothing =>
          refine ⟨by rw [find_wanted g journal writes stored.payloads, found, Option.bind_none], ?_⟩
          by_contra notLate
          exact nothing.2 ⟨notLate, Or.inl rfl⟩
  | some hit =>
      obtain ⟨least, belowHit, _, _⟩ := (first_in_some _ _ _ _).mp found
      obtain ⟨⟨request, packet⟩, isWrite⟩ := write_stored g journal writes stored.payloads hit belowHit
      rw [found, Option.bind_some, isWrite] at received
      have isPacket := (write_packet g journal writes stored.payloads hit _ isWrite).2
      have isCode : reading.code = (journal.packet hit).pktId := received.1.trans (congrArg RingPacket.pktId isPacket.symm)
      cases scanned with
      | inl early =>
          obtain ⟨k, less, _, other, _⟩ := early
          exact absurd (other.symm.trans isCode) (stored_ids_apart g ring journal writes stored consecutive k hit (by omega) belowHit)
      | inr nothing =>
          exact absurd (isCode.symm.trans nothing.1) (stored_id_named g ring journal writes stored hit belowHit)

theorem receives_standing (filling : journal.written < g.count) (consecutive : Consecutive writes) (fuel : Nat)
    (enough : g.count + 100 < fuel) (reader : RingReader) (place : Nat) (below : place < journal.written)
    (stands : reader.pktOffset = g.offsetAt place) :
    (∀ caller data, RoomFor ring data → ∃ reading, RingBuffer.readNext fuel ring reader caller data = some reading ∧
      Receives reader (writes.drop (place + 1)) data reading) ↔ Unhindered reader writes place := by
  have keeps := stored.keeps
  have payloads := stored.payloads
  have resident := (filling_apart g ring journal keeps filling place below).1
  have standing := fun caller data => read_next_standing g ring journal keeps caller data fuel reader place below stands
  obtain ⟨first, atFirst⟩ := write_stored g journal writes payloads 0 (by omega)
  constructor
  · intro receives
    by_contra hindered
    obtain ⟨notClear, notFirst⟩ := not_or.mp hindered
    rw [← clear_iff g journal writes payloads reader (place + 1)] at notClear
    simp only [Clear, not_forall, not_not] at notClear
    obtain ⟨stop, above, belowStop, skips, late⟩ := notClear
    obtain ⟨reading, ran, received⟩ := receives (journal.packet 0) none (fun buffer isBuffer => nomatch isBuffer)
    rw [standing] at ran
    obtain ⟨missing, lateFirst⟩ := receives_hindered g ring journal writes stored filling consecutive fuel reader (place + 1) stop above
      belowStop late skips _ reading ran received
    exact notFirst ⟨missing, first, List.head?_eq_getElem? ▸ atFirst,
      (late_write_iff g journal writes payloads 0 first atFirst).mpr lateFirst⟩
  · rintro (clear | ⟨missing, isFirst⟩) caller data room
    · exact receives_follows g ring journal writes stored caller data room fuel (by omega) reader place resident stands
        ((clear_iff g journal writes payloads reader (place + 1)).mpr clear)
    · obtain ⟨head, isHead, lateHead⟩ := isFirst
      rw [List.head?_eq_getElem?] at isHead
      have late := (late_write_iff g journal writes payloads 0 head isHead).mp lateHead
      have fails : ∀ k, place + 1 ≤ k → k < journal.written → ¬ RingBuffer.passes reader (journal.storedStream k) = true := by
        intro k above belowK pass
        obtain ⟨write, isWrite⟩ := write_stored g journal writes payloads k belowK
        have hit := (wanted_iff g journal writes payloads reader k write isWrite).mp pass
        exact List.find?_eq_none.mp missing write (List.mem_of_getElem? (write_dropped writes (place + 1) k above write isWrite)) hit
      obtain ⟨reading, ran, isNone⟩ := late_rest g ring journal keeps writes payloads filling late caller data room fuel (place + 1)
        reader (by omega) (by omega) (by omega) fails
      refine ⟨reading, (standing caller data).trans ran, ?_⟩
      rw [Receives, missing]
      exact isNone

theorem receives_unset (nonempty : journal.written ≠ 0) (fuel : Nat) (reader : RingReader) (unset : reader.pktOffset < 0)
    (notLatest : reader.pktId ≠ Constants.ringIdLatest) (notEarliest : reader.pktId ≠ Constants.ringIdEarliest)
    (rest : List (Request × RingPacket)) (valid : ∀ write ∈ rest, write.2.pktId ≤ Constants.ringIdMaximum) :
    (∀ caller data, RoomFor ring data → ∃ reading, RingBuffer.readNext fuel ring reader caller data = some reading ∧
      Receives reader rest data reading) ↔ reader.pktId = Constants.ringIdNext ∧ rest.find? (wanted reader) = none := by
  have reads := read_next_unset g ring journal stored.keeps nonempty fuel reader unset notLatest notEarliest
  constructor
  · intro receives
    obtain ⟨reading, ran, received⟩ := receives (journal.packet 0) none (fun buffer isBuffer => nomatch isBuffer)
    obtain ⟨same, ran', isCode⟩ := reads (journal.packet 0) none
    obtain rfl := Option.some.inj (ran'.symm.trans ran)
    have reserved : ¬ Constants.ringIdError ≤ Constants.ringIdMaximum ∧ ¬ Constants.ringIdNone ≤ Constants.ringIdMaximum := by decide
    rw [Receives] at received
    cases found : rest.find? (wanted reader) with
    | none =>
        rw [found] at received
        refine ⟨?_, rfl⟩
        by_contra other
        rw [if_neg other, received] at isCode
        exact absurd isCode (by decide)
    | some write =>
        rw [found] at received
        have isValid := valid write (List.mem_of_find?_eq_some found)
        rw [← received.1, isCode] at isValid
        by_cases next : reader.pktId = Constants.ringIdNext
        · rw [if_pos next] at isValid
          exact absurd isValid reserved.2
        · rw [if_neg next] at isValid
          exact absurd isValid reserved.1
  · rintro ⟨next, missing⟩ caller data _
    obtain ⟨reading, ran, isCode⟩ := reads caller data
    refine ⟨reading, ran, ?_⟩
    rw [Receives, missing]
    exact isCode.trans (if_pos next)

end

end RingServer
