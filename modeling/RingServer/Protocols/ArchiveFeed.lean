import Mathlib.Data.List.ReduceOption
import RingServer.Mseed.WriteQueue
import RingServer.Protocols.DataLinkIds
import RingServer.Protocols.ServerRun

set_option autoImplicit false

namespace RingServer.DataLink

def writtenPacket (parts : List Text) : Option RingPacket :=
  match parts with
  | _ :: streamId :: startStr :: endStr :: flags :: sizeStr :: behind =>
      match tryParseLong startStr, tryParseLong endStr, tryParseUInt sizeStr with
      | some dsHt, some deHt, some dSize =>
          some ⟨0, requestedId flags behind.head?, ⟨0⟩, 0, canonicalStreamId streamId, microseconds dsHt, microseconds deHt, dSize⟩
      | _, _, _ => none
  | _ => none

-- The record that HandleWrite enqueues; the sample rate is 0, and the ID is the one that
-- Write has put into the packet.
def recordOf (packet : RingPacket) (data : List UInt8) (pktId : UInt64) : MseedRecord :=
  ⟨packet.streamId, packet.dataStart, packet.dataEnd, 0, packet.dataSize, data, pktId⟩

instance (client : ClientInfo) : Decidable (IsWrite client) := inferInstanceAs (Decidable (_ = _))

def archived (engine : Engine) (fuel : Nat) (ring : RingParams) (call : Call) : Option MseedRecord :=
  match handleCommand engine fuel call.clock ring call.client with
  | .receives size _ _ =>
      if IsWrite call.client ∧ call.payload.length = size then do
        let packet ← writtenPacket (readCommand call.client.dlCommand).parts
        let (rv, _, stored) ← RingBuffer.write call.clock ring packet call.payload packet.dataSize
        if rv = 0 then some (recordOf packet call.payload stored.pktId) else none
      else none
  | _ => none

section

variable (engine : Engine) (fuel : Nat) (ring : RingParams) (call : Call)

theorem handle_write_receives (clock : NsTime) (client : ClientInfo) (parts : List Text) (size : Nat)
    (next : List UInt8 → Option Outcome) (lost : Outcome) (handled : handleWrite clock ring client parts = .receives size next lost)
    (packet : RingPacket) (isPacket : writtenPacket parts = some packet) (db : List UInt8) (long : db.length = size) :
    Asks ring client parts packet db := by
  rw [handleWrite.eq_def] at handled
  split at handled
  · rename_i word streamId startStr endStr flags sizeStr behind
    by_cases tooLong : Constants.maxStreamId - 1 < streamId.length
    · rw [if_pos tooLong] at handled
      cases handled
    rw [if_neg tooLong] at handled
    rw [writtenPacket.eq_def] at isPacket
    dsimp only at isPacket
    cases isStart : tryParseLong startStr with
    | none =>
        rw [isStart] at isPacket
        cases isPacket
    | some dsHt =>
        cases isEnd : tryParseLong endStr with
        | none =>
            rw [isStart, isEnd] at isPacket
            cases isPacket
        | some deHt =>
            cases isSize : tryParseUInt sizeStr with
            | none =>
                rw [isStart, isEnd, isSize] at isPacket
                cases isPacket
            | some dSize =>
                rw [isStart, isEnd, isSize] at isPacket handled
                dsimp only at isPacket handled
                cases isPacket
                by_cases limit : ¬ client.reader.limit.all (· (canonicalStreamId streamId)) = true
                · rw [if_pos limit] at handled
                  cases handled
                rw [if_neg limit] at handled
                by_cases large : 112 + dSize > ring.pktSize
                · rw [if_pos large] at handled
                  cases handled
                rw [if_neg large] at handled
                by_cases array : RingBuffer.maxArrayLength < dSize.toNat
                · rw [if_pos array] at handled
                  cases handled
                rw [if_neg array] at handled
                cases handled
                exact ⟨not_not.mp limit, large, not_lt.mp array, long, rfl, word, streamId, startStr, endStr, flags, sizeStr, behind,
                  rfl, rfl, rfl, not_lt.mp tooLong, by rw [isStart]; rfl, by rw [isEnd]; rfl, isSize⟩
  · cases handled

theorem stores_packet (packet : RingPacket) (stores : Stores ring call packet) :
    writtenPacket (readCommand call.client.dlCommand).parts = some packet := by
  obtain ⟨word, streamId, startStr, endStr, flags, sizeStr, behind, isParts, pktId, canonical, -, start, stop, size⟩ :=
    stores.asks.request
  obtain ⟨dsHt, isStart, dataStart⟩ := Option.map_eq_some_iff.mp start
  obtain ⟨deHt, isEnd, dataEnd⟩ := Option.map_eq_some_iff.mp stop
  have blank := stores.asks.blank
  rw [pktId, canonical, ← dataStart, ← dataEnd] at blank
  rw [isParts, writtenPacket.eq_def]
  dsimp only
  rw [isStart, isEnd, size]
  dsimp only
  rw [← blank]

theorem write_handled (command : IsWrite call.client) (size : Nat) (next : List UInt8 → Option Outcome) (lost : Outcome)
    (handled : handleCommand engine fuel call.clock ring call.client = .receives size next lost) :
    call.client.writePerm = true ∧
      handleWrite call.clock ring call.client (readCommand call.client.dlCommand).parts = .receives size next lost := by
  rw [IsWrite] at command
  rw [handleCommand.eq_def] at handled
  cases isParts : (readCommand call.client.dlCommand).parts with
  | nil =>
      rw [isParts] at command
      cases command
  | cons word arguments =>
      rw [isParts, List.head?_cons, Option.map_some, Option.some.injEq] at command
      rw [isParts] at handled
      dsimp only at handled
      rw [if_pos command] at handled
      by_cases perm : call.client.writePerm = true
      · rw [if_pos perm] at handled
        exact ⟨perm, handled⟩
      · rw [if_neg perm] at handled
        cases handled

theorem archived_stores (record : MseedRecord) (isArchived : archived engine fuel ring call = some record) :
    ∃ packet next stored, Stores ring call packet ∧ writeRequest ring (call.request packet) = some (0, next, stored) ∧
      record = recordOf packet call.payload stored.pktId := by
  rw [archived] at isArchived
  cases handled : handleCommand engine fuel call.clock ring call.client with
  | throws =>
      rw [handled] at isArchived
      cases isArchived
  | returns outcome =>
      rw [handled] at isArchived
      cases isArchived
  | receives size next lost =>
      rw [handled] at isArchived
      dsimp only at isArchived
      by_cases received : IsWrite call.client ∧ call.payload.length = size
      · rw [if_pos received] at isArchived
        simp only [Option.bind_eq_bind, Option.bind_eq_some_iff] at isArchived
        obtain ⟨packet, isPacket, ⟨rv, after, stored⟩, wrote, isRecord⟩ := isArchived
        by_cases success : rv = 0
        · rw [if_pos success] at isRecord
          obtain ⟨perm, isWrite⟩ := write_handled engine fuel ring call received.1 size next lost handled
          have asks := handle_write_receives ring call.clock call.client _ size next lost isWrite packet isPacket call.payload received.2
          exact ⟨packet, after, stored, ⟨received.1, perm, asks⟩, success ▸ wrote, (Option.some.inj isRecord).symm⟩
        · rw [if_neg success] at isRecord
          cases isRecord
      · rw [if_neg received] at isArchived
        cases isArchived

theorem stores_archived (packet : RingPacket) (stores : Stores ring call packet) (next : RingParams) (stored : RingPacket)
    (wrote : writeRequest ring (call.request packet) = some (0, next, stored)) :
    archived engine fuel ring call = some (recordOf packet call.payload stored.pktId) := by
  obtain ⟨flags, handled⟩ := stores_handled engine fuel ring call packet stores
  have written : RingBuffer.write call.clock ring packet call.payload packet.dataSize = some (0, next, stored) := wrote
  rw [archived, handled]
  dsimp only
  rw [if_pos ⟨stores.command, stores.asks.payload⟩, stores_packet ring call packet stores]
  simp only [Option.bind_eq_bind, Option.bind_some, written]
  rfl

end

end RingServer.DataLink

namespace RingServer

open DataLink MseedArchive

-- What the clients of a server share: the ring, the records between Write and Enqueue, the
-- archive, and the rows that retention has taken out of it.
structure Shared where
  ring : RingParams
  onTheWay : List MseedRecord
  queue : WriteQueue
  evicted : List Row

-- A command of some DataLink client up to Enqueue, a request of some HTTP client, a call of
-- Enqueue, what the archive does by itself, and the rows that a statement of its retention
-- removes (InlineEvictExpired at the end of a flush, PruneOldPartitions).
inductive SharedEvent where
  | command (call : Call)
  | request (web : Http.Surroundings) (clock : Nat → NsTime) (reader : RingReader) (recvBuffer : List UInt8)
  | enqueue (i : Nat)
  | archive (event : Event)
  | evict (expired : Row → Bool)

def isEnqueue : Event → Bool
  | .enqueue _ => true
  | _ => false

section

variable (engine : Engine) (fuel : Nat) (stationOf : Text → Int64)

def sharedStep (shared : Shared) : SharedEvent → Option Shared
  | .command call =>
      some { shared with
        ring := ringAfter engine fuel shared.ring call
        onTheWay := shared.onTheWay ++ (archived engine fuel shared.ring call).toList }
  | .request web clock reader recvBuffer =>
      some { shared with ring := (Http.handleRequest web clock shared.ring reader recvBuffer).elim shared.ring (·.ring) }
  | .enqueue i =>
      shared.onTheWay[i]?.bind fun record => (step stationOf shared.queue (.enqueue record)).map fun queue =>
        { shared with onTheWay := shared.onTheWay.eraseIdx i, queue := queue }
  | .archive event =>
      if isEnqueue event then none
      else (step stationOf shared.queue event).map fun queue => { shared with queue := queue }
  | .evict expired =>
      some { shared with
        queue := { shared.queue with rows := shared.queue.rows.filter fun row => !expired row }
        evicted := shared.evicted ++ shared.queue.rows.filter expired }

def sharedRun (shared : Shared) : List SharedEvent → Option Shared
  | [] => some shared
  | event :: rest => (sharedStep engine fuel stationOf shared event).bind fun next => sharedRun next rest

def forfeits (shared : Shared) : SharedEvent → List MseedRecord
  | .command _ => []
  | .request _ _ _ _ => []
  | .enqueue i => if shared.queue.disposed then shared.onTheWay[i]?.toList else []
  | .archive event => drops stationOf shared.queue event
  | .evict _ => []

def forfeited (shared : Shared) : List SharedEvent → List MseedRecord
  | [] => []
  | event :: rest =>
      forfeits stationOf shared event ++ (sharedStep engine fuel stationOf shared event).elim [] fun next => forfeited next rest

structure CopyOf (g : Geometry) (journal : Journal) (n : Nat) (record : MseedRecord) : Prop where
  packet : record = recordOf (journal.packet n) record.rawData (journal.packet n).pktId
  body : (journal.entry n).body = slotBody g.slot record.rawData record.dataSize
  whole : record.rawData.length = record.dataSize.toNat

-- The packets behind those of the start are those of the clients, each with its record if it
-- is a DataLink packet. A record is one row, or was one until it was evicted, or waits, or is
-- lost, and nothing else is or was a row.
structure Mirrored (g : Geometry) (start : Journal) (shared : Shared) (records : List (Option MseedRecord))
    (lost : List MseedRecord) (journal : Journal) : Prop where
  keeps : Keeps g shared.ring journal
  written : journal.written = start.written + records.length
  old : ∀ i, i < start.written → journal.entry i = start.entry i
  copied : ∀ (n : Nat) record, records[n]? = some (some record) → CopyOf g journal (start.written + n) record
  posted : ∀ n : Nat, records[n]? = some none → (journal.packet (start.written + n)).streamId = "HTTP".toList
  accounted : (records.reduceOption.map (rowOf stationOf)).Perm
    (shared.queue.rows ++ (shared.evicted ++ (shared.queue.held ++ (shared.onTheWay ++ lost)).map (rowOf stationOf)))

theorem append_entry_cases {α : Type} (entries : List α) (entry other : α) (n : Nat)
    (isEntry : (entries ++ [entry])[n]? = some other) : entries[n]? = some other ∨ n = entries.length ∧ other = entry := by
  by_cases old : n < entries.length
  · rw [List.getElem?_append_left old] at isEntry
    exact .inl isEntry
  · have below := (List.getElem?_eq_some_iff.mp isEntry).1
    rw [List.length_append, List.length_singleton] at below
    have last : n = entries.length := by omega
    rw [last, List.getElem?_concat_length] at isEntry
    exact .inr ⟨last, (Option.some.inj isEntry).symm⟩

theorem mirrored_write (g : Geometry) (start : Journal) (shared : Shared) (records : List (Option MseedRecord))
    (lost : List MseedRecord) (journal : Journal) (mirrored : Mirrored stationOf g start shared records lost journal)
    (request : Request) (ring : RingParams) (kept : Keeps g ring (journal.record g request)) (entry : Option MseedRecord)
    (copied : ∀ record, entry = some record → CopyOf g (journal.record g request) journal.written record)
    (posted : entry = none → request.packet.streamId = "HTTP".toList) :
    Mirrored stationOf g start { shared with ring := ring, onTheWay := shared.onTheWay ++ entry.toList } (records ++ [entry]) lost
      (journal.record g request) := by
  have count : journal.written = start.written + records.length := mirrored.written
  have before (n : Nat) (other : Option MseedRecord) (isEntry : records[n]? = some other) :
      (journal.record g request).entry (start.written + n) = journal.entry (start.written + n) := by
    have inside := (List.getElem?_eq_some_iff.mp isEntry).1
    exact journal.append_entry_old _ _ (by omega)
  refine ⟨kept, ?_, fun i below => ?_, fun n record isEntry => ?_, fun n isEntry => ?_, ?_⟩
  · rw [List.length_append, List.length_singleton, ← Nat.add_assoc, ← count]
    rfl
  · rw [Journal.record, journal.append_entry_old _ i (by omega)]
    exact mirrored.old i below
  · rcases append_entry_cases _ _ _ n isEntry with old | ⟨last, same⟩
    · have copy := mirrored.copied n record old
      exact ⟨by rw [Journal.packet, before n _ old]; exact copy.packet, by rw [before n _ old]; exact copy.body, copy.whole⟩
    · rw [last, ← count]
      exact copied record same.symm
  · rcases append_entry_cases _ _ _ n isEntry with old | ⟨last, same⟩
    · rw [Journal.packet, before n _ old]
      exact mirrored.posted n old
    · rw [last, ← count, Journal.record, journal.append_packet_new]
      exact posted same.symm
  · rw [List.perm_iff_count]
    intro row
    have accounted := mirrored.accounted.count_eq row
    have added : [entry].reduceOption = entry.toList := by cases entry <;> rfl
    simp only [List.reduceOption_append, added, List.map_append, List.count_append] at accounted ⊢
    omega

theorem mirrored_command (g : Geometry) (start : Journal) (shared : Shared) (records : List (Option MseedRecord))
    (lost : List MseedRecord) (journal : Journal) (mirrored : Mirrored stationOf g start shared records lost journal) (call : Call) :
    ∃ new journal', Mirrored stationOf g start { shared with
      ring := ringAfter engine fuel shared.ring call
      onTheWay := shared.onTheWay ++ (archived engine fuel shared.ring call).toList } (records ++ new) lost journal' := by
  cases isArchived : archived engine fuel shared.ring call with
  | none =>
      have nothing : ∀ packet, ¬ Stores shared.ring call packet := by
        intro packet stores
        obtain ⟨next, wrote, -, -⟩ := write_keeps g _ journal mirrored.keeps (call.request packet) (stores_fits _ call packet stores)
        rw [stores_archived engine fuel _ call packet stores next _ wrote] at isArchived
        cases isArchived
      refine ⟨[], journal, ?_⟩
      rw [ring_after_same engine fuel _ call nothing, List.append_nil, Option.toList_none, List.append_nil]
      exact mirrored
  | some record =>
      obtain ⟨packet, next, stored, stores, wrote, isRecord⟩ := archived_stores engine fuel _ call record isArchived
      obtain ⟨next', wrote', -, kept⟩ := write_keeps g _ journal mirrored.keeps (call.request packet) (stores_fits _ call packet stores)
      rw [wrote] at wrote'
      cases wrote'
      refine ⟨[some record], journal.record g (call.request packet), ?_⟩
      rw [ring_after_wrote engine fuel _ call packet stores _ _ wrote]
      refine mirrored_write stationOf g start shared records lost journal mirrored (call.request packet) _ kept (some record) ?_
        fun absent => nomatch absent
      intro other same
      obtain rfl := Option.some.inj same
      rw [isRecord]
      refine ⟨?_, ?_, stores.asks.payload⟩
      · rw [Journal.record, journal.append_packet_new]
        rfl
      · rw [Journal.record, journal.append_entry_new]
        rfl

theorem mirrored_request (g : Geometry) (start : Journal) (shared : Shared) (records : List (Option MseedRecord))
    (lost : List MseedRecord) (journal : Journal) (mirrored : Mirrored stationOf g start shared records lost journal)
    (web : Http.Surroundings) (clock : Nat → NsTime) (reader : RingReader) (recvBuffer : List UInt8) :
    ∃ new journal', Mirrored stationOf g start
      { shared with ring := (Http.handleRequest web clock shared.ring reader recvBuffer).elim shared.ring (·.ring) } (records ++ new) lost
      journal' := by
  have same : ∃ new journal', Mirrored stationOf g start shared (records ++ new) lost journal' :=
    ⟨[], journal, by rw [List.append_nil]; exact mirrored⟩
  cases ran : Http.handleRequest web clock shared.ring reader recvBuffer with
  | none => exact same
  | some outcome =>
      rcases handle_request_ring web clock _ reader recvBuffer outcome ran with unchanged | ⟨-, packet, data, stored, wrote, named⟩
      · rw [Option.elim_some, unchanged]
        exact same
      · have kept := (wrote_records g _ _ journal mirrored.keeps ⟨clock 2, packet, data, packet.dataSize⟩ stored wrote).1
        have next := mirrored_write stationOf g start shared records lost journal mirrored _ _ kept none (fun _ absent => nomatch absent)
          fun _ => named
        rw [Option.toList_none, List.append_nil] at next
        exact ⟨[none], _, next⟩

theorem mirrored_moves (g : Geometry) (start : Journal) (shared : Shared) (records : List (Option MseedRecord))
    (lost : List MseedRecord) (journal : Journal) (mirrored : Mirrored stationOf g start shared records lost journal)
    (event : Event) (queue : WriteQueue) (stepped : step stationOf shared.queue event = some queue) (onTheWay new : List MseedRecord)
    (moved : ∀ row, (shared.onTheWay.map (rowOf stationOf)).count row + ((drops stationOf shared.queue event).map (rowOf stationOf)).count row =
      (onTheWay.map (rowOf stationOf)).count row + ((takes shared.queue.disposed event).map (rowOf stationOf)).count row +
        (new.map (rowOf stationOf)).count row) :
    Mirrored stationOf g start { shared with onTheWay := onTheWay, queue := queue } records (lost ++ new) journal := by
  refine ⟨mirrored.keeps, mirrored.written, mirrored.old, mirrored.copied, mirrored.posted, ?_⟩
  rw [List.perm_iff_count]
  intro row
  have accounted := mirrored.accounted.count_eq row
  have loses := (step_loses stationOf shared.queue queue event stepped).rows row
  have places := moved row
  simp only [List.map_append, List.count_append] at accounted loses ⊢
  omega

theorem mirrored_evicts (g : Geometry) (start : Journal) (shared : Shared) (records : List (Option MseedRecord))
    (lost : List MseedRecord) (journal : Journal) (mirrored : Mirrored stationOf g start shared records lost journal)
    (expired : Row → Bool) :
    Mirrored stationOf g start { shared with
      queue := { shared.queue with rows := shared.queue.rows.filter fun row => !expired row }
      evicted := shared.evicted ++ shared.queue.rows.filter expired } records lost journal := by
  refine ⟨mirrored.keeps, mirrored.written, mirrored.old, mirrored.copied, mirrored.posted, ?_⟩
  rw [List.perm_iff_count]
  intro row
  have accounted := mirrored.accounted.count_eq row
  have parted := (List.filter_append_perm expired shared.queue.rows).count_eq row
  have held : ({ shared.queue with rows := shared.queue.rows.filter fun row => !expired row } : WriteQueue).held = shared.queue.held := rfl
  rw [List.count_append] at parted
  simp only [held, List.map_append, List.count_append] at accounted ⊢
  omega

theorem takes_nothing (disposed : Bool) (event : Event) (other : isEnqueue event = false) : takes disposed event = [] := by
  cases event with
  | enqueue record => cases other
  | flush => rfl
  | dequeue i => rfl
  | drained i => rfl
  | write i outcomes => rfl
  | dispose => rfl

theorem mirrored_step (g : Geometry) (start : Journal) (shared : Shared) (records : List (Option MseedRecord))
    (lost : List MseedRecord) (journal : Journal) (mirrored : Mirrored stationOf g start shared records lost journal)
    (event : SharedEvent) (next : Shared) (stepped : sharedStep engine fuel stationOf shared event = some next) :
    ∃ new journal', Mirrored stationOf g start next (records ++ new) (lost ++ forfeits stationOf shared event) journal' := by
  cases event with
  | command call =>
      cases stepped
      rw [forfeits, List.append_nil]
      exact mirrored_command engine fuel stationOf g start shared records lost journal mirrored call
  | request web clock reader recvBuffer =>
      cases stepped
      rw [forfeits, List.append_nil]
      exact mirrored_request stationOf g start shared records lost journal mirrored web clock reader recvBuffer
  | enqueue i =>
      rw [sharedStep, Option.bind_eq_some_iff] at stepped
      obtain ⟨record, isRecord, entered⟩ := stepped
      obtain ⟨queue, took, rfl⟩ := Option.map_eq_some_iff.mp entered
      refine ⟨[], journal, ?_⟩
      rw [List.append_nil]
      refine mirrored_moves stationOf g start shared records lost journal mirrored (.enqueue record) queue took _ _ fun row => ?_
      obtain ⟨inside, isEntry⟩ := List.getElem?_eq_some_iff.mp isRecord
      have taken := ((List.getElem_cons_eraseIdx_perm inside).map (rowOf stationOf)).count_eq row
      have nothing : drops stationOf shared.queue (.enqueue record) = [] := rfl
      rw [isEntry, List.map_cons, List.count_cons] at taken
      rw [nothing, forfeits, isRecord, Option.toList_some, takes]
      by_cases disposed : shared.queue.disposed = true
      · simp only [if_pos disposed, List.map_nil, List.count_nil, List.map_singleton, List.count_singleton]
        omega
      · simp only [if_neg disposed, List.map_nil, List.count_nil, List.map_singleton, List.count_singleton]
        omega
  | archive event =>
      rw [sharedStep] at stepped
      by_cases other : isEnqueue event = true
      · rw [if_pos other] at stepped
        cases stepped
      rw [if_neg other] at stepped
      obtain ⟨queue, took, rfl⟩ := Option.map_eq_some_iff.mp stepped
      refine ⟨[], journal, ?_⟩
      rw [List.append_nil]
      refine mirrored_moves stationOf g start shared records lost journal mirrored event queue took _ _ fun row => ?_
      rw [takes_nothing _ event (eq_false_of_ne_true other), forfeits, List.map_nil, List.count_nil]
      rfl
  | evict expired =>
      cases stepped
      refine ⟨[], journal, ?_⟩
      rw [forfeits, List.append_nil, List.append_nil]
      exact mirrored_evicts stationOf g start shared records lost journal mirrored expired

theorem mirrored_run (g : Geometry) (start : Journal) (events : List SharedEvent) (shared : Shared)
    (records : List (Option MseedRecord)) (lost : List MseedRecord) (journal : Journal)
    (mirrored : Mirrored stationOf g start shared records lost journal) (final : Shared)
    (ran : sharedRun engine fuel stationOf shared events = some final) :
    ∃ records' journal', Mirrored stationOf g start final records' (lost ++ forfeited engine fuel stationOf shared events) journal' := by
  induction events generalizing shared records lost journal with
  | nil =>
      cases ran
      refine ⟨records, journal, ?_⟩
      rw [forfeited, List.append_nil]
      exact mirrored
  | cons event rest ih =>
      rw [sharedRun, Option.bind_eq_some_iff] at ran
      obtain ⟨next, stepped, ran⟩ := ran
      obtain ⟨new, journal', mirrored'⟩ :=
        mirrored_step engine fuel stationOf g start shared records lost journal mirrored event next stepped
      rw [forfeited, stepped, Option.elim_some, ← List.append_assoc]
      exact ih next _ _ journal' mirrored' ran

-- Whatever the clients, the flushes and the retention do, the archive has had each packet of
-- DataLink once, but for those that it refuses or loses, and nothing else.
theorem archive_mirrors_ring (ring : RingParams) (reached : Reached ring) (events : List SharedEvent) (final : Shared)
    (ran : sharedRun engine fuel stationOf ⟨ring, [], newQueue, []⟩ events = some final) :
    ∃ g start records journal, Keeps g ring start ∧
      Mirrored stationOf g start final records (forfeited engine fuel stationOf ⟨ring, [], newQueue, []⟩ events) journal := by
  obtain ⟨⟨g, start, keeps⟩, -⟩ := reached_settled ring reached
  have empty : Mirrored stationOf g start ⟨ring, [], newQueue, []⟩ [] [] start :=
    ⟨keeps, rfl, fun _ _ => rfl, fun n record isEntry => (nomatch isEntry), fun n isEntry => (nomatch isEntry), .refl _⟩
  obtain ⟨records, journal, mirrored⟩ := mirrored_run engine fuel stationOf g start events _ [] [] start empty final ran
  exact ⟨g, start, records, journal, keeps, mirrored⟩

end

-- Two packets reach the archive in one flush and the row of the first one expires; a third
-- packet takes its place in the ring and waits for Enqueue.
def oneExpires : List SharedEvent :=
  [.command (writing "WRITE A 0 0 A 1".toList), .command (writing "WRITE B 5 5 A 1".toList), .enqueue 1, .enqueue 0, .archive .flush,
    .archive (.dequeue 0), .archive (.dequeue 0), .archive (.drained 0), .archive (.write 0 acceptsAll),
    .evict fun row => decide (row.pktId = 1), .command (writing "WRITE A 9 9 A 1".toList)]

theorem one_expires_ran : (sharedRun plainEngine 1 oneStation ⟨twoSlotRing, [], newQueue, []⟩ oneExpires).map
    (fun shared => (shared.ring.latestId, shared.queue.rows.map (·.pktId), shared.evicted.map (·.pktId), shared.onTheWay.map (·.pktId))) =
      some (3, [2], [1], [3]) := by
  decide +kernel

theorem archive_mirrors_ring_one_expires : ∃ final : Shared,
    (final.ring.latestId, final.queue.rows.map (·.pktId), final.evicted.map (·.pktId), final.onTheWay.map (·.pktId)) = (3, [2], [1], [3]) ∧
    ∃ g start records journal, Keeps g twoSlotRing start ∧ Mirrored oneStation g start final records
      (forfeited plainEngine 1 oneStation ⟨twoSlotRing, [], newQueue, []⟩ oneExpires) journal := by
  obtain ⟨final, ran, same⟩ := Option.map_eq_some_iff.mp one_expires_ran
  exact ⟨final, same, archive_mirrors_ring plainEngine 1 oneStation twoSlotRing two_slot_ring_reached oneExpires final ran⟩

end RingServer
