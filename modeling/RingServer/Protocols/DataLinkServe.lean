import RingServer.Protocols.DataLinkSteps
import RingServer.Ring.KeepRead

set_option autoImplicit false

namespace RingServer.DataLink

structure Call where
  clock : NsTime
  client : ClientInfo
  payload : List UInt8

-- none is an exception; it ends the session and leaves the ring alone.
def perform (engine : Engine) (fuel : Nat) (ring : RingParams) (call : Call) : Option Outcome :=
  match handleCommand engine fuel call.clock ring call.client with
  | .throws => none
  | .returns outcome => some outcome
  | .receives size next lost => if call.payload.length = size then next call.payload else some lost

def ringAfter (engine : Engine) (fuel : Nat) (ring : RingParams) (call : Call) : RingParams :=
  (perform engine fuel ring call).elim ring (·.ring)

def serve (engine : Engine) (fuel : Nat) (ring : RingParams) (calls : List Call) : RingParams :=
  calls.foldl (ringAfter engine fuel) ring

structure Stores (ring : RingParams) (call : Call) (packet : RingPacket) : Prop where
  command : IsWrite call.client
  perm : call.client.writePerm = true
  asks : Asks ring call.client (readCommand call.client.dlCommand).parts packet call.payload

def Call.request (call : Call) (packet : RingPacket) : Request := ⟨call.clock, packet, call.payload, packet.dataSize⟩

variable (engine : Engine) (fuel : Nat) (ring : RingParams) (call : Call)

theorem perform_does (outcome : Outcome) (ran : perform engine fuel ring call = some outcome) :
    ∃ received, Does call.clock ring call.client received outcome ∧ ∀ db, received = some db → db = call.payload := by
  have does := handle_command_does engine fuel call.clock ring call.client
  rw [perform] at ran
  cases handled : handleCommand engine fuel call.clock ring call.client with
  | throws =>
      rw [handled] at ran
      cases ran
  | returns result =>
      rw [handled] at ran does
      cases ran
      exact ⟨none, does, fun db impossible => nomatch impossible⟩
  | receives size next lost =>
      rw [handled] at ran does
      dsimp only at ran
      by_cases long : call.payload.length = size
      · rw [if_pos long] at ran
        exact ⟨some call.payload, does.2 _ _ long ran, fun db same => (Option.some.inj same).symm⟩
      · rw [if_neg long] at ran
        cases ran
        exact ⟨none, does.1, fun db impossible => nomatch impossible⟩

theorem stores_handled (packet : RingPacket) (stores : Stores ring call packet) :
    ∃ flags, handleCommand engine fuel call.clock ring call.client =
      .receives packet.dataSize.toNat (storePacket call.clock ring call.client flags packet) ⟨-1, ring, call.client, []⟩ := by
  obtain ⟨word, streamId, startStr, endStr, flags, sizeStr, behind, isParts, pktId, canonical, short, start, stop, size⟩ :=
    stores.asks.request
  obtain ⟨dsHt, isStart, dataStart⟩ := Option.map_eq_some_iff.mp start
  obtain ⟨deHt, isEnd, dataEnd⟩ := Option.map_eq_some_iff.mp stop
  have command := stores.command
  have blank := stores.asks.blank
  have limit := stores.asks.limit
  rw [IsWrite, isParts, List.head?_cons, Option.map_some, Option.some.injEq] at command
  rw [pktId, canonical, ← dataStart, ← dataEnd] at blank
  rw [canonical] at limit
  refine ⟨flags, ?_⟩
  rw [handleCommand.eq_def, isParts]
  dsimp only
  rw [if_pos command, if_pos stores.perm, handleWrite.eq_def]
  dsimp only
  rw [if_neg (not_lt.mpr short), isStart, isEnd, size]
  dsimp only
  rw [if_neg (not_not.mpr limit), if_neg stores.asks.fits, if_neg (not_lt.mpr stores.asks.array), ← blank]

theorem stores_fits (packet : RingPacket) (stores : Stores ring call packet) : Fits ring (call.request packet) := by
  have array := stores.asks.array
  have bound : RingBuffer.maxArrayLength < 2 ^ 31 := by decide
  exact ⟨stores.asks.fits, by show packet.dataSize.toNat < 2 ^ 31; omega⟩

theorem ring_after_wrote (packet : RingPacket) (stores : Stores ring call packet) (next : RingParams) (stored : RingPacket)
    (wrote : writeRequest ring (call.request packet) = some (0, next, stored)) : ringAfter engine fuel ring call = next := by
  obtain ⟨flags, handled⟩ := stores_handled engine fuel ring call packet stores
  have written : RingBuffer.write call.clock ring packet call.payload packet.dataSize = some (0, next, stored) := wrote
  rw [ringAfter, perform, handled]
  dsimp only
  rw [if_pos stores.asks.payload]
  simp only [storePacket, written, Option.bind_eq_bind, Option.bind_some]
  rw [if_neg (fun different => different rfl)]
  by_cases acknowledge : 'A' ∈ flags
  · rw [if_pos acknowledge, Option.elim_some]
    exact (return_send_moves next call.client _ (.ok none _)).ring
  · rw [if_neg acknowledge, Option.elim_some]

theorem ring_after_stores (g : Geometry) (journal : Journal) (keeps : Keeps g ring journal) (packet : RingPacket)
    (stores : Stores ring call packet) : Keeps g (ringAfter engine fuel ring call) (journal.record g (call.request packet)) := by
  obtain ⟨next, wrote, _, kept⟩ := write_keeps g ring journal keeps (call.request packet) (stores_fits ring call packet stores)
  rw [ring_after_wrote engine fuel ring call packet stores next _ wrote]
  exact kept

theorem ring_after_same (nothing : ∀ packet, ¬ Stores ring call packet) : ringAfter engine fuel ring call = ring := by
  rw [ringAfter]
  cases ran : perform engine fuel ring call with
  | none => rfl
  | some outcome =>
      obtain ⟨received, does, payload⟩ := perform_does engine fuel ring call outcome ran
      cases does with
      | moves moves => exact moves.ring
      | writes packet stored db isPayload command perm asks wrote kept sent =>
          rw [payload db isPayload] at asks
          exact absurd ⟨command, perm, asks⟩ (nothing packet)

inductive Served (engine : Engine) (fuel : Nat) (start : RingParams) : List (Call × RingPacket) → RingParams → Prop
  | start : Served engine fuel start [] start
  | stored (log : List (Call × RingPacket)) (ring : RingParams) (call : Call) (packet : RingPacket)
      (served : Served engine fuel start log ring) (stores : Stores ring call packet) :
      Served engine fuel start (log ++ [(call, packet)]) (ringAfter engine fuel ring call)
  | other (log : List (Call × RingPacket)) (ring : RingParams) (call : Call) (served : Served engine fuel start log ring)
      (nothing : ∀ packet, ¬ Stores ring call packet) : Served engine fuel start log (ringAfter engine fuel ring call)

structure Logged (g : Geometry) (call : Call) (packet : RingPacket) (entry : Entry) : Prop where
  stores : ∃ ring, Stores ring call packet
  fits : packet.dataSize.toNat + 112 ≤ g.slot
  written : WrittenAs (call.request packet) entry.packet
  body : entry.body = slotBody g.slot call.payload packet.dataSize

theorem served_logged (g : Geometry) (start : RingParams) (fresh : Fresh g start) (log : List (Call × RingPacket))
    (served : Served engine fuel start log ring) : ∃ journal, Keeps g ring journal ∧ journal.written = log.length ∧
      ∀ (n : Nat) call packet, log[n]? = some (call, packet) → Logged g call packet (journal.entry n) := by
  induction served with
  | start => exact ⟨Journal.empty, fresh_keeps g start fresh, rfl, fun n call packet isWrite => by simp at isWrite⟩
  | stored log ring call packet served stores ih =>
      obtain ⟨journal, keeps, written, logged⟩ := ih
      refine ⟨_, ring_after_stores engine fuel ring call g journal keeps packet stores, ?_, fun n other asked isWrite => ?_⟩
      · rw [List.length_append, List.length_singleton, ← written]
        rfl
      · by_cases last : n < log.length
        · rw [List.getElem?_append_left last] at isWrite
          rw [Journal.record, journal.append_entry_old _ n (by omega)]
          exact logged n other asked isWrite
        · have inside := (List.getElem?_eq_some_iff.mp isWrite).1
          rw [List.length_append, List.length_singleton] at inside
          have here : n = log.length := by omega
          rw [here, List.getElem?_concat_length] at isWrite
          cases isWrite
          rw [here, ← written, Journal.record, journal.append_entry_new]
          exact ⟨⟨ring, stores⟩, fits_slot g ring keeps.shaped _ (stores_fits ring call packet stores),
            stamp_written_as g journal (call.request packet), rfl⟩
  | other log ring call served nothing ih =>
      rw [ring_after_same engine fuel ring call nothing]
      exact ih

end RingServer.DataLink
