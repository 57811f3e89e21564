import RingServer.Net.FramingRun
import RingServer.Protocols.DataLinkFrames

set_option autoImplicit false

namespace RingServer.DataLink

open Net

structure Serving where
  count : Nat
  ring : RingParams
  client : ClientInfo

def Serving.after (serving : Serving) (outcome : Outcome) : Option Serving :=
  if outcome.code = 0 then some ⟨serving.count + 1, outcome.ring, outcome.client⟩ else none

-- What HandleCommand does with a header. Before the command stands whatever the other
-- clients make of the ring, and streaming of the client.
def answer (engine : Engine) (fuel : Nat) (clock : Nat → NsTime) (between : Nat → RingParams → ClientInfo → RingParams × ClientInfo)
    (serving : Serving) (header : List UInt8) : Reaction Serving :=
  let now := between serving.count serving.ring serving.client
  let client := { now.2 with dlCommand := storeCommand now.2.dlCommand header }
  match handleCommand engine fuel (clock serving.count) now.1 client with
  | .throws => .ends
  | .returns outcome => match serving.after outcome with
    | some next => .goesOn next
    | none => .ends
  | .receives size next _ => .reads size fun bytes => (next bytes).bind serving.after

section

variable (engine : Engine) (fuel : Nat) (clock : Nat → NsTime)
  (between : Nat → RingParams → ClientInfo → RingParams × ClientInfo)

-- The commands of the stream are dispatched, with their payloads and in order, exactly
-- where each fits RecvBuffer and there are receipts enough behind every one of them.
theorem stream_dispatched (size rounds : Nat) (serving : Serving) (socket : List Receipt) (final : ClientLoop Serving)
    (enough : socket.length < rounds)
    (ran : turns (answer engine fuel clock between) size rounds ⟨some serving, ⟨[], socket⟩, []⟩ = some final) :
    final.dispatched = parseStream (answer engine fuel clock between) serving (bytesOf socket) ↔
      Served size 0 (parseStream (answer engine fuel clock between) serving (bytesOf socket)) socket := by
  obtain ⟨commands, log, exactly⟩ := turns_dispatch (answer engine fuel clock between) size rounds _ final (between_start size)
    enough ran
  rw [log]
  exact exactly

end

def alone (_ : Nat) (ring : RingParams) (client : ClientInfo) : RingParams × ClientInfo := (ring, client)

def idBytes : List UInt8 := [68, 76, 2, 73, 68]

def plainAnswer : Serving → List UInt8 → Reaction Serving := answer plainEngine 1 (fun _ => ⟨5⟩) alone

theorem plain_goes_on (count : Nat) (ring : RingParams) (client : ClientInfo) (header : List UInt8) (outcome : Outcome)
    (handled : handleCommand plainEngine 1 ⟨5⟩ ring { client with dlCommand := storeCommand client.dlCommand header } = .returns outcome)
    (code : outcome.code = 0) : plainAnswer ⟨count, ring, client⟩ header = .goesOn ⟨count + 1, outcome.ring, outcome.client⟩ := by
  rw [plainAnswer, answer]
  simp only [alone, handled, Serving.after, code, if_true]

theorem id_goes_on (count : Nat) (ring : RingParams) (client after : ClientInfo)
    (stored : { client with dlCommand := storeCommand client.dlCommand [73, 68] } = after)
    (parsed : (readCommand after.dlCommand).parts = ["ID".toList]) (fits : (sendPacket (idReply ring after)).isSome = true) :
    plainAnswer ⟨count, ring, client⟩ [73, 68] = .goesOn ⟨count + 1, ring, after⟩ :=
  plain_goes_on count ring client [73, 68] ⟨0, ring, after, [idReply ring after]⟩
    (by rw [stored]; exact id_handled ring after parsed fits) rfl

def idClient : ClientInfo := named "ID".toList

theorem first_id_answered : plainAnswer ⟨0, twoSlotRing, newClient⟩ [73, 68] = .goesOn ⟨1, twoSlotRing, idClient⟩ :=
  id_goes_on 0 twoSlotRing newClient idClient rfl (by decide +kernel) (by decide +kernel)

theorem next_id_answered : plainAnswer ⟨1, twoSlotRing, idClient⟩ [73, 68] = .goesOn ⟨2, twoSlotRing, idClient⟩ := by
  have stored : storeCommand idClient.dlCommand [73, 68] = idClient.dlCommand := by decide +kernel
  exact id_goes_on 1 twoSlotRing idClient idClient (by rw [stored]) (by decide +kernel) (by decide +kernel)

theorem id_turn (serving next : Serving) (answers : plainAnswer serving [73, 68] = .goesOn next) (nread : Nat)
    (conn conn' : Connection) (received : recvDLCommand 1280 conn = some (.command nread [73, 68] conn'))
    (dispatched : List (List UInt8 × List UInt8)) :
    turn plainAnswer 1280 ⟨some serving, conn, dispatched⟩ = some ⟨some next, conn', dispatched ++ [([73, 68], [])]⟩ := by
  rw [turn_received plainAnswer 1280 serving conn dispatched _ received]
  dsimp only
  rw [dispatch, answers]

theorem id_parsed (serving next : Serving) (answers : plainAnswer serving [73, 68] = .goesOn next) (behind : List UInt8) :
    parseStream plainAnswer serving (idBytes ++ behind) = ([73, 68], []) :: parseStream plainAnswer next behind := by
  have parsed := parse_first plainAnswer serving 68 76 2 (73 :: 68 :: behind) (by decide) (Nat.le_add_left 2 behind.length)
  rw [show (73 :: 68 :: behind).take (2 : UInt8).toNat = [73, 68] from rfl, answers] at parsed
  exact parsed

theorem ids_parsed : parseStream plainAnswer ⟨0, twoSlotRing, newClient⟩ (idBytes ++ idBytes) = [([73, 68], []), ([73, 68], [])] := by
  rw [id_parsed _ _ first_id_answered, ← List.append_nil idBytes, id_parsed _ _ next_id_answered,
    parse_short _ _ [] (by decide)]

theorem ids_in_two_receipts : turns plainAnswer 1280 4
      ⟨some ⟨0, twoSlotRing, newClient⟩, ⟨[], [.bytes idBytes, .wouldBlock, .bytes idBytes]⟩, []⟩ =
    some ⟨none, ⟨[], []⟩, [([73, 68], []), ([73, 68], [])]⟩ := by
  have first := id_turn _ _ first_id_answered 5 ⟨[], [.bytes idBytes, .wouldBlock, .bytes idBytes]⟩ ⟨[], [.wouldBlock, .bytes idBytes]⟩
    rfl []
  have next := id_turn _ _ next_id_answered 5 ⟨[], [.bytes idBytes]⟩ ⟨[], []⟩ rfl ([] ++ [([73, 68], [])])
  rw [turns, first, Option.bind_some, turns, turn_received plainAnswer 1280 _ _ _ (.waits ⟨[], [.bytes idBytes]⟩) rfl]
  dsimp only
  rw [Option.bind_some, turns, next, Option.bind_some, turns, turn_received plainAnswer 1280 _ _ _ (.failed (-2)) rfl]
  rfl

theorem stream_dispatched_ids : [([73, 68], []), ([73, 68], [])] =
      parseStream plainAnswer ⟨0, twoSlotRing, newClient⟩ (bytesOf [.bytes idBytes, .wouldBlock, .bytes idBytes]) ↔
    Served 1280 0 (parseStream plainAnswer ⟨0, twoSlotRing, newClient⟩ (bytesOf [.bytes idBytes, .wouldBlock, .bytes idBytes]))
      [.bytes idBytes, .wouldBlock, .bytes idBytes] :=
  stream_dispatched plainEngine 1 (fun _ => ⟨5⟩) alone 1280 4 ⟨0, twoSlotRing, newClient⟩
    [.bytes idBytes, .wouldBlock, .bytes idBytes] ⟨none, ⟨[], []⟩, [([73, 68], []), ([73, 68], [])]⟩ (by decide) ids_in_two_receipts

-- Both commands come with one receipt: the second one stays in RecvBuffer when the
-- client closes.
theorem second_id_not_dispatched : ∃ final,
    turns plainAnswer 1280 2 ⟨some ⟨0, twoSlotRing, newClient⟩, ⟨[], [.bytes (idBytes ++ idBytes)]⟩, []⟩ = some final ∧
      final.conn = ⟨idBytes, []⟩ ∧ final.dispatched = [([73, 68], [])] ∧
      final.dispatched ≠ parseStream plainAnswer ⟨0, twoSlotRing, newClient⟩ (bytesOf [.bytes (idBytes ++ idBytes)]) := by
  have first := id_turn _ _ first_id_answered 10 ⟨[], [.bytes (idBytes ++ idBytes)]⟩ ⟨idBytes, []⟩ rfl []
  refine ⟨⟨none, ⟨idBytes, []⟩, [([73, 68], [])]⟩, ?_, rfl, rfl, ?_⟩
  · rw [turns, first, Option.bind_some, turns, turn_received plainAnswer 1280 _ _ _ (.failed (-2)) rfl]
    rfl
  · have stream : bytesOf [.bytes (idBytes ++ idBytes)] = idBytes ++ idBytes := rfl
    rw [stream, ids_parsed]
    decide

end RingServer.DataLink
