import RingServer.Library.Service
import RingServer.Net.ClientHandler

set_option autoImplicit false

namespace RingServer.Net

open Library

def bytesOf (socket : List Receipt) : List UInt8 :=
  socket.flatMap fun receipt => match receipt with
    | .bytes chunk => chunk
    | .wouldBlock => []

def chunkLengths (socket : List Receipt) : List Nat :=
  socket.filterMap fun receipt => match receipt with
    | .bytes chunk => some chunk.length
    | .wouldBlock => none

def commandLength (command : List UInt8 × List UInt8) : Nat := 3 + command.1.length + command.2.length

-- Every command fits the receive buffer, and each of them finds a receipt with bytes
-- that is left for it: behind any first commands start as many as commands are left.
def Served (size lag : Nat) (commands : List (List UInt8 × List UInt8)) (socket : List Receipt) : Prop :=
  (∀ command ∈ commands, 3 + command.1.length ≤ size) ∧ Suffices lag (commands.map commandLength) (chunkLengths socket)

theorem bytes_of_nil : bytesOf [] = [] := rfl

theorem bytes_of_bytes (chunk : List UInt8) (socket : List Receipt) : bytesOf (.bytes chunk :: socket) = chunk ++ bytesOf socket := rfl

theorem bytes_of_block (socket : List Receipt) : bytesOf (.wouldBlock :: socket) = bytesOf socket := rfl

theorem chunk_lengths_bytes (chunk : List UInt8) (socket : List Receipt) :
    chunkLengths (.bytes chunk :: socket) = chunk.length :: chunkLengths socket := rfl

theorem chunk_lengths_block (socket : List Receipt) : chunkLengths (.wouldBlock :: socket) = chunkLengths socket := rfl

theorem chunk_lengths_nil (socket : List Receipt) (none : chunkLengths socket = []) : bytesOf socket = [] := by
  induction socket with
  | nil => rfl
  | cons receipt rest ih =>
      cases receipt with
      | bytes chunk => cases none
      | wouldBlock => exact ih none

section

variable (size headerLen : Nat)

structure Waits (items : List Nat) (lag : Nat) (stream : List UInt8) (socket : List Receipt) (conn : Connection) : Prop where
  stream : conn.recvBuffer ++ bytesOf conn.socket = stream
  short : conn.recvBuffer.length < 3 + headerLen
  room : conn.recvBuffer.length ≤ size
  grows : lag ≤ conn.recvBuffer.length
  less : conn.socket.length ≤ socket.length
  pending : Pending lag items (chunkLengths socket) ↔ Pending conn.recvBuffer.length items (chunkLengths conn.socket)

structure Gets (items : List Nat) (lag : Nat) (stream : List UInt8) (socket : List Receipt) (header : List UInt8) (conn : Connection) :
    Prop where
  whole : 3 + headerLen ≤ stream.length
  header : header = (stream.drop 3).take headerLen
  stream : conn.recvBuffer ++ bytesOf conn.socket = stream.drop (3 + headerLen)
  room : 3 + headerLen + conn.recvBuffer.length ≤ size
  less : conn.socket.length ≤ socket.length
  pending : Pending lag items (chunkLengths socket) ↔
    Pending (3 + headerLen + conn.recvBuffer.length) items (chunkLengths conn.socket)

def BodySpec (items : List Nat) (lag : Nat) (stream : List UInt8) (socket : List Receipt) : DLCommand → Prop
  | .failed _ => stream.length < 3 + headerLen
  | .waits conn => Waits size headerLen items lag stream socket conn
  | .command _ header conn => Gets size headerLen items lag stream socket header conn

theorem body_spec_taken (items : List Nat) (lag : Nat) (stream chunk : List UInt8) (socket : List Receipt) (result : DLCommand)
    (taken : Pending lag items (chunk.length :: chunkLengths socket) ↔ Pending (lag + chunk.length) items (chunkLengths socket))
    (spec : BodySpec size headerLen items (lag + chunk.length) stream socket result) :
    BodySpec size headerLen items lag stream (.bytes chunk :: socket) result := by
  cases result with
  | failed code => exact spec
  | waits conn =>
      exact ⟨spec.stream, spec.short, spec.room, Nat.le_trans (Nat.le_add_right _ _) spec.grows, Nat.le_succ_of_le spec.less,
        taken.trans spec.pending⟩
  | command nread header conn =>
      exact ⟨spec.whole, spec.header, spec.stream, spec.room, Nat.le_succ_of_le spec.less, taken.trans spec.pending⟩

theorem gets_now (items : List Nat) (socket : List Receipt) (buffer : List UInt8) (room : buffer.length ≤ size)
    (whole : 3 + headerLen ≤ buffer.length) : Gets size headerLen items buffer.length (buffer ++ bytesOf socket) socket
      ((buffer.drop 3).take headerLen) ⟨buffer.drop (3 + headerLen), socket⟩ := by
  have lag : 3 + headerLen + (buffer.drop (3 + headerLen)).length = buffer.length := by
    rw [List.length_drop]
    omega
  refine ⟨?_, ?_, ?_, ?_, Nat.le_refl _, ?_⟩
  · rw [List.length_append]
    omega
  · rw [List.drop_append_of_le_length (by omega), List.take_append_of_le_length (by rw [List.length_drop]; omega)]
  · rw [List.drop_append_of_le_length whole]
  · rw [lag]
    exact room
  · rw [lag]

theorem waits_now (items : List Nat) (socket rest : List Receipt) (buffer : List UInt8) (room : buffer.length ≤ size)
    (short : buffer.length < 3 + headerLen) (same : bytesOf rest = bytesOf socket) (chunks : chunkLengths rest = chunkLengths socket)
    (less : rest.length ≤ socket.length) :
    Waits size headerLen items buffer.length (buffer ++ bytesOf socket) socket ⟨buffer, rest⟩ :=
  ⟨by rw [same], short, room, Nat.le_refl _, less, by rw [chunks]⟩

theorem recv_body_spec (items : List Nat) (first : ∀ item more, items = item :: more → 3 + headerLen ≤ item)
    (socket : List Receipt) (buffer : List UInt8) (totalRead : Nat) (three : 3 ≤ buffer.length) (room : buffer.length ≤ size)
    (result : DLCommand) (ran : recvBody size headerLen buffer totalRead socket = some result) :
    BodySpec size headerLen items buffer.length (buffer ++ bytesOf socket) socket result := by
  induction socket generalizing buffer totalRead with
  | nil =>
      rw [recvBody] at ran
      by_cases whole : headerLen ≤ buffer.length - 3
      · rw [if_pos whole] at ran
        cases ran
        exact gets_now size headerLen items [] buffer room (by omega)
      rw [if_neg whole] at ran
      by_cases full : size ≤ buffer.length
      · rw [if_pos full] at ran
        cases ran
        exact waits_now size headerLen items [] [] buffer room (by omega) rfl rfl (Nat.le_refl _)
      · rw [if_neg full] at ran
        cases ran
        rw [bytes_of_nil, List.append_nil, BodySpec]
        omega
  | cons receipt rest ih =>
      rw [recvBody.eq_def] at ran
      by_cases whole : headerLen ≤ buffer.length - 3
      · rw [if_pos whole] at ran
        cases ran
        exact gets_now size headerLen items _ buffer room (by omega)
      rw [if_neg whole] at ran
      by_cases full : size ≤ buffer.length
      · rw [if_pos full] at ran
        cases ran
        exact waits_now size headerLen items _ _ buffer room (by omega) rfl rfl (Nat.le_refl _)
      rw [if_neg full] at ran
      cases receipt with
      | wouldBlock =>
          cases ran
          exact waits_now size headerLen items _ rest buffer room (by omega) rfl rfl (Nat.le_succ _)
      | bytes chunk =>
          dsimp only at ran
          by_cases given : Receivable (size - buffer.length) chunk
          · rw [if_pos given] at ran
            have fits := given.2
            have stream : buffer ++ bytesOf (.bytes chunk :: rest) = buffer ++ chunk ++ bytesOf rest := by
              rw [bytes_of_bytes, List.append_assoc]
            have length : (buffer ++ chunk).length = buffer.length + chunk.length := List.length_append
            have taken := pending_take buffer.length items (chunkLengths rest) chunk.length (fun item more same => by
              have least := first item more same
              omega)
            have spec := ih (buffer ++ chunk) (totalRead + chunk.length) (by omega) (by omega) ran
            rw [length, ← stream] at spec
            exact body_spec_taken size headerLen items buffer.length _ chunk rest result taken spec
          · rw [if_neg given] at ran
            cases ran

end

theorem recv_rest_spec (items : List Nat) (lag length : Nat) (first : ∀ item more, items = item :: more → lag + length ≤ item)
    (socket : List Receipt) (payload : List UInt8) (result : Option (List UInt8) × List Receipt)
    (ran : recvRest length payload socket = some result) :
    match result.1 with
    | none => (bytesOf socket).length < length
    | some received => length ≤ (bytesOf socket).length ∧ received = payload ++ (bytesOf socket).take length ∧
        bytesOf result.2 = (bytesOf socket).drop length ∧ result.2.length ≤ socket.length ∧
        (Pending lag items (chunkLengths socket) ↔ Pending (lag + length) items (chunkLengths result.2)) := by
  induction socket generalizing lag length payload with
  | nil =>
      rw [recvRest] at ran
      by_cases done : length = 0
      · rw [if_pos done] at ran
        cases ran
        rw [done]
        exact ⟨Nat.le_refl _, (List.append_nil _).symm, rfl, Nat.le_refl _, Iff.rfl⟩
      · rw [if_neg done] at ran
        cases ran
        exact Nat.pos_of_ne_zero done
  | cons receipt rest ih =>
      rw [recvRest.eq_def] at ran
      by_cases done : length = 0
      · rw [if_pos done] at ran
        cases ran
        rw [done]
        exact ⟨Nat.zero_le _, (List.append_nil _).symm, rfl, Nat.le_refl _, Iff.rfl⟩
      rw [if_neg done] at ran
      cases receipt with
      | wouldBlock =>
          have spec := ih lag length first payload ran
          rw [bytes_of_block, chunk_lengths_block]
          cases received : result.1 with
          | none =>
              rw [received] at spec
              exact spec
          | some bytes =>
              rw [received] at spec
              obtain ⟨whole, isPayload, stream, less, pending⟩ := spec
              exact ⟨whole, isPayload, stream, Nat.le_succ_of_le less, pending⟩
      | bytes chunk =>
          dsimp only at ran
          by_cases given : Receivable length chunk
          · rw [if_pos given] at ran
            have fits := given.2
            have sum : lag + chunk.length + (length - chunk.length) = lag + length := by omega
            have taken := pending_take lag items (chunkLengths rest) chunk.length (fun item more same => by
              have least := first item more same
              omega)
            have spec := ih (lag + chunk.length) (length - chunk.length) (by rw [sum]; exact first) (payload ++ chunk) ran
            rw [bytes_of_bytes, chunk_lengths_bytes, List.length_append]
            cases received : result.1 with
            | none =>
                rw [received] at spec
                show _ < length
                omega
            | some bytes =>
                rw [received] at spec
                obtain ⟨whole, isPayload, stream, less, pending⟩ := spec
                rw [sum] at pending
                refine ⟨by omega, ?_, ?_, Nat.le_succ_of_le less, taken.trans pending⟩
                · rw [isPayload, List.take_append, List.take_of_length_le fits, List.append_assoc]
                · rw [stream, List.drop_append, List.drop_of_length_le fits, List.nil_append]
          · rw [if_neg given] at ran
            cases ran

theorem recv_data_spec (items : List Nat) (base length : Nat) (first : ∀ item more, items = item :: more → base + length ≤ item)
    (conn : Connection) (result : Option (List UInt8) × Connection) (ran : recvData length conn = some result) :
    match result.1 with
    | none => (conn.recvBuffer ++ bytesOf conn.socket).length < length
    | some received => length ≤ (conn.recvBuffer ++ bytesOf conn.socket).length ∧
        received = (conn.recvBuffer ++ bytesOf conn.socket).take length ∧
        result.2.recvBuffer ++ bytesOf result.2.socket = (conn.recvBuffer ++ bytesOf conn.socket).drop length ∧
        result.2.recvBuffer.length ≤ conn.recvBuffer.length ∧ result.2.socket.length ≤ conn.socket.length ∧
        (Pending (base + conn.recvBuffer.length) items (chunkLengths conn.socket) ↔
          Pending (base + length + result.2.recvBuffer.length) items (chunkLengths result.2.socket)) := by
  rw [recvData, Option.map_eq_some_iff] at ran
  obtain ⟨⟨received, socket⟩, ran, rfl⟩ := ran
  by_cases buffered : length ≤ conn.recvBuffer.length
  · have all : min conn.recvBuffer.length length = length := Nat.min_eq_right buffered
    rw [all, Nat.sub_self, recvRest.eq_def, if_pos rfl] at ran
    obtain ⟨rfl, rfl⟩ := Prod.mk.inj (Option.some.inj ran)
    have lag : base + length + (conn.recvBuffer.drop length).length = base + conn.recvBuffer.length := by
      rw [List.length_drop]
      omega
    rw [all]
    refine ⟨by rw [List.length_append]; omega, ?_, ?_, by rw [List.length_drop]; omega, Nat.le_refl _, by rw [lag]⟩
    · rw [List.take_append_of_le_length buffered]
    · rw [List.drop_append_of_le_length buffered]
  · have some : min conn.recvBuffer.length length = conn.recvBuffer.length := Nat.min_eq_left (by omega)
    have sum : base + conn.recvBuffer.length + (length - conn.recvBuffer.length) = base + length := by omega
    rw [some, List.take_length] at ran
    have spec := recv_rest_spec items (base + conn.recvBuffer.length) (length - conn.recvBuffer.length) (by rw [sum]; exact first)
      conn.socket _ _ ran
    rw [sum] at spec
    rw [some, List.drop_length]
    cases received with
    | none =>
        show (conn.recvBuffer ++ bytesOf conn.socket).length < length
        rw [List.length_append]
        have short : (bytesOf conn.socket).length < length - conn.recvBuffer.length := spec
        omega
    | some bytes =>
        obtain ⟨whole, isPayload, stream, less, pending⟩ := spec
        refine ⟨by rw [List.length_append]; omega, ?_, ?_, Nat.zero_le _, less, pending⟩
        · rw [isPayload, List.take_append, List.take_of_length_le (l := conn.recvBuffer) (by omega)]
        · rw [List.nil_append, stream, List.drop_append, List.drop_of_length_le (l := conn.recvBuffer) (by omega), List.nil_append]

end RingServer.Net
