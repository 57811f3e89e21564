import Mathlib.Tactic.Common

set_option autoImplicit false

namespace RingServer.Net

-- What one call of Receive comes to; behind the last one the client has closed.
inductive Receipt where
  | bytes (chunk : List UInt8)
  | wouldBlock

-- RecvBuffer up to RecvLength, and what the socket is going to give.
structure Connection where
  recvBuffer : List UInt8
  socket : List Receipt

def Receivable (space : Nat) (chunk : List UInt8) : Prop := 0 < chunk.length ∧ chunk.length ≤ space

instance (space : Nat) (chunk : List UInt8) : Decidable (Receivable space chunk) := inferInstanceAs (Decidable (_ ∧ _))

inductive DLCommand where
  | failed (code : Int)
  | waits (conn : Connection)
  | command (nread : Nat) (header : List UInt8) (conn : Connection)

-- The loop of RecvDLCommand for the header, behind the three bytes of the pre-header.
def recvBody (size headerLen : Nat) (buffer : List UInt8) (totalRead : Nat) (socket : List Receipt) : Option DLCommand :=
  if headerLen ≤ buffer.length - 3 then
    some (.command totalRead ((buffer.drop 3).take headerLen) ⟨buffer.drop (3 + headerLen), socket⟩)
  else if size ≤ buffer.length then some (.waits ⟨buffer, socket⟩)
  else match socket with
    | [] => some (.failed (-2))
    | .wouldBlock :: socket => some (.waits ⟨buffer, socket⟩)
    | .bytes chunk :: socket =>
        if Receivable (size - buffer.length) chunk then recvBody size headerLen (buffer ++ chunk) (totalRead + chunk.length) socket
        else none

-- none is a receipt that Receive cannot give. The size is RecvBufferSize.
def recvDLCommand (size : Nat) (conn : Connection) : Option DLCommand :=
  if size ≤ conn.recvBuffer.length then some (.waits conn)
  else match conn.socket with
    | [] => some (.failed (-2))
    | .wouldBlock :: socket => some (.waits ⟨conn.recvBuffer, socket⟩)
    | .bytes chunk :: socket =>
        if Receivable (size - conn.recvBuffer.length) chunk then
          let buffer := conn.recvBuffer ++ chunk
          match buffer with
          | d :: l :: headerLen :: _ =>
              if d ≠ 68 ∨ l ≠ 76 ∨ headerLen < 2 then some (.failed (-1))
              else recvBody size headerLen.toNat buffer chunk.length socket
          | _ => some (.waits ⟨buffer, socket⟩)
        else none

def recvRest (length : Nat) (payload : List UInt8) (socket : List Receipt) : Option (Option (List UInt8) × List Receipt) :=
  if length = 0 then some (some payload, socket)
  else match socket with
    | [] => some (none, [])
    | .wouldBlock :: socket => recvRest length payload socket
    | .bytes chunk :: socket =>
        if Receivable length chunk then recvRest (length - chunk.length) (payload ++ chunk) socket else none

-- The payload comes from RecvBuffer first; an inner none is the end of the stream.
def recvData (length : Nat) (conn : Connection) : Option (Option (List UInt8) × Connection) :=
  let cpy := min conn.recvBuffer.length length
  (recvRest (length - cpy) (conn.recvBuffer.take cpy) conn.socket).map fun result =>
    (result.1, ⟨conn.recvBuffer.drop cpy, result.2⟩)

-- What a command does to the session: none is a session that ends.
inductive Reaction (Session : Type) where
  | ends
  | goesOn (session : Session)
  | reads (size : Nat) (next : List UInt8 → Option Session)

structure ClientLoop (Session : Type) where
  session : Option Session
  conn : Connection
  dispatched : List (List UInt8 × List UInt8)

section

variable {Session : Type} (handle : Session → List UInt8 → Reaction Session) (size : Nat)

def dispatch (session : Session) (header : List UInt8) (conn : Connection) (dispatched : List (List UInt8 × List UInt8)) :
    Option (ClientLoop Session) :=
  match handle session header with
  | .ends => some ⟨none, conn, dispatched ++ [(header, [])]⟩
  | .goesOn session => some ⟨some session, conn, dispatched ++ [(header, [])]⟩
  | .reads length next =>
      (recvData length conn).map fun received =>
        match received.1 with
        | none => ⟨none, received.2, dispatched⟩
        | some payload => ⟨next payload, received.2, dispatched ++ [(header, payload)]⟩

-- One turn of the loop in RunInner, without what StreamPackets sends.
def turn (loop : ClientLoop Session) : Option (ClientLoop Session) :=
  match loop.session with
  | none => some loop
  | some session =>
      (recvDLCommand size loop.conn).bind fun received =>
        match received with
        | .failed _ => some { loop with session := none }
        | .waits conn => some { loop with conn := conn }
        | .command _ header conn => dispatch handle session header conn loop.dispatched

def turns : Nat → ClientLoop Session → Option (ClientLoop Session)
  | 0, loop => some loop
  | n + 1, loop => (turn handle size loop).bind (turns n)

-- The whole stream as commands: DL, the length of the header, the header, and the
-- payload that the command announces.
def parseStream (session : Session) (bytes : List UInt8) : List (List UInt8 × List UInt8) :=
  match bytes with
  | d :: l :: headerLen :: behind =>
      if d ≠ 68 ∨ l ≠ 76 ∨ headerLen < 2 ∨ behind.length < headerLen.toNat then []
      else
        let header := behind.take headerLen.toNat
        match handle session header with
        | .ends => [(header, [])]
        | .goesOn session => (header, []) :: parseStream session (behind.drop headerLen.toNat)
        | .reads length next =>
            let payload := (behind.drop headerLen.toNat).take length
            if (behind.drop headerLen.toNat).length < length then []
            else (header, payload) :: match next payload with
              | none => []
              | some session => parseStream session ((behind.drop headerLen.toNat).drop length)
  | _ => []
termination_by bytes.length
decreasing_by
  all_goals
    simp only [List.length_drop, List.length_cons]
    omega

end

end RingServer.Net
