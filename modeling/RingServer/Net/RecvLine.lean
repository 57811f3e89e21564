import RingServer.Net.Framing

set_option autoImplicit false

namespace RingServer.Net

def isTerminator (byte : UInt8) : Bool := byte == 10 || byte == 13

inductive LineReceipt where
  | failed (code : Int)
  | received (nread : Nat) (conn : Connection)

def searchLine (conn : Connection) : LineReceipt := .received ((conn.recvBuffer.findIdx? isTerminator).getD 0) conn

-- Ten terminators are too many empty lines.
def skipEmpty (size : Nat) (conn : Connection) : Option LineReceipt :=
  let buffer := conn.recvBuffer.dropWhile isTerminator
  if 10 ≤ (conn.recvBuffer.takeWhile isTerminator).length then some (.failed (-1))
  else if buffer ≠ [] then some (searchLine ⟨buffer, conn.socket⟩)
  else match conn.socket with
    | [] => some (.failed (-2))
    | .wouldBlock :: socket => some (.received 0 ⟨[], socket⟩)
    | .bytes chunk :: socket => if Receivable size chunk then some (searchLine ⟨chunk, socket⟩) else none

-- Nothing is received into a full buffer, nor while there is a terminator in it.
def recvLine (size : Nat) (conn : Connection) : Option LineReceipt :=
  if conn.recvBuffer.any isTerminator = true ∨ size ≤ conn.recvBuffer.length then skipEmpty size conn
  else match conn.socket with
    | [] => some (.failed (-2))
    | .wouldBlock :: socket => some (.received 0 ⟨conn.recvBuffer, socket⟩)
    | .bytes chunk :: socket =>
        if Receivable (size - conn.recvBuffer.length) chunk then skipEmpty size ⟨conn.recvBuffer ++ chunk, socket⟩ else none

-- A line feed behind a carriage return goes with it where it is in the buffer already.
def consumed (nread : Nat) (buffer : List UInt8) : Nat :=
  if buffer[nread]? = some 10 then nread + 1
  else if buffer[nread]? = some 13 then if buffer[nread + 1]? = some 10 then nread + 2 else nread + 1
  else nread

-- The session, whether it has ended, and the lines that were handed to it.
structure LineLoop (Session : Type) where
  session : Session
  ended : Bool
  socketErr : Int
  conn : Connection
  dispatched : List (List UInt8)

section

-- The handler of a line sees the whole buffer, with a zero for the terminator. It tells
-- whether it closes the session.
variable {Session : Type} (handle : Session → Nat → List UInt8 → Session × Bool) (size : Nat)

def handOver (nread : Nat) (conn : Connection) (loop : LineLoop Session) : LineLoop Session :=
  let (session, closes) := handle loop.session nread (conn.recvBuffer.set nread 0)
  { loop with
    session := session
    ended := closes
    conn := ⟨conn.recvBuffer.drop (consumed nread conn.recvBuffer), conn.socket⟩
    dispatched := loop.dispatched ++ [conn.recvBuffer.take nread] }

-- One turn of the loop in RunInner for the protocols that read lines.
def lineTurn (loop : LineLoop Session) : Option (LineLoop Session) :=
  if loop.ended = true then some loop
  else (recvLine size loop.conn).map fun received =>
    match received with
    | .failed code => { loop with ended := true, socketErr := code }
    | .received nread conn => if 0 < nread then handOver handle nread conn loop else { loop with conn := conn }

def lineTurns : Nat → LineLoop Session → Option (LineLoop Session)
  | 0, loop => some loop
  | n + 1, loop => (lineTurn handle size loop).bind (lineTurns n)

def lineStart (session : Session) (socket : List Receipt) : LineLoop Session := ⟨session, false, 0, ⟨[], socket⟩, []⟩

end

section

variable {Session : Type} (handle : Session → List UInt8 → Session × Bool) (size : Nat)

-- What the pieces of a stream come to: the lines to dispatch, and whether the stream has
-- to be rejected behind them. Nothing ends the last piece.
def expectedLines : Session → Nat → List (List UInt8) → List (List UInt8) × Bool
  | _, _, [] => ([], false)
  | _, _, [tail] => ([], size ≤ tail.length)
  | session, empty, line :: next :: rest =>
      if line = [] then if 10 ≤ empty + 1 then ([], true) else expectedLines session (empty + 1) (next :: rest)
      else if size ≤ line.length then ([], true)
      else if (handle session line).2 = true then ([line], false)
      else
        let behind := expectedLines (handle session line).1 0 (next :: rest)
        (line :: behind.1, behind.2)

def expectedOf (session : Session) (empty : Nat) (stream : List UInt8) : List (List UInt8) × Bool :=
  expectedLines handle size session empty (stream.splitOnP isTerminator)

def byLine (session : Session) (nread : Nat) (buffer : List UInt8) : Session × Bool := handle session (buffer.take nread)

-- However the stream arrives, once there is no more of it the session has ended and has
-- been given these lines, and has been rejected or not.
def FramedAs (session : Session) (stream : List UInt8) (expected : List (List UInt8) × Bool) : Prop :=
  ∀ socket rounds final, bytesOf socket = stream → socket.length + stream.length < rounds →
    lineTurns (byLine handle) size rounds (lineStart session socket) = some final →
      final.ended = true ∧ final.dispatched = expected.1 ∧ (final.socketErr = -1 ↔ expected.2 = true)

end

end RingServer.Net
