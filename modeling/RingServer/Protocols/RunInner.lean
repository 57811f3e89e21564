import RingServer.Net.Detection
import RingServer.Net.ListenServer
import RingServer.Protocols.HttpProtocol
import RingServer.Protocols.SeedLinkStream

set_option autoImplicit false

namespace RingServer

open Library Net Config

-- The client that Run of the listener and RunInner make ready for an address. UpdatePattern
-- leaves out an empty text; none is a LimitStr that does not compile, where the thread ends.
def connect (engine : Engine) (window : UInt32 → TimeWinLimit) (config : ServerConfig) (addr : IPAddress) : Option ClientInfo :=
  let limitStr := (findMatchingIP (config.ips .limitIps) addr).bind (·.limitStr)
  let limit := RingBuffer.updatePattern engine (limitStr.getD [])
  if limit.1 then
    some {
      dlCommand := DataLink.noCommand
      state := .command
      writePerm := isWriteIP config addr
      trusted := matchIP (config.ips .trustedIps) addr
      timeWinLimit := window (config.values .timeWinLimit)
      reader := ⟨-1, Constants.ringIdNone, NsTime.unset, NsTime.unset, NsTime.unset, limit.2, none, none⟩ }
  else none

structure ClientThread where
  type : Option ClientType
  conn : Connection
  client : ClientInfo
  ext : SeedLink.SLExtInfo
  running : Bool

def ClientThread.stopped (thread : ClientThread) : ClientThread := { thread with running := false }

def newThread (client : ClientInfo) (socket : List Receipt) : ClientThread := ⟨none, ⟨[], socket⟩, client, SeedLink.newExtInfo, true⟩

-- What one pass of the loop finds: the number of bytes that have arrived when PeekData
-- looks, the clock, the packet that DataLink streaming reads into, and the rest.
structure Pass where
  arrived : Nat
  clock : Nat → NsTime
  cachedPacket : RingPacket
  around : Surroundings
  web : Http.Surroundings

inductive Received where
  | nothing (conn : Connection)
  | closed
  | command (header : List UInt8) (conn : Connection)
  | line (nread : Nat) (conn : Connection)

section

variable (protocols : Net.ListenProtocols) (recvBufferSize fuel : Nat)

def determine (arrived : Nat) (thread : ClientThread) : ClientThread :=
  match thread.type with
  | some _ => thread
  | none =>
      match determineType protocols ((bytesOf thread.conn.socket).take (min arrived 3)) with
      | .undetermined => thread
      | .becomes type => { thread with type := some type }
      | .breaks => thread.stopped

-- none is a receipt that Receive cannot give.
def clientRecv (thread : ClientThread) : Option Received :=
  match thread.type with
  | none => some (.nothing thread.conn)
  | some .dataLink =>
      (recvDLCommand recvBufferSize thread.conn).map fun received =>
        match received with
        | .failed _ => .closed
        | .waits conn => .nothing conn
        | .command _ header conn => .command header conn
  | some _ =>
      (recvLine recvBufferSize thread.conn).map fun received =>
        match received with
        | .failed _ => .closed
        | .received nread conn => if 0 < nread then .line nread conn else .nothing conn

def afterDataLink (thread : ClientThread) (outcome : DataLink.Outcome) : RingParams × ClientThread :=
  (outcome.ring, { thread with client := outcome.client, running := outcome.code = 0 })

def takesCommand (header : List UInt8) (client : ClientInfo) : ClientInfo :=
  { client with dlCommand := DataLink.storeCommand client.dlCommand header }

-- An exception of a handler ends the thread.
def dispatchDataLink (pass : Pass) (ring : RingParams) (thread : ClientThread) (header : List UInt8) :
    Option (RingParams × ClientThread) :=
  let thread := { thread with client := takesCommand header thread.client }
  match DataLink.handleCommand pass.around.engine fuel (pass.clock 0) ring thread.client with
  | .throws => some (ring, thread.stopped)
  | .returns outcome => some (afterDataLink thread outcome)
  | .receives size next lost =>
      (recvData size thread.conn).map fun received =>
        let thread := { thread with conn := received.2 }
        match received.1 with
        | none => afterDataLink thread lost
        | some payload => ((next payload).map (afterDataLink thread)).getD (ring, thread.stopped)

-- The line has a zero for its terminator and is consumed behind the handler.
def dispatchLine (pass : Pass) (ring : RingParams) (thread : ClientThread) (nread : Nat) (conn : Connection) : RingParams × ClientThread :=
  let buffer := conn.recvBuffer.set nread 0
  let thread := { thread with conn := ⟨conn.recvBuffer.drop (consumed nread conn.recvBuffer), conn.socket⟩ }
  if thread.type = some .http then
    ((Http.handleRequest pass.web pass.clock ring thread.client.reader buffer).map fun outcome => (outcome.ring, thread)).getD
      (ring, thread.stopped)
  else
    ((SeedLink.handleCommand pass.around fuel ring ⟨thread.client, thread.ext⟩ (buffer.take nread)).map fun outcome =>
        (ring, { thread with client := outcome.session.client, ext := outcome.session.ext, running := outcome.code = 0 })).getD
      (ring, thread.stopped)

def handOver (pass : Pass) (ring : RingParams) (thread : ClientThread) : Received → Option (RingParams × ClientThread)
  | .nothing conn => some (ring, { thread with conn := conn })
  | .closed => some (ring, thread.stopped)
  | .command header conn => dispatchDataLink fuel pass ring { thread with conn := conn } header
  | .line nread conn => some (dispatchLine fuel pass ring thread nread conn)

def receives (pass : Pass) (ring : RingParams) (thread : ClientThread) : Option (RingParams × ClientThread) :=
  if (determine protocols pass.arrived thread).running then
    (clientRecv recvBufferSize (determine protocols pass.arrived thread)).bind
      (handOver fuel pass ring (determine protocols pass.arrived thread))
  else some (ring, determine protocols pass.arrived thread)

def streams (pass : Pass) (ring : RingParams) (thread : ClientThread) : RingParams × ClientThread :=
  if thread.client.state = .stream then
    match thread.type with
    | some .dataLink =>
        ((DataLink.streamPackets fuel ring thread.client pass.cachedPacket).map fun outcome =>
            (outcome.ring, { thread with client := outcome.client, running := 0 ≤ outcome.code })).getD (ring, thread.stopped)
    | some .seedLink =>
        ((SeedLink.streamPackets pass.around fuel ring ⟨thread.client, thread.ext⟩).map fun outcome =>
            (ring, { thread with client := outcome.session.client, ext := outcome.session.ext, running := 0 ≤ outcome.code })).getD
          (ring, thread.stopped)
    | _ => (ring, thread)
  else (ring, thread)

-- The steps that the ring sees: the two parts of the passes of this thread, and whatever
-- the other clients make of the ring.
inductive ThreadStep where
  | receives (pass : Pass)
  | streams (pass : Pass)
  | others (change : RingParams → RingParams)

def threadStep (ring : RingParams) (thread : ClientThread) : ThreadStep → Option (RingParams × ClientThread)
  | .receives pass => if thread.running then receives protocols recvBufferSize fuel pass ring thread else some (ring, thread)
  | .streams pass => some (if thread.running then streams fuel pass ring thread else (ring, thread))
  | .others change => some (change ring, thread)

end

end RingServer
