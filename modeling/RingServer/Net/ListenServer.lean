import RingServer.Config.ServerConfig

set_option autoImplicit false

namespace RingServer.Net

open Config

-- A client whose thread was started; closed is the state that the thread ends in.
structure Client where
  addr : IPAddress
  writePerm : Bool
  closed : Bool
deriving DecidableEq

inductive Dispatch where
  | accepting
  | accepted (addr : IPAddress)
  | limited (addr : IPAddress)
  | full (addr : IPAddress)
  | admitted (addr : IPAddress)
  | started (client : Nat)
  | linked (client : Nat)
deriving DecidableEq

-- The watchdog in its loop over the clients, with those it has not come to. After it has
-- unlinked a client it tests, reads and writes ClientCount. All of the loop is under
-- CthreadsLock.
inductive Sweep where
  | idle
  | looping (rest : List Nat)
  | unlinked (rest : List Nat)
  | reading (rest : List Nat)
  | holding (value : Int) (rest : List Nat)
deriving DecidableEq

-- A client is its place among all that were ever started; cthreads has the last one first.
structure Server where
  clients : List Client
  cthreads : List Nat
  clientCount : Int
  listeners : List Dispatch
  sweep : Sweep
deriving DecidableEq

inductive ServerEvent where
  | accept (l : Nat) (addr : IPAddress)
  | limitAddress (l : Nat)
  | limitClients (l : Nat)
  | reserve (l : Nat)
  | start (l : Nat) (succeeds : Bool)
  | link (l : Nat)
  | count (l : Nat)
  | ends (client : Nat)
  | sweep
  | visit
  | test
  | load
  | store
  | release

def reserveConnections : UInt32 := 10

def Server.dispatch (s : Server) (l : Nat) (dispatch : Dispatch) : Server := { s with listeners := s.listeners.set l dispatch }

-- The text of an address is taken for the address.
def clientIPCount (s : Server) (addr : IPAddress) : Nat :=
  s.cthreads.countP fun client => s.clients[client]?.any fun cinfo => cinfo.addr = addr

section

variable (config : ServerConfig)

def isWriteIP (addr : IPAddress) : Bool := matchIP (config.ips .writeIps) addr

def mayConnect (addr : IPAddress) : Bool :=
  ((config.ips .matchIps).isEmpty || matchIP (config.ips .matchIps) addr) && !matchIP (config.ips .rejectIps) addr

def maxClients : UInt32 := config.values .maxClients

def maxClientsPerIP : UInt32 := config.values .maxClientsPerIP

-- The steps of Run for one connection, of the watchdog for one client, and the end of a
-- client. ClientIPCount and the link wait for CthreadsLock, the count does not.
def serverStep (s : Server) : ServerEvent → Option Server
  | .accept l addr =>
      match s.listeners[l]? with
      | some .accepting => some (if mayConnect config addr then s.dispatch l (.accepted addr) else s)
      | _ => none
  | .limitAddress l =>
      match s.listeners[l]?, s.sweep with
      | some (.accepted addr), .idle =>
          if maxClientsPerIP config > 0 ∧ isWriteIP config addr = false ∧ clientIPCount s addr ≥ (maxClientsPerIP config).toNat then
            some (s.dispatch l .accepting)
          else some (s.dispatch l (.limited addr))
      | _, _ => none
  | .limitClients l =>
      match s.listeners[l]? with
      | some (.limited addr) =>
          if maxClients config > 0 ∧ s.clientCount ≥ (maxClients config).toNat then some (s.dispatch l (.full addr))
          else some (s.dispatch l (.admitted addr))
      | _ => none
  | .reserve l =>
      match s.listeners[l]? with
      | some (.full addr) =>
          if isWriteIP config addr = true ∧ s.clientCount ≤ (maxClients config + reserveConnections).toNat then
            some (s.dispatch l (.admitted addr))
          else some (s.dispatch l .accepting)
      | _ => none
  | .start l succeeds =>
      match s.listeners[l]? with
      | some (.admitted addr) =>
          if succeeds then
            some { s.dispatch l (.started s.clients.length) with clients := s.clients ++ [⟨addr, isWriteIP config addr, false⟩] }
          else some (s.dispatch l .accepting)
      | _ => none
  | .link l =>
      match s.listeners[l]?, s.sweep with
      | some (.started client), .idle => some { s.dispatch l (.linked client) with cthreads := client :: s.cthreads }
      | _, _ => none
  | .count l =>
      match s.listeners[l]? with
      | some (.linked _) => some { s.dispatch l .accepting with clientCount := s.clientCount + 1 }
      | _ => none
  | .ends client => some { s with clients := s.clients.modify client fun cinfo => { cinfo with closed := true } }
  | .sweep =>
      match s.sweep with
      | .idle => some { s with sweep := .looping s.cthreads }
      | _ => none
  | .visit =>
      match s.sweep with
      | .looping (client :: rest) =>
          if s.clients[client]?.any (·.closed) then some { s with cthreads := s.cthreads.erase client, sweep := .unlinked rest }
          else some { s with sweep := .looping rest }
      | _ => none
  | .test =>
      match s.sweep with
      | .unlinked rest => some { s with sweep := if s.clientCount > 0 then .reading rest else .looping rest }
      | _ => none
  | .load =>
      match s.sweep with
      | .reading rest => some { s with sweep := .holding s.clientCount rest }
      | _ => none
  | .store =>
      match s.sweep with
      | .holding value rest => some { s with clientCount := value - 1, sweep := .looping rest }
      | _ => none
  | .release =>
      match s.sweep with
      | .looping [] => some { s with sweep := .idle }
      | _ => none

end

def newServer (listeners : Nat) : Server := ⟨[], [], 0, List.replicate listeners .accepting, .idle⟩

end RingServer.Net
