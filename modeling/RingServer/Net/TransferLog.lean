import RingServer.Config.ServerConfig
import RingServer.Net.SendData

set_option autoImplicit false

namespace RingServer.Net

open Config

-- What the stack of WriteTLog can have: the object of a node is named by the node.
inductive StackItem where
  | rbNode (id : NodeId)
  | streamNode (id : NodeId)

-- The cast to RBNode; none is an InvalidCastException.
def asRBNode : StackItem → Option NodeId
  | .rbNode id => some id
  | .streamNode _ => none

-- Traverse pushes node.Data.
def buildStack (tree : RBTree Text StreamNode) : Option (List StackItem) := (RBTree.traverse tree).map fun ids => ids.map .streamNode

structure Direction where
  packets : StreamNode → Nat
  bytes : StreamNode → Nat
  reset : StreamNode → StreamNode

def txDirection : Direction := ⟨(·.txPackets), (·.txBytes), fun sn => { sn with txPackets := 0, txBytes := 0 }⟩

def rxDirection : Direction := ⟨(·.rxPackets), (·.rxBytes), fun sn => { sn with rxPackets := 0, rxBytes := 0 }⟩

structure LogLine where
  streamId : Text
  bytes : Nat
  packets : Nat
deriving DecidableEq

structure Part where
  ok : Bool
  lines : List LogLine
  streams : Option (RBTree Text StreamNode)

def logItems (direction : Direction) (reset : Bool) : List StackItem → RBTree Text StreamNode → List LogLine → Part
  | [], tree, lines => ⟨true, lines, some tree⟩
  | item :: rest, tree, lines =>
      match (asRBNode item).bind fun id => (tree.nodes id).data.map fun sn => (id, sn) with
      | none => ⟨false, lines, some tree⟩
      | some (id, sn) =>
          if direction.bytes sn > 0 then
            logItems direction reset rest (if reset then RBTree.setData tree id (direction.reset sn) else tree)
              (lines ++ [⟨sn.streamId, direction.bytes sn, direction.packets sn⟩])
          else logItems direction reset rest tree lines

def logPart (direction : Direction) (reset : Bool) (streams : Option (RBTree Text StreamNode)) : Part :=
  match streams with
  | none => ⟨true, [], none⟩
  | some tree =>
      match buildStack tree with
      | none => ⟨false, [], some tree⟩
      | some stack => logItems direction reset stack.reverse tree []

structure TLog where
  code : Int
  tx : List LogLine
  rx : List LogLine
  account : Account

section

variable (config : ServerConfig)

def tLogs : Bool := (config.values .tLogBaseDir).any (!·.isEmpty) && (config.values .txLog != 0 || config.values .rxLog != 0)

-- AddTicks for the header line: the product wraps round, and a sum outside the years of
-- DateTime is an exception, which nothing in WriteTLog catches.
def showsConnTime (connTime : NsTime) : Bool :=
  let ticks := 621355968000000000 + (connTime.value * 100).toInt
  0 ≤ ticks && ticks < 3155378976000000000

-- WriteTLog, where the files can be written; without the texts of the headers and the
-- totals of the lines. none is the exception.
def writeTLog (connTime : NsTime) (account : Account) (reset : Bool) : Option TLog :=
  if tLogs config then
    if showsConnTime connTime then
      let tx := if config.values .txLog != 0 then logPart txDirection reset account.streams else ⟨true, [], account.streams⟩
      let rx := if config.values .rxLog != 0 then logPart rxDirection reset tx.streams else ⟨true, [], tx.streams⟩
      some ⟨if tx.ok && rx.ok then 0 else -1, tx.lines, rx.lines, { account with streams := rx.streams }⟩
    else none
  else some ⟨0, [], [], account⟩

end

-- HandleWrite behind the ring's Write.
def countWrite (account : Account) (streamid : Text) (dSize : Nat) : Option Account :=
  let counted := { account with rxPackets := account.rxPackets + 1, rxBytes := account.rxBytes + dSize }
  match account.streams with
  | none => some counted
  | some tree => do
      let (tree, id) ← match ← RBTree.find tree streamid with
        | none => RBTree.insert tree streamid ⟨streamid, 0, 0, 0, 0⟩
        | some id => some (tree, id)
      let sn ← (tree.nodes id).data
      some { counted with streams := some (RBTree.setData tree id
        { sn with rxPackets := sn.rxPackets + 1, rxBytes := sn.rxBytes + dSize }) }

-- HandleRead behind the ring's ReadNext, where ts is the length of the packet and frame
-- that of the bytes of SendPacket; none is a header that SendPacket refuses.
def sendRead (account : Account) (streamId : Text) (ts : Nat) (frame : Option Nat) (sends : List Sent) : Option (Int × Account) := do
  let account ← countStream { account with txPackets := account.txPackets + 1, txBytes := account.txBytes + ts } (some streamId) ts
  match frame with
  | none => some (-1, account)
  | some length => do
      let (code, _, account) ← sendBuffersToClient account [length] sends
      some (code, account)

-- A WRITE that the ring took, a packet of READ, one of StreamPackets (DataLink or
-- SeedLink), any other answer, a periodic log and the end of the client.
inductive TransferEvent where
  | write (streamid : Text) (dSize : Nat)
  | read (streamId : Text) (ts : Nat) (frame : Option Nat) (sends : List Sent)
  | stream (streamId : Text) (lengths : List Nat) (sends : List Sent)
  | reply (lengths : List Nat) (sends : List Sent)
  | writeTLog
  | cleanup

structure Ledger where
  connTime : NsTime
  account : Account
  sent : List (Text × Nat)
  received : List (Text × Nat)

section

variable (config : ServerConfig)

def Ledger.afterLog (s : Ledger) (account : Account) : Ledger where
  connTime := s.connTime
  account := account
  sent := if tLogs config && config.values .txLog != 0 then [] else s.sent
  received := if tLogs config && config.values .rxLog != 0 then [] else s.received

-- none is an exception of the tree or of the log, or a send that does not return.
def ledgerStep (s : Ledger) : TransferEvent → Option Ledger
  | .write streamid dSize => (countWrite s.account streamid dSize).map fun account =>
      { s with account := account, received := s.received ++ [(streamid, dSize)] }
  | .read streamId ts frame sends => (sendRead s.account streamId ts frame sends).map fun result =>
      { s with account := result.2, sent := if result.1 = (0 : Int) then s.sent ++ [(streamId, ts)] else s.sent }
  | .stream streamId lengths sends => (sendBuffersToClient s.account lengths sends).map fun result =>
      { s with account := result.2.2, sent := if result.1 = (0 : Int) then s.sent ++ [(streamId, lengths.sum)] else s.sent }
  | .reply lengths sends => (sendBuffersToClient s.account lengths sends).map fun result => { s with account := result.2.2 }
  | .writeTLog => (writeTLog config s.connTime s.account true).map fun log => s.afterLog config log.account
  | .cleanup => (writeTLog config s.connTime s.account true).map fun log => s.afterLog config { log.account with streams := none }

end

def newLedger (connTime : NsTime) : Ledger := ⟨connTime, ⟨0, 0, 0, 0, some RBTree.create, none⟩, [], []⟩

end RingServer.Net
