import Mathlib.Data.List.Lex
import Mathlib.Data.Char
import RingServer.Types.RBTreeMap
import RingServer.Ring.RingTypes

set_option autoImplicit false

namespace RingServer.Net

inductive Sent where
  | bytes (count : Nat)
  | connectionLost
  | socketError
  | disposed
deriving DecidableEq

-- The loop of SendBuffersToClient: its code and the bytes that went out. The segments
-- behind totalSent are what remains. none is a send that does not return, or more bytes
-- than were handed to it.
def sendRemaining (remaining : Nat) (sends : List Sent) : Option (Int × Nat) :=
  if remaining = 0 then some (0, 0)
  else match sends with
    | [] => none
    | .connectionLost :: _ => some (-2, 0)
    | .disposed :: _ => some (-2, 0)
    | .socketError :: _ => some (-1, 0)
    | .bytes count :: rest =>
        if count = 0 then some (-1, 0)
        else if count ≤ remaining then (sendRemaining (remaining - count) rest).map fun result => (result.1, count + result.2)
        else none

structure StreamNode where
  streamId : Text
  txPackets : Nat
  txBytes : Nat
  rxPackets : Nat
  rxBytes : Nat
deriving DecidableEq

-- What a client's transfers are counted in. StreamId is the field of ClientInfo.
structure Account where
  txPackets : Nat
  txBytes : Nat
  rxPackets : Nat
  rxBytes : Nat
  streams : Option (RBTree Text StreamNode)
  streamId : Option Text

def countStream (account : Account) (streamId : Option Text) (bytes : Nat) : Option Account :=
  match account.streams, streamId with
  | some tree, some (c :: rest) => do
      match ← RBTree.find tree (c :: rest) with
      | none => some account
      | some id => do
          let sn ← (tree.nodes id).data
          some { account with streams := some (RBTree.setData tree id
            { sn with txPackets := sn.txPackets + 1, txBytes := sn.txBytes + bytes }) }
  | _, _ => some account

-- The bytes that went out are behind the code; they are counted when all of them did.
def sendBuffersToClient (account : Account) (lengths : List Nat) (sends : List Sent) : Option (Int × Nat × Account) :=
  if lengths = [] then some (0, 0, account)
  else do
    let (code, sent) ← sendRemaining lengths.sum sends
    if code < 0 then some (code, sent, account)
    else do
      let account := { account with txPackets := account.txPackets + 1, txBytes := account.txBytes + lengths.sum }
      let account ← countStream account account.streamId lengths.sum
      some (0, sent, account)

theorem send_remaining_code (remaining : Nat) (sends : List Sent) (code : Int) (sent : Nat)
    (ran : sendRemaining remaining sends = some (code, sent)) : code < 0 ∨ code = 0 ∧ sent = remaining := by
  induction sends generalizing remaining code sent with
  | nil =>
      rw [sendRemaining.eq_def] at ran
      split at ran
      · next none =>
        cases ran
        exact .inr ⟨rfl, none.symm⟩
      · cases ran
  | cons result rest ih =>
      rw [sendRemaining.eq_def] at ran
      split at ran
      · next none =>
        cases ran
        exact .inr ⟨rfl, none.symm⟩
      · cases result with
        | connectionLost =>
            cases ran
            exact .inl (by decide)
        | disposed =>
            cases ran
            exact .inl (by decide)
        | socketError =>
            cases ran
            exact .inl (by decide)
        | bytes count =>
            dsimp only at ran
            split at ran
            · cases ran
              exact .inl (by decide)
            · split at ran
              · next fits =>
                obtain ⟨more, moreRan, same⟩ := Option.map_eq_some_iff.mp ran
                cases same
                rcases ih _ more.1 more.2 moreRan with failed | ⟨done, all⟩
                · exact .inl failed
                · exact .inr ⟨done, by omega⟩
              · cases ran

-- The segments of one Send: of each buffer its first bytes, up to the length beside it,
-- without those that are among the totalSent bytes already sent. offset is that of the
-- first buffer.
def sendSegments (totalSent : Nat) : Nat → List (List UInt8 × Nat) → List (List UInt8)
  | _, [] => []
  | offset, (buffer, length) :: rest =>
      let segEnd := offset + length
      let start := totalSent - offset
      let count := min (length - start) (segEnd - totalSent)
      if segEnd > totalSent ∧ count > 0 then (buffer.drop start).take count :: sendSegments totalSent segEnd rest
      else sendSegments totalSent segEnd rest

def bufferBytes (buffers : List (List UInt8 × Nat)) : List UInt8 := (buffers.map fun buffer => buffer.1.take buffer.2).flatten

def bufferLength (buffers : List (List UInt8 × Nat)) : Nat := (buffers.map Prod.snd).sum

def gatherSend (buffers : List (List UInt8 × Nat)) (totalSent : Nat) (sends : List Sent) : Option (Int × List UInt8) :=
  if bufferLength buffers ≤ totalSent ∨ sendSegments totalSent 0 buffers = [] then some (0, [])
  else match sends with
    | [] => none
    | .connectionLost :: _ => some (-2, [])
    | .disposed :: _ => some (-2, [])
    | .socketError :: _ => some (-1, [])
    | .bytes count :: rest =>
        if count = 0 then some (-1, [])
        else if count ≤ (sendSegments totalSent 0 buffers).flatten.length then
          (gatherSend buffers (totalSent + count) rest).map fun result =>
            (result.1, (sendSegments totalSent 0 buffers).flatten.take count ++ result.2)
        else none

def Filled (buffers : List (List UInt8 × Nat)) : Prop := ∀ buffer ∈ buffers, buffer.2 ≤ buffer.1.length

theorem buffer_bytes_length (buffers : List (List UInt8 × Nat)) (filled : Filled buffers) :
    (bufferBytes buffers).length = bufferLength buffers := by
  induction buffers with
  | nil => rfl
  | cons buffer rest ih =>
      have here := filled buffer List.mem_cons_self
      have behind := ih fun other member => filled other (List.mem_cons_of_mem buffer member)
      rw [bufferBytes, bufferLength] at behind ⊢
      simp only [List.map_cons, List.flatten_cons, List.length_append, List.length_take, List.sum_cons, behind]
      omega

theorem segments_remain (totalSent offset : Nat) (buffers : List (List UInt8 × Nat)) (filled : Filled buffers) :
    (sendSegments totalSent offset buffers).flatten = (bufferBytes buffers).drop (totalSent - offset) := by
  induction buffers generalizing offset with
  | nil => exact List.drop_nil.symm
  | cons buffer rest ih =>
      obtain ⟨bytes, length⟩ := buffer
      have inside : length ≤ bytes.length := filled (bytes, length) List.mem_cons_self
      have behind := ih (offset + length) fun other member => filled other (List.mem_cons_of_mem _ member)
      have taken : (bytes.take length).length = length := by rw [List.length_take, Nat.min_eq_left inside]
      have split : (bufferBytes ((bytes, length) :: rest)).drop (totalSent - offset) =
          (bytes.take length).drop (totalSent - offset) ++ (bufferBytes rest).drop (totalSent - offset - length) := by
        rw [bufferBytes, List.map_cons, List.flatten_cons, List.drop_append, taken]
        rfl
      have remaining : totalSent - (offset + length) = totalSent - offset - length := by omega
      rw [split, sendSegments]
      by_cases open' : offset + length > totalSent
      · have count : min (length - (totalSent - offset)) (offset + length - totalSent) = length - (totalSent - offset) := by omega
        by_cases none : length - (totalSent - offset) = 0
        · have empty : length = 0 := by omega
          rw [if_neg (by omega), behind, remaining, empty, List.take_zero, List.drop_nil, List.nil_append]
        · rw [if_pos ⟨open', by omega⟩, count, List.flatten_cons, behind, remaining, ← List.drop_take]
      · have past : (bytes.take length).drop (totalSent - offset) = [] := List.drop_eq_nil_of_le (by omega)
        rw [if_neg (fun both => open' both.1), behind, remaining, past, List.nil_append]

theorem nothing_remains (buffers : List (List UInt8 × Nat)) (filled : Filled buffers) (totalSent : Nat)
    (done : bufferLength buffers ≤ totalSent ∨ sendSegments totalSent 0 buffers = []) : [] = (bufferBytes buffers).drop totalSent := by
  cases done with
  | inl all => exact (List.drop_eq_nil_of_le ((buffer_bytes_length buffers filled).trans_le all)).symm
  | inr none =>
      have remain := segments_remain totalSent 0 buffers filled
      rw [none] at remain
      exact remain

def FrontSent (remaining : List UInt8) (code : Int) (wire : List UInt8) : Prop :=
  wire <+: remaining ∧ (code = 0 ∧ wire = remaining ∨ code < 0 ∧ wire ≠ remaining)

theorem front_sent_all : FrontSent [] 0 [] := ⟨List.prefix_rfl, .inl ⟨rfl, rfl⟩⟩

theorem front_sent_none (remaining : List UInt8) (code : Int) (negative : code < 0) (some : remaining ≠ []) :
    FrontSent remaining code [] := ⟨List.nil_prefix, .inr ⟨negative, some.symm⟩⟩

theorem front_sent_behind (part remaining : List UInt8) (code : Int) (wire : List UInt8) (sent : FrontSent remaining code wire) :
    FrontSent (part ++ remaining) code (part ++ wire) := by
  rw [FrontSent, List.prefix_append_right_inj, ne_eq, List.append_right_inj]
  exact sent

theorem gather_front (buffers : List (List UInt8 × Nat)) (filled : Filled buffers) (sends : List Sent) (totalSent : Nat) (code : Int)
    (wire : List UInt8) (ran : gatherSend buffers totalSent sends = some (code, wire)) :
    FrontSent ((bufferBytes buffers).drop totalSent) code wire := by
  have finished (totalSent : Nat) (done : bufferLength buffers ≤ totalSent ∨ sendSegments totalSent 0 buffers = []) :
      FrontSent ((bufferBytes buffers).drop totalSent) 0 [] := by
    rw [← nothing_remains buffers filled totalSent done]
    exact front_sent_all
  have remains (totalSent : Nat) (open' : ¬ (bufferLength buffers ≤ totalSent ∨ sendSegments totalSent 0 buffers = [])) :
      (bufferBytes buffers).drop totalSent ≠ [] := by
    rw [ne_eq, List.drop_eq_nil_iff, buffer_bytes_length buffers filled]
    exact fun done => open' (.inl done)
  induction sends generalizing totalSent code wire with
  | nil =>
      rw [gatherSend.eq_def] at ran
      split at ran
      · next done =>
        cases ran
        exact finished totalSent done
      · cases ran
  | cons result rest ih =>
      rw [gatherSend.eq_def] at ran
      split at ran
      · next done =>
        cases ran
        exact finished totalSent done
      · next open' =>
        have failed (code : Int) (negative : code < 0) : FrontSent ((bufferBytes buffers).drop totalSent) code [] :=
          front_sent_none _ code negative (remains totalSent open')
        cases result with
        | connectionLost =>
            cases ran
            exact failed (-2) (by decide)
        | disposed =>
            cases ran
            exact failed (-2) (by decide)
        | socketError =>
            cases ran
            exact failed (-1) (by decide)
        | bytes count =>
            dsimp only at ran
            split at ran
            · cases ran
              exact failed (-1) (by decide)
            · split at ran
              · obtain ⟨more, moreRan, same⟩ := Option.map_eq_some_iff.mp ran
                cases same
                have remain := segments_remain totalSent 0 buffers filled
                rw [Nat.sub_zero] at remain
                have behind := front_sent_behind (((bufferBytes buffers).drop totalSent).take count) _ more.1 more.2
                  (ih (totalSent + count) more.1 more.2 moreRan)
                rw [← List.drop_drop, List.take_append_drop] at behind
                rw [remain]
                exact behind
              · cases ran

theorem gather_sends (buffers : List (List UInt8 × Nat)) (filled : Filled buffers) (sends : List Sent) (totalSent : Nat) (code : Int)
    (wire : List UInt8) (ran : gatherSend buffers totalSent sends = some (code, wire)) :
    code < 0 ∨ code = 0 ∧ wire = (bufferBytes buffers).drop totalSent :=
  (gather_front buffers filled sends totalSent code wire ran).2.symm.imp_left And.left

end RingServer.Net
