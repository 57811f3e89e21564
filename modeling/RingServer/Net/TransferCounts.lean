import RingServer.Net.TransferLog
import Mathlib.Algebra.BigOperators.Group.List.Basic

set_option autoImplicit false

namespace RingServer.Net

open Config RingServer.RBTree

def streamNodes (tree : RBTree Text StreamNode) : List StreamNode :=
  ((traverse tree).bind fun ids => ids.mapM fun id => (tree.nodes id).data).getD []

def total (measure : StreamNode → Nat) (tree : RBTree Text StreamNode) : Nat := ((streamNodes tree).map measure).sum

structure Tallied (tree : RBTree Text StreamNode) (sent received : List (Text × Nat)) : Prop where
  txPackets : total (·.txPackets) tree = sent.length
  txBytes : total (·.txBytes) tree = (sent.map Prod.snd).sum
  rxPackets : total (·.rxPackets) tree = received.length
  rxBytes : total (·.rxBytes) tree = (received.map Prod.snd).sum

def Reported (lines : List LogLine) (transfers : List (Text × Nat)) : Prop := ∀ streamId,
  ((lines.filter fun line => line.streamId = streamId).map (·.packets)).sum = (transfers.filter fun packet => packet.1 = streamId).length ∧
  ((lines.filter fun line => line.streamId = streamId).map (·.bytes)).sum =
    ((transfers.filter fun packet => packet.1 = streamId).map Prod.snd).sum

section

variable (config : ServerConfig)

def LogsAll (s : Ledger) : Prop := tLogs config = true → ∃ log, writeTLog config s.connTime s.account true = some log ∧ log.code = 0 ∧
  (config.values .txLog ≠ 0 → Reported log.tx s.sent) ∧ (config.values .rxLog ≠ 0 → Reported log.rx s.received)

def Accounted (s : Ledger) : Prop := ∀ tree, s.account.streams = some tree → Tallied tree s.sent s.received

def Reports (s : Ledger) : TransferEvent → Prop
  | .writeTLog => ∀ tree, s.account.streams = some tree → LogsAll config s
  | .cleanup => ∀ tree, s.account.streams = some tree → LogsAll config s
  | _ => True

def AccountedAlong : Ledger → List TransferEvent → Prop
  | s, [] => Accounted s
  | s, event :: rest => Accounted s ∧ Reports config s event ∧ ∀ next, ledgerStep config s event = some next → AccountedAlong next rest

def codeOf (lengths : List Nat) (sends : List Sent) : Option Int :=
  if lengths = [] then some 0 else (sendRemaining lengths.sum sends).map Prod.fst

def sendCode (frame : Option Nat) (sends : List Sent) : Option Int := match frame with
  | none => some (-1)
  | some length => codeOf [length] sends

def tracked (tree : RBTree Text StreamNode) (streamId : Text) : Prop := streamId ≠ [] ∧ find tree streamId ≠ some none

-- A packet of READ goes out for just the streams that the client has written; nothing is
-- streamed; and the log is not written for a client with a stream, or of a connection whose
-- time it cannot show.
def TraceableIn (connTime : NsTime) (tree : RBTree Text StreamNode) : TransferEvent → Prop
  | .write _ _ => True
  | .read streamId _ frame sends => ∀ code, sendCode frame sends = some code → (tracked tree streamId ↔ code = 0)
  | .stream _ lengths sends => codeOf lengths sends ≠ some 0
  | .reply _ _ => True
  | .writeTLog => tLogs config = true → showsConnTime connTime = true ∧ traverse tree = some []
  | .cleanup => tLogs config = true → showsConnTime connTime = true ∧ traverse tree = some []

def Traceable (s : Ledger) (event : TransferEvent) : Prop :=
  ∀ tree, s.account.streams = some tree → TraceableIn config s.connTime tree event

def AllTraceable : Ledger → List TransferEvent → Prop
  | _, [] => True
  | s, event :: rest => Traceable config s event ∧ ∀ next, ledgerStep config s event = some next → AllTraceable next rest

end

section

variable (tree next : RBTree Text StreamNode) (whole whole' : Library.ColorTree NodeId) (contents : Text → Option StreamNode)

theorem stream_nodes_entries (index : Index tree whole contents) : ∃ entries : List (Text × StreamNode),
    streamNodes tree = entries.map Prod.snd ∧ entries.Nodup ∧ ∀ key data, (key, data) ∈ entries ↔ contents key = some data := by
  obtain ⟨entries, -, data, sorted, member⟩ := index_entries tree whole contents index
  refine ⟨entries, ?_, ?_, member⟩
  · rw [streamNodes, index_traverse tree whole contents index, Option.bind_some, data]
    rfl
  · have keys : (entries.map Prod.fst).Nodup := sorted.imp fun less => ne_of_lt less
    exact keys.of_map _

theorem sum_without (measure : StreamNode → Nat) (entries : List (Text × StreamNode)) (key : Text) (nodup : entries.Nodup)
    (member : ∀ other data, (other, data) ∈ entries ↔ contents other = some data) :
    (entries.map fun entry => measure entry.2).sum =
      ((entries.filter fun entry => entry.1 ≠ key).map fun entry => measure entry.2).sum + ((contents key).map measure).getD 0 := by
  cases present : contents key with
  | none =>
      have all : entries.filter (fun entry => entry.1 ≠ key) = entries := by
        apply List.filter_eq_self.mpr
        intro entry isEntry
        apply decide_eq_true
        rintro rfl
        rw [(member entry.1 entry.2).mp isEntry] at present
        cases present
      rw [all]
      rfl
  | some data =>
      have split : entries.Perm ((key, data) :: entries.filter fun entry => entry.1 ≠ key) := by
        apply (List.perm_ext_iff_of_nodup nodup ?_).mpr
        · intro entry
          rw [List.mem_cons, List.mem_filter, decide_eq_true_iff]
          constructor
          · intro isEntry
            by_cases same : entry.1 = key
            · have found := (member entry.1 entry.2).mp isEntry
              rw [same, present, Option.some.injEq] at found
              exact .inl (Prod.ext same found.symm)
            · exact .inr ⟨isEntry, same⟩
          · rintro (rfl | ⟨isEntry, -⟩)
            · exact (member key data).mpr present
            · exact isEntry
        · refine List.nodup_cons.mpr ⟨fun isEntry => ?_, nodup.filter _⟩
          exact absurd rfl (of_decide_eq_true (List.mem_filter.mp isEntry).2)
      rw [(split.map fun entry => measure entry.2).sum_eq, List.map_cons, List.sum_cons, Nat.add_comm]
      rfl

theorem total_assign (measure : StreamNode → Nat) (key : Text) (data : StreamNode) (index : Index tree whole contents)
    (index' : Index next whole' (assign contents key (some data))) :
    total measure next + ((contents key).map measure).getD 0 = total measure tree + measure data := by
  obtain ⟨old, oldNodes, oldNodup, oldMember⟩ := stream_nodes_entries tree whole contents index
  obtain ⟨new, newNodes, newNodup, newMember⟩ := stream_nodes_entries next whole' _ index'
  have rest : (new.filter fun entry => entry.1 ≠ key).Perm (old.filter fun entry => entry.1 ≠ key) := by
    apply (List.perm_ext_iff_of_nodup (newNodup.filter _) (oldNodup.filter _)).mpr
    intro entry
    rw [List.mem_filter, List.mem_filter, decide_eq_true_iff]
    by_cases same : entry.1 = key
    · simp [same]
    · rw [newMember entry.1 entry.2, oldMember entry.1 entry.2, assign_other contents key entry.1 _ same]
  have oldSum := sum_without contents measure old key oldNodup oldMember
  have newSum := sum_without (assign contents key (some data)) measure new key newNodup newMember
  rw [assign_self, (rest.map fun entry => measure entry.2).sum_eq] at newSum
  rw [total, total, oldNodes, newNodes, List.map_map, List.map_map]
  have same : (measure ∘ Prod.snd) = fun entry : Text × StreamNode => measure entry.2 := rfl
  rw [same, oldSum, newSum, Option.map_some, Option.getD_some]
  omega

theorem find_present (key : Text) (data : StreamNode) (index : Index tree whole contents) (present : contents key = some data) :
    ∃ id, find tree key = some (some id) ∧ (tree.nodes id).data = some data ∧
      ∀ value, Index (setData tree id value) whole (assign contents key (some value)) := by
  rcases index_find tree whole contents key index with ⟨-, absent⟩ | ⟨id, other, found, member, stored, same⟩
  · rw [present] at absent
    cases absent
  · rw [present, Option.some.injEq] at same
    subst same
    exact ⟨id, found, stored.2, fun value => index_set_data tree whole contents id key value index member stored.1⟩

theorem find_absent (key : Text) (index : Index tree whole contents) (absent : contents key = none) : find tree key = some none := by
  rcases index_find tree whole contents key index with ⟨found, -⟩ | ⟨id, other, found, member, stored, same⟩
  · exact found
  · rw [absent] at same
    cases same

theorem tracked_iff (streamId : Text) (index : Index tree whole contents) :
    tracked tree streamId ↔ streamId ≠ [] ∧ ∃ data, contents streamId = some data := by
  rw [tracked]
  cases present : contents streamId with
  | none => simp [find_absent tree whole contents streamId index present]
  | some data =>
      obtain ⟨id, found, -⟩ := find_present tree whole contents streamId data index present
      simp [found]

theorem count_stream_untracked (account : Account) (streamId : Text) (bytes : Nat) (index : Index tree whole contents)
    (streams : account.streams = some tree) (none : ¬ tracked tree streamId) : countStream account (some streamId) bytes =
      some account := by
  rw [countStream.eq_def, streams]
  cases streamId with
  | nil => rfl
  | cons c rest =>
      have missing : contents (c :: rest) = Option.none := by
        cases present : contents (c :: rest) with
        | none => rfl
        | some data => exact absurd ((tracked_iff tree whole contents _ index).mpr ⟨List.cons_ne_nil c rest, data, present⟩) none
      dsimp only
      rw [find_absent tree whole contents _ index missing]
      rfl

theorem count_stream_tracked (account : Account) (streamId : Text) (bytes : Nat) (index : Index tree whole contents)
    (streams : account.streams = some tree) (isTracked : tracked tree streamId) : ∃ counted data, contents streamId = some data ∧
      countStream account (some streamId) bytes = some { account with streams := some counted } ∧
      Index counted whole (assign contents streamId
        (some { data with txPackets := data.txPackets + 1, txBytes := data.txBytes + bytes })) := by
  obtain ⟨named, data, present⟩ := (tracked_iff tree whole contents streamId index).mp isTracked
  obtain ⟨id, found, stored, set⟩ := find_present tree whole contents streamId data index present
  refine ⟨_, data, present, ?_, set _⟩
  rw [countStream.eq_def, streams]
  cases streamId with
  | nil => exact absurd rfl named
  | cons c rest =>
      dsimp only
      rw [found, Option.bind_eq_bind, Option.bind_some]
      dsimp only
      rw [stored]
      rfl

theorem count_write_spec (account : Account) (streamid : Text) (dSize : Nat) (index : Index tree whole contents)
    (streams : account.streams = some tree) : ∃ counted whole' data,
      data = (contents streamid).getD ⟨streamid, 0, 0, 0, 0⟩ ∧
      countWrite account streamid dSize = some { account with
        rxPackets := account.rxPackets + 1, rxBytes := account.rxBytes + dSize, streams := some counted } ∧
      Index counted whole' (assign contents streamid
        (some { data with rxPackets := data.rxPackets + 1, rxBytes := data.rxBytes + dSize })) := by
  rw [countWrite.eq_def, streams]
  dsimp only
  cases present : contents streamid with
  | some data =>
      obtain ⟨id, found, stored, set⟩ := find_present tree whole contents streamid data index present
      refine ⟨_, whole, data, rfl, ?_, set _⟩
      rw [found]
      simp only [Option.bind_eq_bind, Option.bind_some, stored]
  | none =>
      have found := find_absent tree whole contents streamid index present
      obtain ⟨grown, whole', inserted, index', order, stored⟩ :=
        index_insert tree whole contents streamid ⟨streamid, 0, 0, 0, 0⟩ index present
      have member : tree.next ∈ whole'.labels := order.mem_iff.mpr List.mem_cons_self
      refine ⟨setData grown tree.next ⟨streamid, 0, 0, 1, dSize⟩, whole', _, rfl, ?_, ?_⟩
      · rw [found]
        simp only [Option.bind_eq_bind, Option.bind_some, inserted, stored.2]
        simp
      · have final := index_set_data grown whole' _ tree.next streamid ⟨streamid, 0, 0, 1, dSize⟩ index' member stored.1
        have twice : assign (assign contents streamid (some ⟨streamid, 0, 0, 0, 0⟩)) streamid (some ⟨streamid, 0, 0, 1, dSize⟩) =
            assign contents streamid (some ⟨streamid, 0, 0, 1, dSize⟩) := by
          funext other
          by_cases same : other = streamid
          · rw [same, assign_self, assign_self]
          · rw [assign_other _ _ _ _ same, assign_other _ _ _ _ same, assign_other _ _ _ _ same]
        rw [twice] at final
        simpa using final

theorem log_part_tree (direction : Direction) (reset : Bool) (index : Index tree whole contents) :
    logPart direction reset (some tree) = ⟨whole.labels.isEmpty, [], some tree⟩ := by
  rw [logPart, buildStack, index_traverse tree whole contents index, Option.map_some]
  dsimp only
  rw [← List.map_reverse]
  cases reversed : whole.labels.reverse with
  | nil =>
      rw [List.reverse_eq_nil_iff.mp reversed]
      rfl
  | cons id rest =>
      have some : whole.labels ≠ [] := by
        rintro none
        rw [none] at reversed
        cases reversed
      rw [List.isEmpty_eq_false_iff.mpr some]
      rfl

end

theorem count_stream_unset (account : Account) (bytes : Nat) : countStream account none bytes = some account := by
  rw [countStream.eq_def]
  cases account.streams <;> rfl

-- StreamId is never set, so that a send leaves the streams alone.
theorem send_leaves_streams (account : Account) (lengths : List Nat) (sends : List Sent) (unset : account.streamId = none) :
    ((sendBuffersToClient account lengths sends).map fun result => (result.1, result.2.2.streams, result.2.2.streamId)) =
      (codeOf lengths sends).map fun code => (code, account.streams, none) := by
  rw [sendBuffersToClient, codeOf]
  by_cases empty : lengths = []
  · rw [if_pos empty, if_pos empty, Option.map_some, Option.map_some, unset]
  · rw [if_neg empty, if_neg empty]
    cases remaining : sendRemaining lengths.sum sends with
    | none => rfl
    | some result =>
        obtain ⟨code, out⟩ := result
        rcases send_remaining_code _ _ _ _ remaining with failed | ⟨rfl, -⟩
        · simp [failed, unset]
        · simp [unset, count_stream_unset]

theorem send_read_streams (account counted : Account) (streamId : Text) (ts : Nat) (frame : Option Nat) (sends : List Sent)
    (ran : countStream { account with txPackets := account.txPackets + 1, txBytes := account.txBytes + ts } (some streamId) ts =
      some counted)
    (unset : counted.streamId = none) :
    ((sendRead account streamId ts frame sends).map fun result => (result.1, result.2.streams, result.2.streamId)) =
      (sendCode frame sends).map fun code => (code, counted.streams, none) := by
  rw [sendRead, ran, Option.bind_eq_bind, Option.bind_some]
  cases frame with
  | none =>
      rw [sendCode, Option.map_some, Option.map_some, unset]
  | some length =>
      have sends := send_leaves_streams counted [length] sends unset
      rw [sendCode, ← sends]
      simp only [Option.bind_eq_bind, Option.map_bind]
      cases sendBuffersToClient counted [length] _ with
      | none => rfl
      | some result => rfl

structure Kept (s : Ledger) : Prop where
  streamId : s.account.streamId = none
  index : ∀ tree, s.account.streams = some tree → ∃ whole contents, Index tree whole contents

section

variable (config : ServerConfig)

theorem write_t_log_account (s : Ledger) (kept : Kept s) (reset : Bool) (log : TLog)
    (ran : writeTLog config s.connTime s.account reset = some log) : log.account = s.account := by
  have part (direction : Direction) : (logPart direction reset s.account.streams).streams = s.account.streams := by
    cases streams : s.account.streams with
    | none => rfl
    | some tree =>
        obtain ⟨whole, contents, index⟩ := kept.index tree streams
        rw [log_part_tree tree whole contents direction reset index]
  have tx : (if config.values .txLog != 0 then logPart txDirection reset s.account.streams else ⟨true, [], s.account.streams⟩).streams =
      s.account.streams := by
    split
    · exact part txDirection
    · rfl
  rw [writeTLog] at ran
  split at ran
  · split at ran
    · cases ran
      dsimp only
      rw [tx]
      split
      · rw [part rxDirection]
      · rfl
    · cases ran
  · cases ran
    rfl

theorem write_t_log_spec (s : Ledger) (tree : RBTree Text StreamNode) (whole : Library.ColorTree NodeId)
    (contents : Text → Option StreamNode) (index : Index tree whole contents) (streams : s.account.streams = some tree)
    (logs : tLogs config = true) (reset : Bool) : writeTLog config s.connTime s.account reset =
      if showsConnTime s.connTime then some ⟨if whole.labels.isEmpty then 0 else -1, [], [], s.account⟩ else none := by
  have part (direction : Direction) := log_part_tree tree whole contents direction reset index
  have one : (config.values .txLog != 0 || config.values .rxLog != 0) = true := (Bool.and_eq_true_iff.mp logs).2
  have same : { s.account with streams := some tree } = s.account := by rw [← streams]
  rw [writeTLog, if_pos logs]
  by_cases shows : showsConnTime s.connTime = true
  · rw [if_pos shows, if_pos shows, streams]
    dsimp only
    cases tx : config.values .txLog != 0 with
    | true =>
        rw [if_pos rfl, part]
        cases config.values .rxLog != 0 with
        | true => simp [part, same]
        | false => simp [same]
    | false =>
        rw [tx, Bool.false_or] at one
        simp [one, part, same]
  · rw [if_neg shows, if_neg shows]

end

section

variable (tree counted : RBTree Text StreamNode) (whole whole' : Library.ColorTree NodeId) (contents : Text → Option StreamNode)
  (sent received : List (Text × Nat))

theorem tallied_write (streamid : Text) (dSize : Nat) (data : StreamNode)
    (isData : data = (contents streamid).getD ⟨streamid, 0, 0, 0, 0⟩) (index : Index tree whole contents)
    (index' : Index counted whole' (assign contents streamid
      (some { data with rxPackets := data.rxPackets + 1, rxBytes := data.rxBytes + dSize })))
    (tallied : Tallied tree sent received) : Tallied counted sent (received ++ [(streamid, dSize)]) := by
  have grows (measure : StreamNode → Nat) (zero : measure ⟨streamid, 0, 0, 0, 0⟩ = 0) := by
    have sums := total_assign tree counted whole whole' contents measure streamid _ index index'
    have old : ((contents streamid).map measure).getD 0 = measure data := by
      rw [isData]
      cases contents streamid with
      | none => exact zero.symm
      | some other => rfl
    rw [old] at sums
    exact sums
  have txPackets := grows (·.txPackets) rfl
  have txBytes := grows (·.txBytes) rfl
  have rxPackets := grows (·.rxPackets) rfl
  have rxBytes := grows (·.rxBytes) rfl
  obtain ⟨sentPackets, sentBytes, receivedPackets, receivedBytes⟩ := tallied
  dsimp only at txPackets txBytes rxPackets rxBytes
  refine ⟨by omega, by omega, ?_, ?_⟩
  · rw [List.length_append, List.length_singleton]
    omega
  · rw [List.map_append, List.sum_append]
    simp only [List.map_cons, List.map_nil, List.sum_cons, List.sum_nil]
    omega

structure GrowsBy (ts : Nat) : Prop where
  txPackets : total (·.txPackets) counted = total (·.txPackets) tree + 1
  txBytes : total (·.txBytes) counted = total (·.txBytes) tree + ts
  rxPackets : total (·.rxPackets) counted = total (·.rxPackets) tree
  rxBytes : total (·.rxBytes) counted = total (·.rxBytes) tree

theorem total_read (streamId : Text) (ts : Nat) (data : StreamNode) (present : contents streamId = some data)
    (index : Index tree whole contents)
    (index' : Index counted whole (assign contents streamId
      (some { data with txPackets := data.txPackets + 1, txBytes := data.txBytes + ts }))) :
    GrowsBy tree counted ts := by
  have grows (measure : StreamNode → Nat) := by
    have sums := total_assign tree counted whole whole contents measure streamId _ index index'
    rw [present, Option.map_some, Option.getD_some] at sums
    exact sums
  have txPackets := grows (·.txPackets)
  have txBytes := grows (·.txBytes)
  have rxPackets := grows (·.rxPackets)
  have rxBytes := grows (·.rxBytes)
  dsimp only at txPackets txBytes rxPackets rxBytes
  exact ⟨by omega, by omega, by omega, by omega⟩

theorem tallied_sent (streamId : Text) (ts : Nat)
    (grown : GrowsBy tree counted ts)
    (tallied : Tallied tree sent received) : Tallied counted (sent ++ [(streamId, ts)]) received := by
  obtain ⟨txPackets, txBytes, rxPackets, rxBytes⟩ := grown
  refine ⟨?_, ?_, rxPackets.trans tallied.rxPackets, rxBytes.trans tallied.rxBytes⟩
  · rw [txPackets, tallied.txPackets, List.length_append, List.length_singleton]
  · rw [txBytes, tallied.txBytes, List.map_append, List.sum_append]
    simp

end

section

variable (config : ServerConfig) (s next : Ledger) (event : TransferEvent)

structure Sends (tree after : RBTree Text StreamNode) (code : Int) (packet : Text × Nat) : Prop where
  streams : next.account.streams = some after
  kept : Kept next
  sent : next.sent = if code = 0 then s.sent ++ [packet] else s.sent
  received : next.received = s.received

theorem stream_step (kept : Kept s) (tree : RBTree Text StreamNode) (streams : s.account.streams = some tree) (streamId : Text)
    (lengths : List Nat) (sends : List Sent) :
    (∀ next, ledgerStep config s (.stream streamId lengths sends) = some next →
      ∃ code, codeOf lengths sends = some code ∧ Sends s next tree tree code (streamId, lengths.sum)) ∧
    ∀ code, codeOf lengths sends = some code → (ledgerStep config s (.stream streamId lengths sends)).isSome = true := by
  have spec := send_leaves_streams s.account lengths sends kept.streamId
  rw [ledgerStep]
  cases ran : sendBuffersToClient s.account lengths sends with
  | none =>
      rw [ran, Option.map_none, eq_comm, Option.map_eq_none_iff] at spec
      constructor
      · intro next step
        cases step
      · intro code isCode
        rw [spec] at isCode
        cases isCode
  | some result =>
      rw [ran, Option.map_some, eq_comm, Option.map_eq_some_iff] at spec
      obtain ⟨code, isCode, same⟩ := spec
      obtain ⟨sameCode, sameStreams, unset⟩ : code = result.1 ∧ s.account.streams = result.2.2.streams ∧ none = result.2.2.streamId := by
        simpa using same
      refine ⟨fun next step => ⟨code, isCode, ?_⟩, fun _ _ => rfl⟩
      rw [Option.map_some, Option.some.injEq] at step
      subst step
      refine ⟨sameStreams ▸ streams, ⟨unset.symm, fun other isOther => kept.index other (sameStreams.trans isOther)⟩, ?_, rfl⟩
      rw [sameCode]

theorem read_step (kept : Kept s) (tree : RBTree Text StreamNode) (streams : s.account.streams = some tree) (streamId : Text) (ts : Nat)
    (frame : Option Nat) (sends : List Sent) :
    (∀ next, ledgerStep config s (.read streamId ts frame sends) = some next →
      ∃ code after, sendCode frame sends = some code ∧ Sends s next tree after code (streamId, ts) ∧
        ((¬ tracked tree streamId ∧ after = tree) ∨ (tracked tree streamId ∧ GrowsBy tree after ts))) ∧
    ∀ code, sendCode frame sends = some code → (ledgerStep config s (.read streamId ts frame sends)).isSome = true := by
  obtain ⟨whole, contents, index⟩ := kept.index tree streams
  have counts : ∃ counted after whole' contents', countStream { s.account with
        txPackets := s.account.txPackets + 1, txBytes := s.account.txBytes + ts } (some streamId) ts = some counted ∧
      counted.streamId = none ∧ counted.streams = some after ∧ Index after whole' contents' ∧
      ((¬ tracked tree streamId ∧ after = tree) ∨ (tracked tree streamId ∧ GrowsBy tree after ts)) := by
    by_cases isTracked : tracked tree streamId
    · obtain ⟨after, data, present, ran, index'⟩ := count_stream_tracked tree whole contents { s.account with
        txPackets := s.account.txPackets + 1, txBytes := s.account.txBytes + ts } streamId ts index streams isTracked
      exact ⟨_, after, whole, _, ran, kept.streamId, rfl, index',
        .inr ⟨isTracked, total_read tree after whole contents streamId ts data present index index'⟩⟩
    · exact ⟨_, tree, whole, contents, count_stream_untracked tree whole contents _ streamId ts index streams isTracked, kept.streamId,
        streams, index, .inl ⟨isTracked, rfl⟩⟩
  obtain ⟨counted, after, whole', contents', ran, unset, isAfter, index', outcome⟩ := counts
  have spec := send_read_streams s.account counted streamId ts frame sends ran unset
  rw [ledgerStep]
  cases sent : sendRead s.account streamId ts frame sends with
  | none =>
      rw [sent, Option.map_none, eq_comm, Option.map_eq_none_iff] at spec
      constructor
      · intro next step
        cases step
      · intro code isCode
        rw [spec] at isCode
        cases isCode
  | some result =>
      rw [sent, Option.map_some, eq_comm, Option.map_eq_some_iff] at spec
      obtain ⟨code, isCode, same⟩ := spec
      obtain ⟨sameCode, sameStreams, none⟩ : code = result.1 ∧ counted.streams = result.2.streams ∧ none = result.2.streamId := by
        simpa using same
      refine ⟨fun next step => ⟨code, after, isCode, ?_, outcome⟩, fun _ _ => rfl⟩
      rw [Option.map_some, Option.some.injEq] at step
      subst step
      refine ⟨sameStreams ▸ isAfter, ⟨none.symm, fun other isOther => ?_⟩, ?_, rfl⟩
      · have same : some after = some other := isAfter.symm.trans (sameStreams.trans isOther)
        cases same
        exact ⟨whole', contents', index'⟩
      · rw [sameCode]

theorem send_streams (account : Account) (lengths : List Nat) (sends : List Sent) (unset : account.streamId = none)
    (result : Int × Nat × Account) (ran : sendBuffersToClient account lengths sends = some result) :
    result.2.2.streams = account.streams ∧ result.2.2.streamId = none := by
  have spec := send_leaves_streams account lengths sends unset
  rw [ran, Option.map_some, eq_comm, Option.map_eq_some_iff] at spec
  obtain ⟨code, -, same⟩ := spec
  obtain ⟨-, streams, none⟩ : code = result.1 ∧ account.streams = result.2.2.streams ∧ none = result.2.2.streamId := by
    simpa using same
  exact ⟨streams.symm, none.symm⟩

theorem log_step (kept : Kept s) (step : ledgerStep config s .writeTLog = some next) : next = s.afterLog config s.account := by
  obtain ⟨log, ran, rfl⟩ := Option.map_eq_some_iff.mp step
  rw [write_t_log_account config s kept true log ran]

theorem cleanup_step (kept : Kept s) (step : ledgerStep config s .cleanup = some next) :
    next = s.afterLog config { s.account with streams := none } := by
  obtain ⟨log, ran, rfl⟩ := Option.map_eq_some_iff.mp step
  rw [write_t_log_account config s kept true log ran]

theorem closed_step (kept : Kept s) (closed : s.account.streams = none) (step : ledgerStep config s event = some next) :
    next.account.streams = none ∧ next.account.streamId = none := by
  cases event with
  | write streamid dSize =>
      obtain ⟨account, ran, rfl⟩ := Option.map_eq_some_iff.mp step
      rw [countWrite.eq_def, closed] at ran
      cases ran
      exact ⟨rfl, kept.streamId⟩
  | read streamId ts frame sends =>
      obtain ⟨result, ran, rfl⟩ := Option.map_eq_some_iff.mp step
      have counted : countStream { s.account with txPackets := s.account.txPackets + 1, txBytes := s.account.txBytes + ts }
          (some streamId) ts = some { s.account with txPackets := s.account.txPackets + 1, txBytes := s.account.txBytes + ts } := by
        rw [countStream.eq_def, closed]
      have spec := send_read_streams s.account _ streamId ts frame sends counted kept.streamId
      rw [ran, Option.map_some, eq_comm, Option.map_eq_some_iff] at spec
      obtain ⟨code, -, same⟩ := spec
      obtain ⟨-, streams, none⟩ : code = result.1 ∧ s.account.streams = result.2.streams ∧ none = result.2.streamId := by
        simpa using same
      exact ⟨streams.symm.trans closed, none.symm⟩
  | stream streamId lengths sends =>
      obtain ⟨result, ran, rfl⟩ := Option.map_eq_some_iff.mp step
      obtain ⟨streams, unset⟩ := send_streams s.account lengths sends kept.streamId result ran
      exact ⟨streams.trans closed, unset⟩
  | reply lengths sends =>
      obtain ⟨result, ran, rfl⟩ := Option.map_eq_some_iff.mp step
      obtain ⟨streams, unset⟩ := send_streams s.account lengths sends kept.streamId result ran
      exact ⟨streams.trans closed, unset⟩
  | writeTLog =>
      obtain rfl := log_step config s next kept step
      exact ⟨closed, kept.streamId⟩
  | cleanup =>
      obtain rfl := cleanup_step config s next kept step
      exact ⟨rfl, kept.streamId⟩

theorem write_step (kept : Kept s) (tree : RBTree Text StreamNode) (streams : s.account.streams = some tree) (streamid : Text)
    (dSize : Nat) (step : ledgerStep config s (.write streamid dSize) = some next) :
    Kept next ∧ ∃ after, next.account.streams = some after ∧
      ∀ sent received, Tallied tree sent received → Tallied after sent (received ++ [(streamid, dSize)]) := by
  obtain ⟨whole, contents, index⟩ := kept.index tree streams
  obtain ⟨counted, whole', data, isData, ran, index'⟩ := count_write_spec tree whole contents s.account streamid dSize index streams
  rw [ledgerStep, ran] at step
  cases step
  refine ⟨⟨kept.streamId, fun other isOther => ?_⟩, counted, rfl, fun sent received tallied => ?_⟩
  · cases isOther
    exact ⟨whole', _, index'⟩
  · exact tallied_write tree counted whole whole' contents sent received streamid dSize data isData index index' tallied

theorem kept_step (kept : Kept s) (step : ledgerStep config s event = some next) : Kept next := by
  cases streams : s.account.streams with
  | none =>
      obtain ⟨closed, unset⟩ := closed_step config s next event kept streams step
      refine ⟨unset, fun tree isTree => ?_⟩
      rw [closed] at isTree
      cases isTree
  | some tree =>
      cases event with
      | write streamid dSize => exact (write_step config s next kept tree streams streamid dSize step).1
      | read streamId ts frame sends =>
          obtain ⟨code, after, -, sent, -⟩ := (read_step config s kept tree streams streamId ts frame sends).1 next step
          exact sent.kept
      | stream streamId lengths sends =>
          obtain ⟨code, -, sent⟩ := (stream_step config s kept tree streams streamId lengths sends).1 next step
          exact sent.kept
      | reply lengths sends =>
          obtain ⟨result, ran, rfl⟩ := Option.map_eq_some_iff.mp step
          obtain ⟨same, unset⟩ := send_streams s.account lengths sends kept.streamId result ran
          exact ⟨unset, fun other isOther => kept.index other (same.symm.trans isOther)⟩
      | writeTLog =>
          obtain rfl := log_step config s next kept step
          exact ⟨kept.streamId, kept.index⟩
      | cleanup =>
          obtain rfl := cleanup_step config s next kept step
          exact ⟨kept.streamId, fun tree isTree => by cases isTree⟩

theorem logs_all_iff (kept : Kept s) (accounted : Accounted s) (tree : RBTree Text StreamNode) (streams : s.account.streams = some tree) :
    LogsAll config s ↔ (tLogs config = true → showsConnTime s.connTime = true ∧ traverse tree = some []) := by
  obtain ⟨whole, contents, index⟩ := kept.index tree streams
  have walked := index_traverse tree whole contents index
  constructor
  · intro all logs
    obtain ⟨log, ran, zero, -, -⟩ := all logs
    rw [write_t_log_spec config s tree whole contents index streams logs true] at ran
    by_cases shows : showsConnTime s.connTime = true
    · rw [if_pos shows] at ran
      cases ran
      refine ⟨shows, ?_⟩
      cases empty : whole.labels with
      | nil => rw [walked, empty]
      | cons id rest =>
          rw [empty] at zero
          exact absurd zero (show ¬ (-1 : Int) = 0 by decide)
    · rw [if_neg shows] at ran
      cases ran
  · intro able logs
    obtain ⟨shows, empty⟩ := able logs
    have none : whole.labels = [] := Option.some.inj (walked.symm.trans empty)
    have spec := write_t_log_spec config s tree whole contents index streams logs true
    rw [if_pos shows, none] at spec
    have nodes : streamNodes tree = [] := by
      rw [streamNodes, empty]
      rfl
    obtain ⟨txPackets, -, rxPackets, -⟩ := accounted tree streams
    have sent : s.sent = [] := by
      apply List.length_eq_zero_iff.mp
      rw [← txPackets, total, nodes]
      rfl
    have received : s.received = [] := by
      apply List.length_eq_zero_iff.mp
      rw [← rxPackets, total, nodes]
      rfl
    refine ⟨_, spec, rfl, fun _ => ?_, fun _ => ?_⟩
    · rw [sent]
      exact fun _ => ⟨rfl, rfl⟩
    · rw [received]
      exact fun _ => ⟨rfl, rfl⟩

theorem after_log_accounted (accounted : Accounted s) (tree : RBTree Text StreamNode)
    (streams : s.account.streams = some tree) (empty : tLogs config = true → traverse tree = some []) :
    Accounted (s.afterLog config s.account) := by
  intro other isOther
  obtain rfl : tree = other := Option.some.inj (streams.symm.trans isOther)
  have tallied := accounted tree streams
  cases logs : tLogs config with
  | false =>
      rw [Ledger.afterLog, logs]
      exact tallied
  | true =>
      have nodes : streamNodes tree = [] := by
        rw [streamNodes, empty logs]
        rfl
      have zero (measure : StreamNode → Nat) : total measure tree = 0 := by
        rw [total, nodes]
        rfl
      have sent : s.sent = [] := List.length_eq_zero_iff.mp (tallied.txPackets.symm.trans (zero _))
      have received : s.received = [] := List.length_eq_zero_iff.mp (tallied.rxPackets.symm.trans (zero _))
      rw [Ledger.afterLog, sent, received, ite_self, ite_self]
      exact ⟨zero _, zero _, zero _, zero _⟩

theorem untracked_sent (tree : RBTree Text StreamNode) (streams : s.account.streams = some tree) (accounted : Accounted s)
    (code : Int) (packet : Text × Nat) (sends : Sends s next tree tree code packet) : Accounted next ↔ code ≠ 0 := by
  have tallied := accounted tree streams
  constructor
  · rintro counts rfl
    have more := (counts tree sends.streams).txPackets
    rw [sends.sent, if_pos rfl, List.length_append, List.length_singleton, tallied.txPackets] at more
    omega
  · intro failed other isOther
    obtain rfl : tree = other := Option.some.inj (sends.streams.symm.trans isOther)
    rw [sends.sent, if_neg failed, sends.received]
    exact tallied

theorem tracked_sent (tree after : RBTree Text StreamNode) (streams : s.account.streams = some tree) (accounted : Accounted s)
    (code : Int) (packet : Text × Nat) (grown : GrowsBy tree after packet.2) (sends : Sends s next tree after code packet) :
    Accounted next ↔ code = 0 := by
  have tallied := accounted tree streams
  constructor
  · intro counts
    by_contra failed
    have same := (counts after sends.streams).txPackets
    rw [sends.sent, if_neg failed, grown.txPackets, tallied.txPackets] at same
    omega
  · intro done other isOther
    obtain rfl : after = other := Option.some.inj (sends.streams.symm.trans isOther)
    rw [sends.sent, if_pos done, sends.received]
    exact tallied_sent tree after s.sent s.received packet.1 packet.2 grown tallied

theorem traceable_iff (kept : Kept s) (accounted : Accounted s) : Traceable config s event ↔
    Reports config s event ∧ ∀ next, ledgerStep config s event = some next → Accounted next := by
  cases streams : s.account.streams with
  | none =>
      refine iff_of_true (fun tree isTree => ?_) ⟨?_, fun next step tree isTree => ?_⟩
      · rw [streams] at isTree
        cases isTree
      · cases event with
        | writeTLog => exact fun tree isTree => by rw [streams] at isTree; cases isTree
        | cleanup => exact fun tree isTree => by rw [streams] at isTree; cases isTree
        | _ => trivial
      · rw [(closed_step config s next event kept streams step).1] at isTree
        cases isTree
  | some tree =>
      have here : Traceable config s event ↔ TraceableIn config s.connTime tree event := by
        constructor
        · exact fun traceable => traceable tree streams
        · intro traceable other isOther
          obtain rfl : tree = other := Option.some.inj (streams.symm.trans isOther)
          exact traceable
      have whole (P : Prop) : (∀ other, s.account.streams = some other → P) ↔ P := by
        constructor
        · exact fun all => all tree streams
        · exact fun holds _ _ => holds
      rw [here]
      cases event with
      | write streamid dSize =>
          refine iff_of_true trivial ⟨trivial, fun next step other isOther => ?_⟩
          obtain ⟨-, after, isAfter, tallied⟩ := write_step config s next kept tree streams streamid dSize step
          obtain rfl : after = other := Option.some.inj (isAfter.symm.trans isOther)
          obtain ⟨account, -, rfl⟩ := Option.map_eq_some_iff.mp step
          exact tallied s.sent s.received (accounted tree streams)
      | read streamId ts frame sends =>
          obtain ⟨does, able⟩ := read_step config s kept tree streams streamId ts frame sends
          have counts (next : Ledger) (step : ledgerStep config s (.read streamId ts frame sends) = some next) (code : Int)
              (isCode : sendCode frame sends = some code) : Accounted next ↔ (tracked tree streamId ↔ code = 0) := by
            obtain ⟨other, after, isOther, sent, outcome⟩ := does next step
            obtain rfl : code = other := Option.some.inj (isCode.symm.trans isOther)
            rcases outcome with ⟨untracked, rfl⟩ | ⟨isTracked, grown⟩
            · rw [untracked_sent s next after streams accounted code _ sent, iff_false_left untracked]
            · rw [tracked_sent s next tree after streams accounted code _ grown sent, iff_true_left isTracked]
          constructor
          · intro traceable
            refine ⟨trivial, fun next step => ?_⟩
            obtain ⟨code, after, isCode, -⟩ := does next step
            exact (counts next step code isCode).mpr (traceable code isCode)
          · intro all code isCode
            obtain ⟨next, step⟩ := Option.isSome_iff_exists.mp (able code isCode)
            exact (counts next step code isCode).mp (all.2 next step)
      | stream streamId lengths sends =>
          obtain ⟨does, able⟩ := stream_step config s kept tree streams streamId lengths sends
          constructor
          · intro traceable
            refine ⟨trivial, fun next step => ?_⟩
            obtain ⟨code, isCode, sent⟩ := does next step
            apply (untracked_sent s next tree streams accounted code _ sent).mpr
            rintro rfl
            exact traceable isCode
          · intro all isCode
            obtain ⟨next, step⟩ := Option.isSome_iff_exists.mp (able 0 isCode)
            obtain ⟨code, isOther, sent⟩ := does next step
            obtain rfl : 0 = code := Option.some.inj (isCode.symm.trans isOther)
            exact (untracked_sent s next tree streams accounted 0 _ sent).mp (all.2 next step) rfl
      | reply lengths sends =>
          refine iff_of_true trivial ⟨trivial, fun next step other isOther => ?_⟩
          obtain ⟨result, ran, rfl⟩ := Option.map_eq_some_iff.mp step
          obtain ⟨same, -⟩ := send_streams s.account lengths sends kept.streamId result ran
          exact accounted other (same.symm.trans isOther)
      | writeTLog =>
          rw [Reports, whole, logs_all_iff config s kept accounted tree streams, TraceableIn, iff_self_and]
          intro able next step
          obtain rfl := log_step config s next kept step
          exact after_log_accounted config s accounted tree streams fun logs => (able logs).2
      | cleanup =>
          rw [Reports, whole, logs_all_iff config s kept accounted tree streams, TraceableIn, iff_self_and]
          intro _ next step other isOther
          obtain rfl := cleanup_step config s next kept step
          cases isOther

theorem accounted_along_iff (kept : Kept s) (accounted : Accounted s) (events : List TransferEvent) :
    AccountedAlong config s events ↔ AllTraceable config s events := by
  induction events generalizing s with
  | nil => exact iff_of_true accounted trivial
  | cons event rest ih =>
      have first := traceable_iff config s event kept accounted
      constructor
      · intro along
        have counts (next : Ledger) (step : ledgerStep config s event = some next) : Accounted next := by
          have more := along.2.2 next step
          cases rest with
          | nil => exact more
          | cons => exact more.1
        refine ⟨first.mpr ⟨along.2.1, counts⟩, fun next step => ?_⟩
        exact (ih next (kept_step config s next event kept step) (counts next step)).mp (along.2.2 next step)
      · intro all
        obtain ⟨reports, counts⟩ := first.mp all.1
        refine ⟨accounted, reports, fun next step => ?_⟩
        exact (ih next (kept_step config s next event kept step) (counts next step)).mpr (all.2 next step)

theorem kept_new (connTime : NsTime) : Kept (newLedger connTime) := by
  refine ⟨rfl, fun tree isTree => ?_⟩
  cases isTree
  exact ⟨.nil, fun _ => none, index_create⟩

theorem accounted_new (connTime : NsTime) : Accounted (newLedger connTime) := by
  intro tree isTree
  cases isTree
  exact ⟨rfl, rfl, rfl, rfl⟩

end

-- The client of the defaults, with a directory for the logs.
def loggingConfig : ServerConfig := { initialConfig with values := Function.update initialConfig.values .tLogBaseDir (some ['.']) }

-- The first of January of 2026 and of 2029.
def newYear2026 : NsTime := ⟨1767225600000000000⟩

def newYear2029 : NsTime := ⟨1861920000000000000⟩

end RingServer.Net
