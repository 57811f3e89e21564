import Mathlib.Data.List.Sort
import RingServer.Ring.Restart

set_option autoImplicit false

namespace RingServer

open Library

-- A ring of a server whose packet buffer is kept in files: made where there is no
-- file to recover, written, and initialized again after a shutdown.
inductive Lived (pageSize : UInt32) (ringSize : UInt64) (pktSize : UInt32) : RingParams → Prop
  | created (files : RingBuffer.RingFiles) (ring : RingParams) (unread : Unread files ringSize)
      (init : RingBuffer.ringInitialize true files pageSize ringSize pktSize false = some (0, some ring))
      (room : ring.headerSize.toUInt64 ≤ ring.ringSize) (two : 2 ≤ ring.maxPackets) : Lived pageSize ringSize pktSize ring
  | wrote (ring next : RingParams) (request : Request) (code : Int) (packet : RingPacket) (lived : Lived pageSize ringSize pktSize ring)
      (survives : Survives request.packet.streamId) (array : request.dataSize.toNat < 2 ^ 31)
      (write : writeRequest ring request = some (code, next, packet)) : Lived pageSize ringSize pktSize next
  | restarted (ring old new : RingParams) (files files' : RingBuffer.RingFiles) (lived : Lived pageSize ringSize pktSize ring)
      (down : RingBuffer.ringShutdown true files ring = some (0, files', old))
      (init : RingBuffer.ringInitialize true files' pageSize ringSize pktSize false = some (0, some new)) :
      Lived pageSize ringSize pktSize new

def HeldAt (ring : RingParams) (offset : Int64) : Prop :=
  0 ≤ ring.earliestOffset ∧ ∃ k, offset = slotAt ring k ∧ ∀ j, j < k → slotAt ring j ≠ ring.latestOffset

def indexedStreams (ring : RingParams) : Option (List RingStream) := do
  let nodes ← ring.streamIdx.traverse
  nodes.mapM fun node => (ring.streamIdx.nodes node).data

def lookUp (ring : RingParams) (streamId : Text) : Option (Option RingStream) :=
  (RingBuffer.getStreamIdx ring streamId).map fun found => found.map Prod.snd

structure Restored (old new : RingParams) : Prop where
  setup : SameSetup old new
  earliest : earliestOf new = earliestOf old
  latest : latestOf new = latestOf old
  held : ∀ offset, HeldAt new offset ↔ HeldAt old offset
  packets : ∀ offset, HeldAt old offset → ∃ packet body,
    RingBuffer.readPacketAtOffset old offset = some packet ∧ RingBuffer.readPacketAtOffset new offset = some packet ∧
    bodyAt old offset = some body ∧ bodyAt new offset = some body
  streams : ∃ streams, indexedStreams old = some streams ∧ indexedStreams new = some streams
  found : ∀ streamId, ∃ stream, lookUp old streamId = some stream ∧ lookUp new streamId = some stream
  streamCount : new.streamCount = old.streamCount

theorem held_at_resident (g : Geometry) (ring : RingParams) (journal : Journal) (holds : Holds g ring journal) (offset : Int64) :
    HeldAt ring offset ↔ ∃ i, journal.Resident g i ∧ offset = g.offsetAt i := by
  have positive := g.positive
  have stored := (end_offsets g ring journal holds).2.2
  constructor
  · intro held
    obtain ⟨nonneg, k, isSlot, before⟩ := held
    have some := stored.mp nonneg
    have low : journal.low g < journal.written := by simp only [Journal.low, oldest]; omega
    refine ⟨journal.low g + k, ⟨Nat.le_add_right _ _, ?_⟩, isSlot.trans (slot_at_low g ring journal holds some k)⟩
    -- the latest packet would have been met before a later slot
    by_contra later
    refine before (journal.written - 1 - journal.low g) (by omega) ?_
    have last : journal.low g + (journal.written - 1 - journal.low g) = journal.written - 1 := by omega
    rw [slot_at_low g ring journal holds some, last, latest_offset_at g ring journal holds some]
  · intro resident
    obtain ⟨i, ⟨above, below⟩, isOffset⟩ := resident
    have some : 0 < journal.written := Nat.lt_of_le_of_lt (Nat.zero_le i) below
    have slot := slot_at_low g ring journal holds some
    refine ⟨stored.mpr some, i - journal.low g, by rw [slot, Nat.add_sub_of_le above, isOffset], fun j before same => ?_⟩
    rw [slot, latest_offset_at g ring journal holds some] at same
    exact resident_offset_ne g ring journal holds _ _ ⟨Nat.le_add_right _ _, by omega⟩ ⟨by omega, by omega⟩ (by omega) same

theorem look_up_spec (g : Geometry) (ring : RingParams) (journal : Journal) (holds : Holds g ring journal) (streamId : Text) :
    lookUp ring streamId = some (journal.streamFrom (journal.low g) streamId) := by
  obtain ⟨whole, index, _⟩ := holds.index
  cases get_stream_idx_spec ring whole _ index streamId with
  | inl absent => rw [lookUp, absent.1, absent.2]; rfl
  | inr present =>
      obtain ⟨node, stream, found, _, _, isStream⟩ := present
      rw [lookUp, found, isStream]
      rfl

theorem sorted_streams_unique (first second : List RingStream) (sortedFirst : (first.map (·.streamId)).Pairwise (· < ·))
    (sortedSecond : (second.map (·.streamId)).Pairwise (· < ·)) (same : ∀ stream, stream ∈ first ↔ stream ∈ second) : first = second := by
  rw [List.pairwise_map] at sortedFirst sortedSecond
  have : Std.Irrefl fun (x y : RingStream) => x.streamId < y.streamId := ⟨fun x => lt_irrefl x.streamId⟩
  have : Std.Antisymm fun (x y : RingStream) => x.streamId < y.streamId := ⟨fun _ _ less more => absurd more (lt_asymm less)⟩
  exact sortedFirst.eq_of_mem_iff sortedSecond same

theorem same_journal_restored (g : Geometry) (old new : RingParams) (journal : Journal) (setup : SameSetup old new)
    (holds : Holds g old journal) (holds' : Holds g new journal) : Restored old new := by
  obtain ⟨nodes, streams, traversed, data, count, sorted, members⟩ := indexed_streams g old journal holds
  obtain ⟨nodes', streams', traversed', data', count', sorted', members'⟩ := indexed_streams g new journal holds'
  obtain rfl : streams = streams' :=
    sorted_streams_unique streams streams' sorted sorted' (fun stream => (members stream).trans (members' stream).symm)
  refine ⟨setup, holds'.earliest.trans holds.earliest.symm, holds'.latest.trans holds.latest.symm, fun offset => ?_,
    fun offset held => ?_, ⟨streams, ?_, ?_⟩, fun streamId => ?_, count'.trans count.symm⟩
  · rw [held_at_resident g new journal holds', held_at_resident g old journal holds]
  · obtain ⟨i, resident, rfl⟩ := (held_at_resident g old journal holds offset).mp held
    exact ⟨journal.header g i, (journal.entry i).body, read_resident g old journal holds i resident,
      read_resident g new journal holds' i resident, body_resident g old journal holds i resident,
      body_resident g new journal holds' i resident⟩
  · simp only [indexedStreams, traversed, data, Option.bind_eq_bind, Option.bind_some]
  · simp only [indexedStreams, traversed', data', Option.bind_eq_bind, Option.bind_some]
  · exact ⟨_, look_up_spec g old journal holds streamId, look_up_spec g new journal holds' streamId⟩

structure Alive (pageSize : UInt32) (ringSize : UInt64) (pktSize : UInt32) (ring : RingParams) (g : Geometry) (journal : Journal)
    (headerSize : UInt32) (maxPackets : UInt64) (maxOffset : Int64) : Prop where
  opens : Opens pageSize ringSize pktSize headerSize maxPackets maxOffset
  setUp : SetUp ring ringSize pktSize headerSize maxPackets maxOffset false
  base : g.base = headerSize.toNat
  holds : Holds g ring journal

theorem write_refused (ring : RingParams) (request : Request) (tooLarge : 112 + request.dataSize > ring.pktSize) :
    writeRequest ring request = some (-1, ring, request.packet) := by
  rw [writeRequest, RingBuffer.write, if_pos tooLarge]

theorem write_alive (pageSize : UInt32) (ringSize : UInt64) (pktSize : UInt32) (ring next : RingParams) (request : Request)
    (code : Int) (packet : RingPacket) (g : Geometry) (journal : Journal) (headerSize : UInt32) (maxPackets : UInt64)
    (maxOffset : Int64) (alive : Alive pageSize ringSize pktSize ring g journal headerSize maxPackets maxOffset)
    (survives : Survives request.packet.streamId) (array : request.dataSize.toNat < 2 ^ 31)
    (write : writeRequest ring request = some (code, next, packet)) :
    ∃ journal', Alive pageSize ringSize pktSize next g journal' headerSize maxPackets maxOffset := by
  by_cases tooLarge : 112 + request.dataSize > ring.pktSize
  · rw [write_refused ring request tooLarge] at write
    cases write
    exact ⟨journal, alive⟩
  · obtain ⟨ring', written, same, _, holds⟩ := write_spec g ring journal alive.holds request ⟨survives, tooLarge, array⟩
    rw [written] at write
    cases write
    exact ⟨journal.record g request, alive.opens,
      set_up_same ring next ringSize pktSize headerSize maxPackets maxOffset false same alive.setUp, alive.base, holds⟩

theorem restart_alive (pageSize : UInt32) (ringSize : UInt64) (pktSize : UInt32) (ring old new : RingParams)
    (files files' : RingBuffer.RingFiles) (g : Geometry) (journal : Journal) (headerSize : UInt32) (maxPackets : UInt64)
    (maxOffset : Int64) (alive : Alive pageSize ringSize pktSize ring g journal headerSize maxPackets maxOffset)
    (down : RingBuffer.ringShutdown true files ring = some (0, files', old))
    (init : RingBuffer.ringInitialize true files' pageSize ringSize pktSize false = some (0, some new)) :
    Alive pageSize ringSize pktSize new g journal headerSize maxPackets maxOffset := by
  obtain ⟨_, _, ring', stopped, started, same, holds⟩ := restart_spec g ring journal alive.holds pageSize ringSize pktSize headerSize
    maxPackets maxOffset alive.opens alive.setUp alive.base files
  rw [stopped] at down
  cases down
  rw [started] at init
  cases init
  exact ⟨alive.opens, set_up_same ring new ringSize pktSize headerSize maxPackets maxOffset false same alive.setUp, alive.base, holds⟩

theorem lived_counted (pageSize : UInt32) (ringSize : UInt64) (pktSize : UInt32) (ring : RingParams)
    (lived : Lived pageSize ringSize pktSize ring) :
    ∃ g journal headerSize maxPackets maxOffset, Alive pageSize ringSize pktSize ring g journal headerSize maxPackets maxOffset ∧
      maxPackets.toNat = g.count := by
  induction lived with
  | created files ring unread init room two =>
      obtain ⟨g, headerSize, maxPackets, maxOffset, fresh, opens, setUp, base⟩ :=
        initialize_fresh true files pageSize ringSize pktSize false ring init (Or.inr unread) room two
      refine ⟨g, Journal.empty, headerSize, maxPackets, maxOffset, ⟨opens, setUp, base, fresh_holds g ring fresh⟩, ?_⟩
      rw [← setUp.maxPackets, fresh.maxPackets]
  | wrote ring next request code packet _ survives array write ih =>
      obtain ⟨g, journal, headerSize, maxPackets, maxOffset, alive, count⟩ := ih
      obtain ⟨journal', alive'⟩ := write_alive pageSize ringSize pktSize ring next request code packet g journal headerSize maxPackets
        maxOffset alive survives array write
      exact ⟨g, journal', headerSize, maxPackets, maxOffset, alive', count⟩
  | restarted ring old new files files' _ down init ih =>
      obtain ⟨g, journal, headerSize, maxPackets, maxOffset, alive, count⟩ := ih
      exact ⟨g, journal, headerSize, maxPackets, maxOffset, restart_alive pageSize ringSize pktSize ring old new files files' g journal
        headerSize maxPackets maxOffset alive down init, count⟩

theorem lived_alive (pageSize : UInt32) (ringSize : UInt64) (pktSize : UInt32) (ring : RingParams)
    (lived : Lived pageSize ringSize pktSize ring) :
    ∃ g journal headerSize maxPackets maxOffset, Alive pageSize ringSize pktSize ring g journal headerSize maxPackets maxOffset := by
  obtain ⟨g, journal, headerSize, maxPackets, maxOffset, alive, _⟩ := lived_counted pageSize ringSize pktSize ring lived
  exact ⟨g, journal, headerSize, maxPackets, maxOffset, alive⟩

theorem restart_restores (pageSize : UInt32) (ringSize : UInt64) (pktSize : UInt32) (ring : RingParams)
    (lived : Lived pageSize ringSize pktSize ring) (files : RingBuffer.RingFiles) :
    ∃ files' old new, RingBuffer.ringShutdown true files ring = some (0, files', old) ∧
      RingBuffer.ringInitialize true files' pageSize ringSize pktSize false = some (0, some new) ∧ Restored ring new := by
  obtain ⟨g, journal, headerSize, maxPackets, maxOffset, alive⟩ := lived_alive pageSize ringSize pktSize ring lived
  obtain ⟨files', old, new, down, init, same, holds⟩ := restart_spec g ring journal alive.holds pageSize ringSize pktSize headerSize
    maxPackets maxOffset alive.opens alive.setUp alive.base files
  exact ⟨files', old, new, down, init, same_journal_restored g ring new journal same alive.holds holds⟩

def twoSlotFileRing : RingParams :=
  let ring := RingBuffer.newRingParams ⟨none, none⟩ 4352 128 2 128 4096 false
  RingBuffer.resetRingParams (RingBuffer.readHeader ring) 4352 128 2 128 4096

theorem two_slot_file_ring_lived : Lived 4096 4352 128 twoSlotFileRing :=
  .created ⟨none, none⟩ twoSlotFileRing (fun _ missing => nomatch missing) rfl (by decide) (by decide)

theorem lived_write_all (pageSize : UInt32) (ringSize : UInt64) (pktSize : UInt32) (requests : List Request)
    (plain : ∀ request ∈ requests, Survives request.packet.streamId ∧ request.dataSize.toNat < 2 ^ 31) (ring : RingParams)
    (lived : Lived pageSize ringSize pktSize ring) (result : RingParams × List RingPacket) (ran : writeAll ring requests = some result) :
    Lived pageSize ringSize pktSize result.1 := by
  induction requests generalizing ring result with
  | nil =>
      cases ran
      exact lived
  | cons request rest ih =>
      rw [writeAll] at ran
      split at ran
      · rename_i next packet write
        obtain ⟨later, ranRest, rfl⟩ := Option.map_eq_some_iff.mp ran
        obtain ⟨survives, array⟩ := plain request List.mem_cons_self
        exact ih (fun request member => plain request (List.mem_cons_of_mem _ member)) next
          (.wrote ring next request 0 packet lived survives array write) later ranRest
      · cases ran

theorem three_bytes_plain : ∀ request ∈ threeBytes, Survives request.packet.streamId ∧ request.dataSize.toNat < 2 ^ 31 :=
  fun request member => ⟨(three_bytes_accepted twoSlotRing rfl request member).survives, (three_bytes_accepted twoSlotRing rfl request member).array⟩

theorem restart_restores_wrapped : ∃ written, writeAll twoSlotFileRing threeBytes = some written ∧
    (written.1.earliestOffset, written.1.latestOffset, written.1.streamCount) = (128, 0, 2) ∧
    ∃ files' old new, RingBuffer.ringShutdown true ⟨none, none⟩ written.1 = some (0, files', old) ∧
      RingBuffer.ringInitialize true files' 4096 4352 128 false = some (0, some new) ∧ Restored written.1 new := by
  have ends : (writeAll twoSlotFileRing threeBytes).map (fun written =>
      (written.1.earliestOffset, written.1.latestOffset, written.1.streamCount)) = some (128, 0, 2) := by decide +kernel
  obtain ⟨written, ran, wrapped⟩ := Option.map_eq_some_iff.mp ends
  exact ⟨written, ran, wrapped, restart_restores 4096 4352 128 written.1
    (lived_write_all 4096 4352 128 threeBytes three_bytes_plain twoSlotFileRing two_slot_file_ring_lived written ran) ⟨none, none⟩⟩

end RingServer
