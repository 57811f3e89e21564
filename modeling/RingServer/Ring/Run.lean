import RingServer.Ring.RingFile
import RingServer.Ring.Write

set_option autoImplicit false

namespace RingServer

open Library

structure Request where
  clock : NsTime
  packet : RingPacket
  packetData : List UInt8
  dataSize : UInt32

-- The stream ID survives the header, the payload passes the size check, and its
-- size is that of an array.
structure Accepted (ring : RingParams) (request : Request) : Prop where
  survives : Survives request.packet.streamId
  passes : ¬ 112 + request.dataSize > ring.pktSize
  array : request.dataSize.toNat < 2 ^ 31

def writeRequest (ring : RingParams) (request : Request) : Option (Int × RingParams × RingPacket) :=
  RingBuffer.write request.clock ring request.packet request.packetData request.dataSize

-- The ring after a run of Write calls that all return 0, and the packets as the
-- calls leave them.
def writeAll (ring : RingParams) : List Request → Option (RingParams × List RingPacket)
  | [] => some (ring, [])
  | request :: rest =>
      match writeRequest ring request with
      | some (0, next, packet) => (writeAll next rest).map fun result => (result.1, packet :: result.2)
      | _ => none

def Journal.record (g : Geometry) (journal : Journal) (request : Request) : Journal :=
  journal.append ⟨journal.stamp g request.clock request.packet, slotBody g.slot request.packetData request.dataSize⟩

structure Fresh (g : Geometry) (ring : RingParams) : Prop where
  shaped : Shaped g ring
  maxPackets : ring.maxPackets.toNat = g.count
  earliest : earliestOf ring = noBound
  latest : latestOf ring = noBound
  streamIdx : ring.streamIdx = RBTree.create
  streamCount : ring.streamCount = 0

theorem fresh_holds (g : Geometry) (ring : RingParams) (fresh : Fresh g ring) : Holds g ring Journal.empty := by
  have nowhere : ∀ i, ¬ Journal.empty.Resident g i := fun i resident => absurd resident.2 (Nat.not_lt_zero i)
  refine ⟨fresh.shaped, fresh.earliest, fresh.latest, fun i resident => absurd resident (nowhere i),
    fun i resident => absurd resident (nowhere i), fun i resident => absurd resident (nowhere i), .nil, ?_, fresh.streamCount⟩
  rw [fresh.streamIdx]
  have contents : Journal.empty.streamFrom (Journal.empty.low g) = fun _ => none := by
    funext streamId
    exact Journal.stream_from_none _ _ _ ((first_in_none _ _ _).mpr fun i _ below => absurd below (Nat.not_lt_zero i))
  rw [contents]
  exact RBTree.index_create

-- Initialize with a page of 4096 bytes and two packets of 128 bytes.
def twoSlots : Geometry := ⟨4096, 128, 2, 4352, by decide, by decide, by decide⟩

def twoSlotRing : RingParams :=
  let ring := RingBuffer.newRingParams ⟨none, none⟩ 4352 128 2 128 4096 true
  RingBuffer.resetRingParams (RingBuffer.readHeader ring) 4352 128 2 128 4096

example : RingBuffer.ringInitialize false ⟨none, none⟩ 4096 4352 128 true = some (0, some twoSlotRing) := rfl

theorem two_slots_fresh : Fresh twoSlots twoSlotRing :=
  ⟨⟨rfl, by decide, by decide, rfl⟩, rfl, rfl, rfl, rfl, rfl⟩

def byteRequest (clock : NsTime) (streamId : Text) (byte : UInt8) : Request :=
  ⟨clock, ⟨0, Constants.ringIdNone, clock, -1, streamId, clock, clock, 1⟩, [byte], 1⟩

theorem byte_request_accepted (ring : RingParams) (pktSize : ring.pktSize = 128) (clock : NsTime) (streamId : Text) (byte : UInt8)
    (survives : Survives streamId) : Accepted ring (byteRequest clock streamId byte) :=
  ⟨survives, by rw [pktSize]; show ¬ (112 + 1 : UInt32) > 128; decide, by show (1 : UInt32).toNat < 2 ^ 31; decide⟩

def fourSlots : Geometry := ⟨4096, 128, 4, 4608, by decide, by decide, by decide⟩

def fourSlotRing : RingParams :=
  let ring := RingBuffer.newRingParams ⟨none, none⟩ 4608 128 4 384 4096 true
  RingBuffer.resetRingParams (RingBuffer.readHeader ring) 4608 128 4 384 4096

theorem four_slots_fresh : Fresh fourSlots fourSlotRing :=
  ⟨⟨rfl, by decide, by decide, rfl⟩, rfl, rfl, rfl, rfl, rfl⟩

-- Three packets of two streams: in two slots the third one takes the place of the first.
def threeBytes : List Request := [byteRequest ⟨5⟩ ['A'] 7, byteRequest ⟨6⟩ ['B'] 8, byteRequest ⟨7⟩ ['A'] 9]

theorem three_bytes_accepted (ring : RingParams) (pktSize : ring.pktSize = 128) : ∀ request ∈ threeBytes, Accepted ring request := by
  intro request member
  simp only [threeBytes, List.mem_cons, List.not_mem_nil, or_false] at member
  rcases member with rfl | rfl | rfl
  · exact byte_request_accepted ring pktSize ⟨5⟩ ['A'] 7 (by decide)
  · exact byte_request_accepted ring pktSize ⟨6⟩ ['B'] 8 (by decide)
  · exact byte_request_accepted ring pktSize ⟨7⟩ ['A'] 9 (by decide)

def writtenRing (ring : RingParams) (requests : List Request) : RingParams := ((writeAll ring requests).map Prod.fst).getD ring

def writtenPackets (ring : RingParams) (requests : List Request) : List RingPacket := ((writeAll ring requests).map Prod.snd).getD []

theorem written_of_run (ring next : RingParams) (requests : List Request) (packets : List RingPacket)
    (ran : writeAll ring requests = some (next, packets)) : writtenRing ring requests = next ∧ writtenPackets ring requests = packets := by
  rw [writtenRing, writtenPackets, ran]
  exact ⟨rfl, rfl⟩

def bytePacket (offset : Int64) (pktId : UInt64) (clock : NsTime) (streamId : Text) : RingPacket :=
  ⟨offset, pktId, clock, -1, streamId, clock, clock, 1⟩

theorem three_bytes_two_slots : writtenPackets twoSlotRing threeBytes =
    [bytePacket 0 1 ⟨5⟩ ['A'], bytePacket 128 2 ⟨6⟩ ['B'], bytePacket 0 3 ⟨7⟩ ['A']] := by decide +kernel

theorem three_bytes_four_slots : writtenPackets fourSlotRing threeBytes =
    [bytePacket 0 1 ⟨5⟩ ['A'], bytePacket 128 2 ⟨6⟩ ['B'], bytePacket 256 3 ⟨7⟩ ['A']] := by decide +kernel

theorem accepted_fits (g : Geometry) (ring : RingParams) (shaped : Shaped g ring) (request : Request)
    (accepted : Accepted ring request) : request.dataSize.toNat + 112 ≤ g.slot := by
  have passes := accepted.passes
  have array := accepted.array
  rw [gt_iff_lt, UInt32.lt_iff_toNat_lt, UInt32.toNat_add, shaped.pktSize] at passes
  have constant : (112 : UInt32).toNat = 112 := rfl
  rw [constant, Nat.mod_eq_of_lt (by omega)] at passes
  omega

theorem holds_flux (g : Geometry) (ring : RingParams) (journal : Journal) (flag : UInt8) (holds : Holds g ring journal) :
    Holds g { ring with fluxFlag := flag } journal :=
  ⟨⟨holds.shaped.pktSize, holds.shaped.maxOffset, holds.shaped.dataOffset, holds.shaped.length⟩, holds.earliest, holds.latest,
    holds.slots, holds.offsets, holds.survive, holds.index⟩

theorem ends_read (g : Geometry) (ring : RingParams) (journal : Journal) (holds : Holds g ring journal) :
    (if ring.earliestOffset ≥ 0 then RingBuffer.readPacketAtOffset ring ring.earliestOffset else none) =
      (if journal.written = 0 then none else some (journal.header g (journal.low g))) ∧
    (if ring.latestOffset ≥ 0 then RingBuffer.readPacketAtOffset ring ring.latestOffset else none) =
      (if journal.written = 0 then none else some (journal.header g (journal.written - 1))) := by
  have positive := g.positive
  have earliest := congrArg Bound.offset holds.earliest
  have latest := congrArg Bound.offset holds.latest
  by_cases empty : journal.written = 0
  · rw [if_pos empty] at earliest latest
    have noEarliest : ring.earliestOffset = -1 := earliest
    have noLatest : ring.latestOffset = -1 := latest
    rw [if_pos empty, if_pos empty, noEarliest, noLatest]
    exact ⟨if_neg (by decide), if_neg (by decide)⟩
  · rw [if_neg empty] at earliest latest
    have residentLow : journal.Resident g (journal.low g) := ⟨Nat.le_refl _, by simp only [Journal.low, oldest]; omega⟩
    have residentLast : journal.Resident g (journal.written - 1) := ⟨by simp only [Journal.low, oldest]; omega, by omega⟩
    have atLow : ring.earliestOffset = g.offsetAt (journal.low g) := earliest.trans (holds.offsets _ residentLow)
    have atLast : ring.latestOffset = g.offsetAt (journal.written - 1) := latest.trans (holds.offsets _ residentLast)
    rw [if_neg empty, if_neg empty, atLow, atLast]
    exact ⟨(if_pos (g.offset_at_nonneg _)).trans (read_resident g ring journal holds _ residentLow),
      (if_pos (g.offset_at_nonneg _)).trans (read_resident g ring journal holds _ residentLast)⟩

theorem write_spec (g : Geometry) (ring : RingParams) (journal : Journal) (holds : Holds g ring journal) (request : Request)
    (accepted : Accepted ring request) :
    ∃ ring', writeRequest ring request = some (0, ring', journal.stamp g request.clock request.packet) ∧
      SameSetup ring ring' ∧ ring'.fluxFlag = 0 ∧ Holds g ring' (journal.record g request) := by
  have positive := g.positive
  have fits := accepted_fits g ring holds.shaped request accepted
  have flux := holds_flux g ring journal 1 holds
  obtain ⟨earliest, latest⟩ := ends_read g _ journal flux
  obtain ⟨ring', stored, setup, flag, holds'⟩ := store_spec g _ journal flux (journal.stamp g request.clock request.packet)
    request.packetData request.dataSize fits accepted.survives rfl rfl
  have offset : (if journal.written = 0 then none else some (journal.header g (journal.written - 1))).elim 0
      (fun latest => RingBuffer.nextOffset latest.offset ring.maxOffset ring.pktSize) = g.offsetAt journal.written := by
    by_cases empty : journal.written = 0
    · rw [if_pos empty, empty]
      simp [Geometry.offsetAt, Geometry.place]
    · have last : journal.Resident g (journal.written - 1) := ⟨by simp only [Journal.low, oldest]; omega, by omega⟩
      have lastOffset : (journal.header g (journal.written - 1)).offset = g.offsetAt (journal.written - 1) :=
        holds.offsets _ last
      have step := next_offset_at g ring holds.shaped (journal.written - 1)
      rw [Nat.sub_add_cancel (by omega)] at step
      rw [if_neg empty, Option.elim_some, lastOffset, step]
  have pktId : (if journal.written = 0 then none else some (journal.header g (journal.written - 1))).elim 1
      RingBuffer.nextPktId = if journal.written = 0 then 1 else RingBuffer.nextPktId (journal.packet (journal.written - 1)) := by
    by_cases empty : journal.written = 0
    · rw [if_pos empty, if_pos empty, Option.elim_none]
    · rw [if_neg empty, if_neg empty, Option.elim_some]
      rfl
  refine ⟨ring', ?_, ⟨setup.signature, setup.version, setup.ringSize, setup.pktSize, setup.maxPackets, setup.maxOffset,
    setup.headerSize, setup.corruptFlag, setup.volatileFlag, setup.dataOffset, setup.length⟩, flag, holds'⟩
  simp only [writeRequest, RingBuffer.write, if_neg accepted.passes]
  rw [earliest, latest, offset, pktId]
  simp only [Journal.stamp] at stored
  rw [stored]
  rfl

theorem accepted_same (old new : RingParams) (same : SameSetup old new) (request : Request) (accepted : Accepted old request) :
    Accepted new request :=
  ⟨accepted.survives, by rw [same.pktSize]; exact accepted.passes, accepted.array⟩

structure WrittenAs (request : Request) (packet : RingPacket) : Prop where
  fields : packet = { request.packet with pktId := packet.pktId, offset := packet.offset, pktTime := request.clock, nextInStream := -1 }
  supplied : request.packet.pktId ≠ Constants.ringIdNone → packet.pktId = request.packet.pktId
  named : packet.pktId ≠ Constants.ringIdNone

theorem next_pkt_id_range (latest : RingPacket) : RingBuffer.nextPktId latest ≤ Constants.ringIdMaximum := by
  simp only [RingBuffer.nextPktId]
  by_cases beyond : latest.pktId + 1 > Constants.ringIdMaximum
  · rw [if_pos beyond]
    decide
  · rw [if_neg beyond]
    exact UInt64.not_lt.mp beyond

theorem automatic_id_range (g : Geometry) (journal : Journal) (clock : NsTime) (packet : RingPacket)
    (automatic : packet.pktId = Constants.ringIdNone) :
    (journal.stamp g clock packet).pktId ≤ Constants.ringIdMaximum := by
  simp only [Journal.stamp, if_pos automatic]
  by_cases empty : journal.written = 0
  · rw [if_pos empty]
    decide
  · rw [if_neg empty]
    exact next_pkt_id_range _

theorem stamp_written_as (g : Geometry) (journal : Journal) (request : Request) :
    WrittenAs request (journal.stamp g request.clock request.packet) := by
  have kept : request.packet.pktId ≠ Constants.ringIdNone →
      (journal.stamp g request.clock request.packet).pktId = request.packet.pktId := by
    intro supplied
    simp only [Journal.stamp, if_neg supplied]
  refine ⟨rfl, kept, ?_⟩
  by_cases automatic : request.packet.pktId = Constants.ringIdNone
  · intro reserved
    have range := automatic_id_range g journal request.clock request.packet automatic
    rw [reserved] at range
    exact absurd range (by decide)
  · rw [kept automatic]
    exact automatic

structure Recorded (g : Geometry) (journal : Journal) (requests : List Request) (packets : List RingPacket)
    (journal' : Journal) : Prop where
  length : packets.length = requests.length
  written : journal'.written = journal.written + requests.length
  old : ∀ i, i < journal.written → journal'.entry i = journal.entry i
  new : ∀ i request packet, requests[i]? = some request → packets[i]? = some packet → WrittenAs request packet ∧
    journal'.entry (journal.written + i) = ⟨packet, slotBody g.slot request.packetData request.dataSize⟩
  offsets : ∀ (i : Nat) packet, packets[i]? = some packet → packet.offset = g.offsetAt (journal.written + i)

theorem recorded_nil (g : Geometry) (journal : Journal) : Recorded g journal [] [] journal :=
  ⟨rfl, rfl, fun _ _ => rfl, fun i request packet isRequest => by simp at isRequest, fun i packet isPacket => by simp at isPacket⟩

theorem recorded_cons (g : Geometry) (journal journal' : Journal) (request : Request) (requests : List Request)
    (packets : List RingPacket) (rest : Recorded g (journal.record g request) requests packets journal') :
    Recorded g journal (request :: requests) (journal.stamp g request.clock request.packet :: packets) journal' := by
  have written : (journal.record g request).written = journal.written + 1 := rfl
  refine ⟨?_, ?_, fun i old => ?_, fun i one packet isRequest isPacket => ?_, fun i packet isPacket => ?_⟩
  · rw [List.length_cons, List.length_cons, rest.length]
  · rw [rest.written, written, List.length_cons]
    omega
  · rw [rest.old i (by omega), Journal.record, journal.append_entry_old _ i old]
  · cases i with
    | zero =>
        rw [List.getElem?_cons_zero] at isRequest isPacket
        obtain rfl := Option.some.inj isRequest
        obtain rfl := Option.some.inj isPacket
        refine ⟨stamp_written_as g journal request, ?_⟩
        rw [Nat.add_zero, rest.old _ (by omega), Journal.record, journal.append_entry_new]
    | succ i =>
        rw [List.getElem?_cons_succ] at isRequest isPacket
        obtain ⟨writtenAs, entry⟩ := rest.new i one packet isRequest isPacket
        refine ⟨writtenAs, ?_⟩
        rw [← entry, written]
        congr 1
        omega
  · cases i with
    | zero =>
        rw [List.getElem?_cons_zero] at isPacket
        rw [← Option.some.inj isPacket]
        rfl
    | succ i =>
        rw [List.getElem?_cons_succ] at isPacket
        have index : journal.written + (i + 1) = journal.written + 1 + i := by omega
        rw [rest.offsets i packet isPacket, written, index]

theorem write_all_spec (g : Geometry) (ring : RingParams) (journal : Journal) (holds : Holds g ring journal)
    (requests : List Request) (accepted : ∀ request ∈ requests, Accepted ring request) :
    ∃ ring' packets journal', writeAll ring requests = some (ring', packets) ∧ SameSetup ring ring' ∧
      Holds g ring' journal' ∧ Recorded g journal requests packets journal' := by
  induction requests generalizing ring journal with
  | nil => exact ⟨ring, [], journal, rfl, same_setup_refl ring, holds, recorded_nil g journal⟩
  | cons request requests ih =>
      obtain ⟨next, wrote, setup, _, nextHolds⟩ := write_spec g ring journal holds request (accepted request (by simp))
      obtain ⟨ring', packets, journal', rest, restSetup, restHolds, recorded⟩ := ih next _ nextHolds
        (fun other member => accepted_same ring next setup other (accepted other (List.mem_cons_of_mem _ member)))
      refine ⟨ring', _ :: packets, journal', ?_, same_setup_trans _ _ _ setup restSetup, restHolds,
        recorded_cons g journal journal' request requests packets recorded⟩
      simp only [writeAll, wrote, rest, Option.map_some]

end RingServer
