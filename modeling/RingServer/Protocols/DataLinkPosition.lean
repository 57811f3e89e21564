import RingServer.Protocols.DataLinkProtocol
import RingServer.Ring.KeepAfterRev

set_option autoImplicit false

namespace RingServer.DataLink

open Library

def searchLimit (client : ClientInfo) (ring : RingParams) : Option (Option UInt64) :=
  match client.timeWinLimit with
  | .whole => some none
  | .part packets => some (some (packets ring.maxPackets))
  | .invalid => none

-- AFTERREV searches back, and AFTER does when there is a limit.
theorem position_searches_back (fuel : Nat) (ring : RingParams) (client : ClientInfo) (command subcmd valueStr : Text) (ht : Int64)
    (limit : Option UInt64) (isTime : tryParseLong valueStr = some ht) (isLimit : searchLimit client ring = some limit)
    (back : toUpperInvariant subcmd = "AFTERREV".toList ∨ (toUpperInvariant subcmd = "AFTER".toList ∧ limit ≠ none)) :
    handlePosition fuel ring client [command, subcmd, valueStr] =
      (RingBuffer.afterRev fuel ring client.reader (microseconds ht) (limit.getD 0)).map (positioned ring client) := by
  have notSet : ¬ toUpperInvariant subcmd = "SET".toList := by
    rcases back with rev | ⟨after, _⟩
    · rw [rev]
      decide
    · rw [after]
      decide
  have either : toUpperInvariant subcmd = "AFTER".toList ∨ toUpperInvariant subcmd = "AFTERREV".toList := by
    rcases back with rev | ⟨after, _⟩
    · exact Or.inr rev
    · exact Or.inl after
  have few : ¬ 1 < ([] : List Text).length := by decide
  rw [handlePosition, if_neg few, if_neg notSet, if_pos either, isTime]
  dsimp only
  rw [searchLimit] at isLimit
  cases window : client.timeWinLimit with
  | whole =>
      rw [window, Option.some.injEq] at isLimit
      subst isLimit
      rcases back with rev | ⟨_, limited⟩
      · dsimp only
        rw [if_pos rev]
        rfl
      · exact absurd rfl limited
  | part packets =>
      rw [window, Option.some.injEq] at isLimit
      subst isLimit
      rfl
  | invalid =>
      rw [window] at isLimit
      cases isLimit

-- The searches back of a ring after any writes, and POSITION as one of them.
theorem rev_searches_run (g : Geometry) (ring : RingParams) (fresh : Fresh g ring) (requests : List Request) (nonempty : requests ≠ [])
    (fits : ∀ request ∈ requests, Fits ring request ∧ Sized request) (fuel : Nat) (enough : g.count ≤ fuel) :
    ∃ next packets, writeAll ring requests = some (next, packets) ∧
      (∀ reader refTime limit, RevSearches fuel next (residentWrites next requests packets) reader refTime limit ↔
        RevFits next (residentWrites next requests packets) reader refTime limit) ∧
      ∀ client command subcmd valueStr ht limit, tryParseLong valueStr = some ht → searchLimit client next = some limit →
        toUpperInvariant subcmd = "AFTERREV".toList ∨ (toUpperInvariant subcmd = "AFTER".toList ∧ limit ≠ none) →
        handlePosition fuel next client [command, subcmd, valueStr] =
          (RingBuffer.afterRev fuel next client.reader (microseconds ht) (limit.getD 0)).map (positioned next client) := by
  obtain ⟨next, packets, journal, ran, length, stored, written, resident⟩ := fresh_run g ring fresh requests fits
  have some : journal.written ≠ 0 := by
    rw [written]
    exact fun none => nonempty (List.length_eq_zero_iff.mp none)
  refine ⟨next, packets, ran, fun reader refTime limit => ?_, fun client command subcmd valueStr ht limit isTime isLimit back =>
    position_searches_back fuel next client command subcmd valueStr ht limit isTime isLimit back⟩
  rw [resident]
  exact rev_searches_iff g next journal _ stored some fuel enough reader refTime limit

def atEarliest : ClientInfo := ⟨[], .command, false, false, .whole, fromEarliest⟩

theorem rev_searches_three_bytes :
    RevSearches 200 (writtenRing fourSlotRing threeBytes)
      (residentWrites (writtenRing fourSlotRing threeBytes) threeBytes (writtenPackets fourSlotRing threeBytes)) fromEarliest ⟨7⟩ (some 1) ∧
    RevSearches 200 (writtenRing twoSlotRing threeBytes)
      (residentWrites (writtenRing twoSlotRing threeBytes) threeBytes (writtenPackets twoSlotRing threeBytes)) fromEarliest ⟨6⟩ (some 2) := by
  obtain ⟨⟨two, twoHeld⟩, _, fourHeld⟩ := three_bytes_resident
  obtain ⟨next, packets, ran, searches, _⟩ := rev_searches_run fourSlots fourSlotRing four_slots_fresh threeBytes (List.cons_ne_nil _ _)
    (three_bytes_fit fourSlotRing rfl) 200 (by decide)
  obtain ⟨isFour, isPackets⟩ := written_of_run fourSlotRing next threeBytes packets ran
  obtain ⟨next', packets', ran', searches', _⟩ := rev_searches_run twoSlots twoSlotRing two_slots_fresh threeBytes (List.cons_ne_nil _ _)
    (three_bytes_fit twoSlotRing rfl) 200 (by decide)
  obtain ⟨isTwo, isPackets'⟩ := written_of_run twoSlotRing next' threeBytes packets' ran'
  rw [isFour, isPackets] at fourHeld
  rw [isTwo, isPackets'] at twoHeld
  rw [isTwo] at two
  rw [isFour, isPackets, isTwo, isPackets']
  refine ⟨(searches fromEarliest ⟨7⟩ (some 1)).mpr ?_, (searches' fromEarliest ⟨6⟩ (some 2)).mpr ?_⟩
  · rw [fourHeld]
    refine .inl ⟨by decide, fun write member => ?_, fun write isWrite => ?_⟩
    · obtain rfl := List.mem_singleton.mp member
      rfl
    · obtain rfl := Option.some.inj isWrite
      rfl
  · rw [twoHeld]
    refine .inr ⟨two.symm, by rw [two]; decide, fun write isWrite => ?_⟩
    obtain rfl := Option.some.inj isWrite
    rfl

-- With the default time window limit nothing is found, and with a limit above the number
-- of packets the loop reads the slot that was never written.
theorem qualifying_packet_not_found : ∃ next packet, writeAll twoSlotRing [byteRequest ⟨5⟩ ['A'] 7] = some (next, [packet]) ∧
    qualifies fromEarliest ⟨0⟩ (byteRequest ⟨5⟩ ['A'] 7, packet) = true ∧
    ¬ RevSearches 200 next (residentWrites next [byteRequest ⟨5⟩ ['A'] 7] [packet]) fromEarliest ⟨0⟩ none ∧
    handlePosition 200 next atEarliest ["POSITION".toList, "AFTERREV".toList, "0".toList] =
      some (refuse next atEarliest (errorReply "Packet not found".toList)) ∧
    (RingBuffer.afterRevTrace 200 next fromEarliest ⟨0⟩ 2).map (·.1) = some [0, 128] ∧
    ¬ RevSearches 200 next (residentWrites next [byteRequest ⟨5⟩ ['A'] 7] [packet]) fromEarliest ⟨0⟩ (some 2) := by
  have computed : (writeAll twoSlotRing [byteRequest ⟨5⟩ ['A'] 7]).map (fun result =>
      (result.1.maxPackets.toNat, result.2.map (·.dataStart.value),
        (RingBuffer.afterRevTrace 200 result.1 fromEarliest ⟨0⟩ 2).map (·.1))) = some (2, [5], some [0, 128]) := by
    decide +kernel
  have latest : (writeAll twoSlotRing [byteRequest ⟨5⟩ ['A'] 7]).map (fun result => result.1.latestOffset) = some 0 := by
    decide +kernel
  cases ran : writeAll twoSlotRing [byteRequest ⟨5⟩ ['A'] 7] with
  | none => simp [ran] at computed
  | some result =>
      obtain ⟨next, packets⟩ := result
      rw [ran, Option.map_some, Option.some.injEq, Prod.mk.injEq, Prod.mk.injEq] at computed
      rw [ran, Option.map_some, Option.some.injEq] at latest
      obtain ⟨maxPackets, starts, visits⟩ := computed
      obtain ⟨packet, rfl, isStart⟩ := List.map_eq_singleton_iff.mp starts
      have resident : residentWrites next [byteRequest ⟨5⟩ ['A'] 7] [packet] = [(byteRequest ⟨5⟩ ['A'] 7, packet)] := by
        rw [residentWrites, residents, maxPackets]
        rfl
      have late : (0 : Int64) ≤ packet.dataStart.value := by
        rw [isStart]
        decide
      have inTime : qualifies fromEarliest ⟨0⟩ (byteRequest ⟨5⟩ ['A'] 7, packet) = true := by
        have starts : startsBy ⟨0⟩ (byteRequest ⟨5⟩ ['A'] 7, packet) = true := decide_eq_true late
        rw [qualifies, starts]
        rfl
      have notEmpty : ¬ next.latestOffset < 0 := by
        rw [show next.latestOffset = 0 from latest]
        decide
      have stop (offset : Int64) : ¬ (offset ≥ 0 ∧ (0 : UInt64) < 0) := fun both => absurd both.2 (by decide)
      have nothing : RingBuffer.afterRev 200 next fromEarliest ⟨0⟩ 0 = some (Constants.ringIdNone, fromEarliest) := by
        rw [RingBuffer.afterRev, if_neg notEmpty, RingBuffer.afterRevFrom]
        simp only [if_pos (stop next.latestOffset)]
        rfl
      refine ⟨next, packet, rfl, inTime, ?_, ?_, visits, ?_⟩
      · rintro ⟨visited, result, _, isResult, places⟩
        obtain rfl := Option.some.inj (isResult.symm.trans nothing)
        rw [resident] at places
        exact places.finds _ List.mem_cons_self inTime rfl
      · rw [position_searches_back 200 next atEarliest _ _ _ 0 none rfl rfl (Or.inl rfl)]
        exact congrArg (Option.map (positioned next atEarliest)) nothing
      · rintro ⟨visited, result, isTrace, _, places⟩
        rw [Option.getD_some] at isTrace
        rw [isTrace, Option.map_some, Option.some.injEq] at visits
        have short := places.backwards.length_le
        have two : visited.length = 2 := congrArg List.length visits
        rw [two, resident] at short
        exact absurd short (by show ¬ 2 ≤ 1; decide)

end RingServer.DataLink
