import Mathlib.Data.List.Dedup
import RingServer.Ring.RingTypes

set_option autoImplicit false

namespace RingServer

-- The sample rate is the bit pattern of a float.
structure MseedRecord where
  streamId : Text
  startTime : NsTime
  endTime : NsTime
  sampleRate : UInt32
  dataSize : UInt32
  rawData : List UInt8
  pktId : UInt64
deriving DecidableEq

namespace MseedArchive

-- NsTimeToDateTime: ticks of 100 ns, rounded towards zero.
def nsTimeToDateTime (nsTime : NsTime) : Int64 := nsTime.value / 100

structure Row where
  stationId : Int64
  startTime : Int64
  endTime : Int64
  sampleRate : UInt32
  dataSize : Int32
  rawData : List UInt8
  pktId : Int64
deriving DecidableEq

-- stationOf is the id that the upsert on stations returns.
def rowOf (stationOf : Text → Int64) (record : MseedRecord) : Row where
  stationId := stationOf record.streamId
  startTime := nsTimeToDateTime record.startTime
  endTime := nsTimeToDateTime record.endTime
  sampleRate := record.sampleRate
  dataSize := record.dataSize.toInt32
  rawData := record.rawData
  pktId := record.pktId.toInt64

-- What the database says to the statements of one flush. false is an exception, for
-- a row from the client or when the COPY completes.
structure Outcomes where
  resolves : Text → Bool
  ensures : NsTime → Bool
  opens : Bool
  accepts : MseedRecord → Bool
  completes : Bool

def uncachedStreams (stationCache : List Text) (records : List MseedRecord) : List Text :=
  ((records.map (·.streamId)).filter fun streamId => !stationCache.contains streamId).dedup

-- The streams resolved before the first one that the database refuses stay in the
-- cache.
def resolveStations (outcomes : Outcomes) : List Text → List Text → List Text × Bool
  | stationCache, [] => (stationCache, true)
  | stationCache, streamId :: rest =>
      if outcomes.resolves streamId then resolveStations outcomes (stationCache ++ [streamId]) rest else (stationCache, false)

-- The rows are those that the COPY has committed; none is an exception.
def flushRecords (stationOf : Text → Int64) (outcomes : Outcomes) (stationCache : List Text) (records : List MseedRecord) :
    List Text × Option (List Row) :=
  let (stationCache, resolved) := resolveStations outcomes stationCache (uncachedStreams stationCache records)
  if !resolved then (stationCache, none)
  else if !records.all fun record => outcomes.ensures record.startTime then (stationCache, none)
  else if !outcomes.opens then (stationCache, none)
  else
    let cached := records.filter fun record => stationCache.contains record.streamId
    if !cached.all outcomes.accepts || !outcomes.completes then (stationCache, none)
    else (stationCache, some (cached.map (rowOf stationOf)))

structure Accepts (outcomes : Outcomes) (stationCache : List Text) (records : List MseedRecord) : Prop where
  resolves : ∀ record ∈ records, record.streamId ∈ stationCache ∨ outcomes.resolves record.streamId = true
  ensures : ∀ record ∈ records, outcomes.ensures record.startTime = true
  opens : outcomes.opens = true
  accepts : ∀ record ∈ records, outcomes.accepts record = true
  completes : outcomes.completes = true

theorem mem_uncached (stationCache : List Text) (records : List MseedRecord) (streamId : Text) :
    streamId ∈ uncachedStreams stationCache records ↔ (∃ record ∈ records, record.streamId = streamId) ∧ streamId ∉ stationCache := by
  simp only [uncachedStreams, List.mem_dedup, List.mem_filter, List.mem_map, Bool.not_eq_true', List.contains_eq_mem,
    decide_eq_false_iff_not]

theorem resolve_stations_spec (outcomes : Outcomes) (stationCache streams : List Text) :
    (resolveStations outcomes stationCache streams).2 = streams.all outcomes.resolves ∧
      (streams.all outcomes.resolves = true → (resolveStations outcomes stationCache streams).1 = stationCache ++ streams) := by
  induction streams generalizing stationCache with
  | nil => exact ⟨rfl, fun _ => (List.append_nil _).symm⟩
  | cons streamId rest ih =>
      rw [resolveStations, List.all_cons]
      cases resolves : outcomes.resolves streamId with
      | false => exact ⟨rfl, fun impossible => absurd impossible Bool.false_ne_true⟩
      | true =>
          rw [if_pos rfl, Bool.true_and]
          refine ⟨(ih _).1, fun all => ?_⟩
          rw [(ih _).2 all, List.append_assoc, List.singleton_append]

theorem uncached_resolve (outcomes : Outcomes) (stationCache : List Text) (records : List MseedRecord) :
    (uncachedStreams stationCache records).all outcomes.resolves = true ↔
      ∀ record ∈ records, record.streamId ∈ stationCache ∨ outcomes.resolves record.streamId = true := by
  rw [List.all_eq_true]
  constructor
  · intro all record member
    by_cases cached : record.streamId ∈ stationCache
    · exact Or.inl cached
    · exact Or.inr (all _ ((mem_uncached _ _ _).mpr ⟨⟨record, member, rfl⟩, cached⟩))
  · intro each streamId uncached
    obtain ⟨⟨record, member, rfl⟩, absent⟩ := (mem_uncached _ _ _).mp uncached
    exact (each record member).resolve_left absent

theorem all_cached (stationCache : List Text) (records : List MseedRecord) :
    (records.filter fun record => (stationCache ++ uncachedStreams stationCache records).contains record.streamId) = records := by
  rw [List.filter_eq_self]
  intro record member
  rw [List.contains_iff_mem, List.mem_append]
  by_cases cached : record.streamId ∈ stationCache
  · exact Or.inl cached
  · exact Or.inr ((mem_uncached _ _ _).mpr ⟨⟨record, member, rfl⟩, cached⟩)

theorem flush_records_accepted (stationOf : Text → Int64) (outcomes : Outcomes) (stationCache : List Text) (records : List MseedRecord)
    (accepts : Accepts outcomes stationCache records) :
    (flushRecords stationOf outcomes stationCache records).2 = some (records.map (rowOf stationOf)) := by
  have spec := resolve_stations_spec outcomes stationCache (uncachedStreams stationCache records)
  have resolved := (uncached_resolve outcomes stationCache records).mpr accepts.resolves
  have ensured : (records.all fun record => outcomes.ensures record.startTime) = true := List.all_eq_true.mpr accepts.ensures
  have accepted : records.all outcomes.accepts = true := List.all_eq_true.mpr accepts.accepts
  simp only [flushRecords, spec.1, resolved, spec.2 resolved, ensured, accepts.opens, all_cached, accepted, accepts.completes,
    Bool.not_true, Bool.or_false, Bool.false_eq_true, if_false]

theorem flush_records_refused (stationOf : Text → Int64) (outcomes : Outcomes) (stationCache : List Text) (records : List MseedRecord)
    (refused : ¬ Accepts outcomes stationCache records) : (flushRecords stationOf outcomes stationCache records).2 = none := by
  have spec := resolve_stations_spec outcomes stationCache (uncachedStreams stationCache records)
  rw [flushRecords]
  dsimp only
  rw [spec.1]
  by_cases resolved : (uncachedStreams stationCache records).all outcomes.resolves = true
  · rw [resolved, spec.2 resolved, all_cached]
    by_cases ensured : (records.all fun record => outcomes.ensures record.startTime) = true
    · rw [ensured]
      by_cases opens : outcomes.opens = true
      · rw [opens]
        have last : (!records.all outcomes.accepts || !outcomes.completes) = true := by
          by_contra none
          rw [Bool.or_eq_true, Bool.not_eq_true', Bool.not_eq_true', not_or, Bool.not_eq_false, Bool.not_eq_false] at none
          exact refused ⟨(uncached_resolve _ _ _).mp resolved, List.all_eq_true.mp ensured, opens, List.all_eq_true.mp none.1, none.2⟩
        rw [last]
        rfl
      · rw [eq_false_of_ne_true opens]
        rfl
    · rw [eq_false_of_ne_true ensured]
      rfl
  · rw [eq_false_of_ne_true resolved]
    rfl

end MseedArchive

end RingServer
