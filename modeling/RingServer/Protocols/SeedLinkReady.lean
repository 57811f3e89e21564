import RingServer.Protocols.DataLinkFrames
import RingServer.Protocols.SeedLinkPlace
import RingServer.Ring.KeepRun
import RingServer.Ring.KeepSeek

set_option autoImplicit false

namespace RingServer.SeedLink

open Library

def Reaches (g : Geometry) (journal : Journal) (time : NsTime) : Prop :=
  journal.written < g.count ∧ ∃ i, i < journal.written ∧ (journal.packet i).dataStart.value ≥ time.value

def Archived (around : Surroundings) (ext : SLExtInfo) (streamIds : List Text) : Prop :=
  ∃ archive record records, around.archive = some archive ∧
    archive.queryByTime streamIds ext.startTime (dbEnd around ext) 10000 = some (record :: records)

-- DATA names no packet, or is followed by END.
def DataFits (ring : RingParams) (session : Session) (parts : List Text) : Prop :=
  (session.ext.inStationMode = true ∧ session.client.state ≠ .stream) ∨ session.ext.dbRecords ≠ [] ∨
    ¬ session.client.reader.pktOffset < 0 ∨ Sentinel (dataPktId session.ext.protoMajor ring parts[1]?)

def TimeFits (g : Geometry) (journal : Journal) (around : Surroundings) (session : Session) (parts : List Text) : Prop :=
  match parts with
  | _ :: startStr :: behind =>
      let startTime := parseSeedLinkTime startStr
      let endTime := behind.head?.elim NsTime.unset parseSeedLinkTime
      startTime = NsTime.error ∨ endTime = NsTime.error ∨ session.ext.inStationMode = true ∨ session.ext.dbRecords ≠ [] ∨
        Startable session.client.reader ∨ Reaches g journal startTime ∨
        Archived around (widenWindow startTime endTime session.ext) [['%']]
  | _ => True

-- DATA has left a packet ID that END can look for, or none at all.
def EndFits (g : Geometry) (journal : Journal) (around : Surroundings) (session : Session) : Prop :=
  let ext := session.ext
  let pktId := session.client.reader.pktId
  session.client.state = .stream ∨ ext.dbRecords ≠ [] ∨ Startable session.client.reader ∨ pktId = Constants.ringIdNone ∨
    (0 < pktId ∧ pktId < Constants.ringIdMaximum) ∨ (HasStart ext ∧ Reaches g journal ext.startTime) ∨
    (HasStart ext ∧ ¬ ext.dbPreFetchDone ∧ Archived around ext (archivePatterns ext.selectedStations))

def CommandFits (g : Geometry) (journal : Journal) (around : Surroundings) (ring : RingParams) (session : Session)
    (line : List UInt8) : Prop :=
  match splitWords (commandText line) with
  | [] => True
  | word :: arguments =>
      let command := toUpperInvariant word
      if command = "DATA".toList ∨ command = "FETCH".toList then DataFits ring session (word :: arguments)
      else if command = "TIME".toList then TimeFits g journal around session (word :: arguments)
      else if command = "END".toList ∨ command = "ENDFETCH".toList then EndFits g journal around session
      else True

def EndsInBytes (records : List MseedQueryResult) : Prop := ∀ record, records.getLast? = some record → record.rawData ≠ some []

-- No record without bytes is the last one of an answer of the archive.
def Sendable (around : Surroundings) (session : Session) : Prop :=
  EndsInBytes session.ext.dbRecords ∧ ∀ archive, around.archive = some archive → ∀ ids start stop cursor id limit records,
    archive.queryByTimePagination ids start stop cursor id limit = some records → EndsInBytes records

def StreamFits (around : Surroundings) (session : Session) : Prop :=
  session.ext.dbRecords = [] ∨ Startable session.client.reader ∨ Sendable around session

structure Steady (g : Geometry) (journal : Journal) (session : Session) : Prop where
  placed : Placed g journal session.client.reader
  ready : session.client.state = .stream → session.ext.dbRecords = [] → Startable session.client.reader

theorem placed_offset (g : Geometry) (journal : Journal) (old new : RingReader) (same : new.pktOffset = old.pktOffset)
    (placed : Placed g journal old) : Placed g journal new := by
  rw [Placed, same]
  exact placed

theorem steady_same_place (g : Geometry) (journal : Journal) (old new : Session) (same : SamePlace old new)
    (steady : Steady g journal old) : Steady g journal new := by
  refine ⟨placed_offset g journal _ _ same.pktOffset steady.placed, fun streams drained => ?_⟩
  rw [Startable, same.pktOffset, same.pktId]
  exact steady.ready (same.state ▸ streams) (same.dbRecords ▸ drained)

theorem sought_placed (g : Geometry) (journal : Journal) (reader : RingReader) (wanted : RingPacket → Prop)
    (result : UInt64 × RingReader) (sought : Sought g journal reader wanted result) (placed : Placed g journal reader) :
    Placed g journal result.2 ∧ (Startable reader → Startable result.2) := by
  cases sought with
  | missing code isCode => exact ⟨placed, id⟩
  | found i header resident isHeader isWanted => exact ⟨Or.inr ⟨i, resident.2, rfl⟩, fun _ => Or.inl (g.offset_at_not_neg i)⟩

section

variable (g : Geometry) (journal : Journal) (around : Surroundings) (fuel : Nat) (ring : RingParams) (session : Session)
  (keeps : Keeps g ring journal) (steady : Steady g journal session)

include steady

theorem handle_data_steady (parts : List Text) (fits : DataFits ring session parts) :
    Steady g journal (handleData ring session parts).session := by
  have placed := steady.placed
  rw [handleData]
  dsimp only
  split
  · refine ⟨placed, fun streams drained => ?_⟩
    rcases fits with ⟨_, waiting⟩ | pending | offset | sentinel
    · exact absurd streams waiting
    · exact absurd drained pending
    · exact Or.inl offset
    · exact Or.inr sentinel
  · rename_i mode
    refine ⟨placed, fun _ drained => ?_⟩
    rcases fits with ⟨isStation, _⟩ | pending | offset | sentinel
    · exact absurd isStation mode
    · exact absurd drained pending
    · exact Or.inl offset
    · exact Or.inr sentinel

end

theorem pre_fetch_pending (around : Surroundings) (ext : SLExtInfo) (streamIds : List Text)
    (pending : ext.dbRecords ≠ [] ∨ Archived around ext streamIds) : (preFetch around ext streamIds).dbRecords ≠ [] := by
  rw [preFetch.eq_def]
  cases isArchive : around.archive with
  | none =>
      cases pending with
      | inl some => exact some
      | inr archived =>
          obtain ⟨archive, record, records, same, _⟩ := archived
          rw [isArchive] at same
          cases same
  | some archive =>
      dsimp only
      split
      · exact List.cons_ne_nil _ _
      · rename_i other
        cases pending with
        | inl some => exact some
        | inr archived =>
            obtain ⟨same, record, records, isSame, answer⟩ := archived
            rw [isArchive] at isSame
            cases isSame
            exact absurd answer (other record records)

section

variable (g : Geometry) (journal : Journal) (around : Surroundings) (fuel : Nat) (ring : RingParams) (session : Session)
  (keeps : Keeps g ring journal) (steady : Steady g journal session)

include keeps steady

theorem handle_time_steady (parts : List Text) (fits : TimeFits g journal around session parts) (outcome : Outcome)
    (ran : handleTime around fuel ring session parts = some outcome) : Steady g journal outcome.session := by
  rw [handleTime.eq_def] at ran
  split at ran
  · rename_i word startStr behind
    dsimp only [TimeFits] at fits ran
    by_cases bad : parseSeedLinkTime startStr = NsTime.error ∨ behind.head?.elim NsTime.unset parseSeedLinkTime = NsTime.error
    · rw [if_pos bad] at ran
      cases ran
      exact steady
    rw [if_neg bad] at ran
    by_cases mode : session.ext.inStationMode = true
    · rw [if_pos mode] at ran
      cases ran
      exact ⟨steady.placed, steady.ready⟩
    rw [if_neg mode, Option.bind_eq_bind, Option.bind_eq_some_iff] at ran
    obtain ⟨moved, ranAfter, ran⟩ := ran
    cases ran
    have sought := after_kept g ring journal keeps fuel session.client.reader _ moved ranAfter
    obtain ⟨placed, kept⟩ := sought_placed g journal _ _ moved sought steady.placed
    refine ⟨placed, fun _ drained => ?_⟩
    have pending := pre_fetch_pending around (widenWindow (parseSeedLinkTime startStr)
      (behind.head?.elim NsTime.unset parseSeedLinkTime) session.ext) [['%']]
    rcases fits with startBad | endBad | isStation | queued | startable | reaches | archived
    · exact absurd (Or.inl startBad) bad
    · exact absurd (Or.inr endBad) bad
    · exact absurd isStation mode
    · exact absurd drained (pending (Or.inl queued))
    · exact kept startable
    · obtain ⟨filling, i, below, wanted⟩ := reaches
      obtain ⟨k, _, place⟩ := after_finds g ring journal keeps _ session.client.reader filling i below wanted fuel moved ranAfter
      refine Or.inl ?_
      show ¬ moved.2.pktOffset < 0
      rw [place]
      exact g.offset_at_not_neg k
    · exact absurd drained (pending (Or.inr archived))
  · cases ran
    exact steady

end

theorem end_archive_pending (around : Surroundings) (pktId : UInt64) (ext : SLExtInfo)
    (pending : ext.dbRecords ≠ [] ∨
      (HasStart ext ∧ ¬ ext.dbPreFetchDone ∧ Archived around ext (archivePatterns ext.selectedStations))) :
    (endArchive around pktId ext).dbRecords ≠ [] := by
  rw [endArchive]
  dsimp only
  by_cases auto : ext.startTime = NsTime.unset ∧ pktId = Constants.ringIdEarliest
  · rw [if_pos auto]
    have queued : ext.dbRecords ≠ [] := pending.resolve_right fun archived => archived.1.1 auto.1
    split
    · exact pre_fetch_pending around _ _ (Or.inl queued)
    · exact queued
  · rw [if_neg auto]
    by_cases first : HasStart ext ∧ ¬ ext.dbPreFetchDone
    · rw [if_pos first]
      exact pre_fetch_pending around ext _ (pending.imp_right fun archived => archived.2.2)
    · rw [if_neg first]
      exact pending.resolve_right fun archived => first ⟨archived.1, archived.2.1⟩

theorem startable_next_for_none (reader : RingReader) (fits : Startable reader ∨ reader.pktId = Constants.ringIdNone) :
    Startable (nextForNone reader) := by
  rw [nextForNone]
  by_cases unnamed : reader.pktId = Constants.ringIdNone
  · rw [if_pos unnamed]
    exact Or.inr (Or.inl rfl)
  · rw [if_neg unnamed]
    exact fits.resolve_right unnamed

theorem next_for_none_offset (reader : RingReader) : (nextForNone reader).pktOffset = reader.pktOffset := by
  rw [nextForNone]
  split <;> rfl

theorem match_stations_place (around : Surroundings) (ext : SLExtInfo) (reader : RingReader) :
    (matchStations around ext reader).pktOffset = reader.pktOffset ∧ (matchStations around ext reader).pktId = reader.pktId := by
  rw [matchStations]
  split <;> exact ⟨rfl, rfl⟩

def nextBatch (around : Surroundings) (ext : SLExtInfo) : Option (List MseedQueryResult) := do
  let archive ← around.archive
  if ext.dbQueryEndTime ≠ NsTime.unset ∧ ext.lastDbStartTime.value < ext.dbQueryEndTime.value ∧ ext.lastDbRecordId > 0 ∧
      ¬ ext.dbQueryStreamIds.isEmpty then
    archive.queryByTimePagination ext.dbQueryStreamIds ext.lastDbStartTime ext.dbQueryEndTime ext.lastDbStartTime
      ext.lastDbRecordId 10000
  else none

def repositioned (moved : UInt64 × RingReader) : RingReader :=
  if moved.1 ≠ Constants.ringIdNone ∧ moved.1 ≠ Constants.ringIdError then moved.2
  else { moved.2 with pktOffset := -1, pktId := Constants.ringIdNext }

theorem db_queue_cases (around : Surroundings) (fuel : Nat) (ring : RingParams) (session next : Session)
    (ran : handleDbQueueExhausted around fuel ring session = some next) :
    (∃ record records, nextBatch around session.ext = some (record :: records) ∧
      next = session.withExt { session.ext with dbRecords := record :: records }) ∨
    ∃ moved, RingBuffer.after fuel ring session.client.reader session.ext.lastDbEndTime 0 = some moved ∧
      next = session.withReader (repositioned moved) := by
  rw [handleDbQueueExhausted.eq_def] at ran
  dsimp only at ran
  split at ran
  · rename_i record records answer
    exact Or.inl ⟨record, records, answer, (Option.some.inj ran).symm⟩
  · rw [Option.bind_eq_bind, Option.bind_eq_some_iff] at ran
    obtain ⟨moved, ranAfter, ran⟩ := ran
    refine Or.inr ⟨moved, ranAfter, ?_⟩
    rw [repositioned]
    split at ran
    · rename_i found
      rw [if_pos found]
      exact (Option.some.inj ran).symm
    · rename_i missing
      rw [if_neg missing]
      exact (Option.some.inj ran).symm

inductive SendsOne (around : Surroundings) (fuel : Nat) (ring : RingParams) (rounds : Nat) (session : Session) (total : Nat)
    (sent : List (List UInt8)) (outcome : Outcome) : Prop
  | drained (empty : session.ext.dbRecords = []) (isOutcome : outcome = ⟨totalSent total, session, sent⟩)
  | stopped (record : MseedQueryResult) (records : List MseedQueryResult) (queue : session.ext.dbRecords = record :: records)
      (empty : record.rawData = some []) (isOutcome : outcome = ⟨0, dequeued session record records, sent⟩)
  | sent (record : MseedQueryResult) (records : List MseedQueryResult) (frame : List UInt8) (next : Session)
      (queue : session.ext.dbRecords = record :: records) (bytes : record.rawData.getD [] ≠ [])
      (moved : (if records.isEmpty then handleDbQueueExhausted around fuel ring (dequeued session record records)
        else some (dequeued session record records)) = some next)
      (rest : sendRecords around fuel ring rounds next (total + frame.length) (sent ++ [frame]) = some outcome)

theorem send_records_cases (around : Surroundings) (fuel : Nat) (ring : RingParams) (rounds : Nat) (session : Session) (total : Nat)
    (sent : List (List UInt8)) (outcome : Outcome) (ran : sendRecords around fuel ring (rounds + 1) session total sent = some outcome) :
    SendsOne around fuel ring rounds session total sent outcome := by
  rw [sendRecords] at ran
  cases queue : session.ext.dbRecords with
  | nil =>
      rw [queue] at ran
      exact .drained queue (Option.some.inj ran).symm
  | cons record records =>
      rw [queue] at ran
      dsimp only at ran
      cases bytes : record.rawData with
      | none =>
          rw [bytes] at ran
          exact absurd ran.symm (Option.some_ne_none outcome)
      | some rawData =>
          rw [bytes] at ran
          cases rawData with
          | nil => exact .stopped record records queue bytes (Option.some.inj ran).symm
          | cons byte rawData =>
              have nonempty : record.rawData.getD [] ≠ [] := bytes ▸ List.cons_ne_nil byte rawData
              dsimp only at ran
              by_cases last : records.isEmpty = true
              · rw [if_pos last, Option.bind_eq_bind, Option.bind_eq_some_iff] at ran
                obtain ⟨next, moved, rest⟩ := ran
                exact .sent record records _ next queue nonempty ((if_pos last).trans moved) rest
              · rw [if_neg last] at ran
                exact .sent record records _ _ queue nonempty (if_neg last) ran

section

variable (g : Geometry) (journal : Journal) (fuel : Nat) (ring : RingParams) (keeps : Keeps g ring journal)

include keeps

theorem position_by_id_startable (reader moved : RingReader) (positioned : Bool)
    (ran : positionById fuel ring reader = some (moved, positioned)) (placed : Placed g journal reader) :
    Placed g journal moved ∧ ((0 < reader.pktId ∧ reader.pktId < Constants.ringIdMaximum) → Startable moved) ∧
      (¬ (0 < reader.pktId ∧ reader.pktId < Constants.ringIdMaximum) → moved = reader ∧ positioned = false) := by
  rw [positionById] at ran
  by_cases plain : 0 < reader.pktId ∧ reader.pktId < Constants.ringIdMaximum
  · rw [if_pos plain, Option.bind_eq_bind, Option.bind_eq_some_iff] at ran
    obtain ⟨result, ranPosition, ran⟩ := ran
    have sought := position_kept g ring journal keeps fuel reader reader.pktId (UInt64.le_of_lt plain.2) result ranPosition
    obtain ⟨isPlaced, _⟩ := sought_placed g journal _ _ result sought placed
    dsimp only at ran
    by_cases missing : result.1 = Constants.ringIdNone ∨ result.1 = Constants.ringIdError
    · rw [if_pos missing, Option.some.injEq, Prod.mk.injEq] at ran
      rw [← ran.1]
      exact ⟨placed_offset g journal result.2 _ rfl isPlaced, fun _ => Or.inr (Or.inl rfl), fun odd => absurd plain odd⟩
    · rw [if_neg missing, Option.some.injEq, Prod.mk.injEq] at ran
      rw [← ran.1]
      refine ⟨isPlaced, fun _ => ?_, fun odd => absurd plain odd⟩
      cases sought with
      | missing code isCode => exact absurd isCode missing
      | found i header resident isHeader isWanted => exact Or.inl (g.offset_at_not_neg i)
  · rw [if_neg plain, Option.some.injEq, Prod.mk.injEq] at ran
    rw [← ran.1]
    exact ⟨placed, fun yes => absurd yes plain, fun _ => ⟨rfl, ran.2.symm⟩⟩

theorem position_by_time_startable (ext : SLExtInfo) (reader moved : RingReader) (positioned : Bool)
    (ran : positionByTime fuel ring ext reader positioned = some moved) (placed : Placed g journal reader) :
    Placed g journal moved ∧ (Startable reader → Startable moved) ∧
      (reader.pktId = Constants.ringIdNone → Startable moved ∨ moved.pktId = Constants.ringIdNone) ∧
      (positioned = false → HasStart ext → Reaches g journal ext.startTime → Startable moved) := by
  rw [positionByTime] at ran
  by_cases late : ¬ positioned = true ∧ HasStart ext
  · rw [if_pos late] at ran
    obtain ⟨result, isResult, rfl⟩ := Option.map_eq_some_iff.mp ran
    have sought := after_kept g ring journal keeps fuel reader _ result isResult
    obtain ⟨isPlaced, kept⟩ := sought_placed g journal _ _ result sought placed
    refine ⟨isPlaced, kept, fun unnamed => ?_, fun _ _ reaches => ?_⟩
    · cases sought with
      | missing code isCode => exact Or.inr unnamed
      | found i header resident isHeader isWanted => exact Or.inl (Or.inl (g.offset_at_not_neg i))
    · obtain ⟨filling, i, below, wanted⟩ := reaches
      obtain ⟨k, _, place⟩ := after_finds g ring journal keeps _ reader filling i below wanted fuel result isResult
      refine Or.inl ?_
      rw [place]
      exact g.offset_at_not_neg k
  · rw [if_neg late] at ran
    cases ran
    refine ⟨placed, id, Or.inr, fun notPositioned hasStart _ => absurd ⟨?_, hasStart⟩ late⟩
    rw [notPositioned]
    decide

theorem handle_end_steady (around : Surroundings) (session : Session) (steady : Steady g journal session)
    (fits : EndFits g journal around session) (outcome : Outcome) (ran : handleEnd around fuel ring session = some outcome) :
    Steady g journal outcome.session := by
  rw [handleEnd] at ran
  by_cases streams : session.client.state = .stream
  · rw [if_pos streams] at ran
    cases ran
    exact steady
  rw [if_neg streams] at ran
  simp only [Option.bind_eq_bind, Option.bind_eq_some_iff, Option.some.injEq] at ran
  obtain ⟨⟨found, positioned⟩, ranId, moved, ranTime, rfl⟩ := ran
  obtain ⟨isPlaced, plain, other⟩ :=
    position_by_id_startable g journal fuel ring keeps session.client.reader found positioned ranId steady.placed
  obtain ⟨placed, kept, unnamed, late⟩ :=
    position_by_time_startable g journal fuel ring keeps session.ext found moved positioned ranTime isPlaced
  obtain ⟨sameOffset, sameId⟩ := match_stations_place around session.ext moved
  refine ⟨placed_offset g journal _ _ ((next_for_none_offset _).trans sameOffset) placed,
    fun _ drained => startable_next_for_none _ ?_⟩
  · rw [Startable, sameOffset, sameId]
    by_cases asked : 0 < session.client.reader.pktId ∧ session.client.reader.pktId < Constants.ringIdMaximum
    · exact Or.inl (kept (plain asked))
    obtain ⟨same, notPositioned⟩ := other asked
    rw [same] at kept unnamed
    have pending := end_archive_pending around (matchStations around session.ext moved).pktId session.ext
    rcases fits with already | queued | startable | none | named | ⟨hasStart, reaches⟩ | archived
    · exact absurd already streams
    · exact absurd drained (pending (Or.inl queued))
    · exact Or.inl (kept startable)
    · exact unnamed none
    · exact absurd named asked
    · exact Or.inl (late notPositioned hasStart reaches)
    · exact absurd drained (pending (Or.inr archived))

omit keeps in
theorem steady_start (session : Session) (steady : Steady g journal session) (pktId : UInt64) (sentinel : Sentinel pktId) :
    Steady g journal (session.withReader { session.client.reader with pktId := pktId }).streaming :=
  ⟨placed_offset g journal session.client.reader _ rfl steady.placed, fun _ _ => Or.inr sentinel⟩

omit keeps in
theorem steady_unplaced (session : Session) (reader : RingReader) (unset : reader.pktOffset < 0) (sentinel : Sentinel reader.pktId) :
    Steady g journal (session.withReader reader) :=
  ⟨Or.inl unset, fun _ _ => Or.inr sentinel⟩

theorem handle_command_steady (around : Surroundings) (session : Session) (steady : Steady g journal session) (line : List UInt8)
    (fits : CommandFits g journal around ring session line) (outcome : Outcome)
    (ran : handleCommand around fuel ring session line = some outcome) : Steady g journal outcome.session := by
  rw [handleCommand.eq_def] at ran
  rw [CommandFits.eq_def] at fits
  cases words : splitWords (commandText line) with
  | nil =>
      rw [words] at ran
      cases ran
      exact steady
  | cons word arguments =>
      rw [words] at ran fits
      dsimp only at ran fits
      by_cases data : toUpperInvariant word = "DATA".toList ∨ toUpperInvariant word = "FETCH".toList
      · rw [if_pos data] at ran fits
        cases ran
        exact handle_data_steady g journal ring session steady _ fits
      rw [if_neg data] at ran fits
      by_cases time : toUpperInvariant word = "TIME".toList
      · rw [if_pos time] at ran fits
        exact handle_time_steady g journal around fuel ring session keeps steady _ fits outcome ran
      rw [if_neg time] at ran fits
      by_cases stream : toUpperInvariant word = "STREAM".toList
      · rw [if_pos stream] at ran
        cases ran
        exact steady_start g journal session steady Constants.ringIdEarliest (Or.inr (Or.inr rfl))
      rw [if_neg stream] at ran
      by_cases done : toUpperInvariant word = "END".toList ∨ toUpperInvariant word = "ENDFETCH".toList
      · rw [if_pos done] at ran fits
        exact handle_end_steady g journal fuel ring keeps around session steady fits outcome ran
      · rw [if_neg done] at ran
        exact steady_same_place g journal session outcome.session
          (handle_request_place around ring session _ _ _ outcome ran) steady

theorem db_queue_exhausted_steady (around : Surroundings) (session : Session) (placed : Placed g journal session.client.reader)
    (fits : Startable session.client.reader ∨ Sendable around session) (next : Session)
    (ran : handleDbQueueExhausted around fuel ring session = some next) :
    Steady g journal next ∧ StreamFits around next ∧ next.client.state = session.client.state := by
  rcases db_queue_cases around fuel ring session next ran with ⟨record, records, answer, rfl⟩ | ⟨result, ranAfter, rfl⟩
  · rw [nextBatch, Option.bind_eq_bind, Option.bind_eq_some_iff] at answer
    obtain ⟨archive, isArchive, query⟩ := answer
    refine ⟨⟨placed, fun _ drained => absurd drained (List.cons_ne_nil record records)⟩, Or.inr ?_, rfl⟩
    split at query
    · exact fits.imp_right fun sendable => ⟨sendable.2 archive isArchive _ _ _ _ _ _ _ query, sendable.2⟩
    · cases query
  · have sought := after_kept g ring journal keeps fuel session.client.reader _ result ranAfter
    by_cases found : result.1 ≠ Constants.ringIdNone ∧ result.1 ≠ Constants.ringIdError
    · rw [repositioned, if_pos found]
      have startable : Startable result.2 := by
        cases sought with
        | missing code isCode => exact absurd isCode (not_or.mpr found)
        | found i header resident isHeader isWanted => exact Or.inl (g.offset_at_not_neg i)
      exact ⟨⟨(sought_placed g journal _ _ result sought placed).1, fun _ _ => startable⟩, Or.inr (Or.inl startable), rfl⟩
    · rw [repositioned, if_neg found]
      have negative : (-1 : Int64) < 0 := by decide
      have sentinel : Sentinel Constants.ringIdNext := Or.inl rfl
      generalize Constants.ringIdNext = pktId at sentinel ⊢
      exact ⟨steady_unplaced g journal session _ negative sentinel, Or.inr (Or.inl (Or.inr sentinel)), rfl⟩

omit keeps in
theorem total_sent_not_neg (total : Nat) : ¬ totalSent total < 0 := by
  unfold totalSent
  generalize Int.bmod total (2 ^ 32) = sum
  omega

theorem send_records_steady (around : Surroundings) (rounds : Nat) (session : Session) (total : Nat) (sent : List (List UInt8))
    (steady : Steady g journal session) (fits : StreamFits around session) (streams : session.client.state = .stream)
    (outcome : Outcome) (ran : sendRecords around fuel ring rounds session total sent = some outcome) :
    Steady g journal outcome.session ∧ ¬ outcome.code < 0 := by
  induction rounds generalizing session total sent with
  | zero =>
      rw [← Option.some.inj ran]
      exact ⟨steady, total_sent_not_neg total⟩
  | succ rounds ih =>
      have ready (record : MseedQueryResult) (records : List MseedQueryResult) (queue : session.ext.dbRecords = record :: records) :
          Startable session.client.reader ∨ Sendable around session :=
        fits.resolve_left fun drained => List.cons_ne_nil record records (queue.symm.trans drained)
      cases send_records_cases around fuel ring rounds session total sent outcome ran with
      | drained empty isOutcome =>
          rw [isOutcome]
          exact ⟨steady, total_sent_not_neg total⟩
      | stopped record records queue empty isOutcome =>
          rw [isOutcome]
          refine ⟨⟨steady.placed, fun _ drained => ?_⟩, lt_irrefl (0 : Int)⟩
          have none : records = [] := drained
          refine (ready record records queue).resolve_right fun sendable => sendable.1 record ?_ empty
          rw [queue, none]
          rfl
      | sent record records frame next queue bytes moved rest =>
          have sendable (last : records.getLast? = none ∨ records.getLast? = session.ext.dbRecords.getLast?) :
              Startable (dequeued session record records).client.reader ∨ Sendable around (dequeued session record records) := by
            refine (ready record records queue).imp_right fun sendable => ⟨fun other isLast => sendable.1 other ?_, sendable.2⟩
            cases last with
            | inl nothing => exact absurd (nothing.symm.trans isLast) (Option.some_ne_none other).symm
            | inr same => exact same.symm.trans isLast
          cases records with
          | nil =>
              rw [List.isEmpty_nil, if_pos rfl] at moved
              obtain ⟨steady', fits', state⟩ := db_queue_exhausted_steady g journal fuel ring keeps around (dequeued session record [])
                steady.placed (sendable (Or.inl rfl)) next moved
              exact ih next _ _ steady' fits' (state.trans streams) rest
          | cons second others =>
              rw [List.isEmpty_cons, if_neg Bool.false_ne_true] at moved
              cases moved
              refine ih (dequeued session record (second :: others)) _ _
                ⟨steady.placed, fun _ drained => absurd drained (List.cons_ne_nil second others)⟩ (Or.inr (sendable (Or.inr ?_))) streams
                  rest
              rw [queue, List.getLast?_cons_cons]

theorem read_next_startable (packet : RingPacket) (data : Option (List UInt8)) (reader : RingReader) (placed : Placed g journal reader)
    (startable : Startable reader) (reading : RingBuffer.Reading) (ran : RingBuffer.readNext fuel ring reader packet data = some reading) :
    Placed g journal reading.reader ∧ Startable reading.reader ∧ (reading.code = Constants.ringIdError →
      ∃ i, journal.Resident g i ∧ (journal.packet i).pktId = Constants.ringIdError) := by
  obtain ⟨_, moved, error⟩ := read_next_kept g ring journal keeps packet data fuel reader reading placed ran
  refine ⟨moved, ?_, fun isError => (error isError).resolve_left ?_⟩
  · by_cases unset : reading.reader.pktOffset < 0
    · cases read_next_unplaced ring fuel reader packet data reading ran unset with
      | inl same =>
          rw [same]
          exact startable
      | inr next =>
          refine Or.inr (Or.inr (Or.inr ?_))
          rw [next.2]
    · exact Or.inl unset
  · rintro ⟨unset, notNext, notLatest, notEarliest⟩
    rcases startable with offset | next | latest | earliest
    · exact offset unset
    · exact notNext next
    · exact notLatest latest
    · exact notEarliest earliest

theorem stream_packet_steady (around : Surroundings) (session : Session) (steady : Steady g journal session)
    (streams : session.client.state = .stream) (drained : session.ext.dbRecords = []) (outcome : Outcome)
    (ran : streamPacket around fuel ring session = some outcome) :
    Steady g journal outcome.session ∧
      (outcome.code < 0 → ∃ i, journal.Resident g i ∧ (journal.packet i).pktId = Constants.ringIdError) := by
  simp only [streamPacket, Option.bind_eq_bind, Option.bind_eq_some_iff] at ran
  obtain ⟨⟨packet, packetData⟩, _, reading, isReading, ran⟩ := ran
  obtain ⟨placed, startable, error⟩ := read_next_startable g journal fuel ring keeps packet _ session.client.reader steady.placed
    (steady.ready streams drained) reading isReading
  have next (ext : SLExtInfo) : Steady g journal ((session.withReader reading.reader).withExt ext) := ⟨placed, fun _ _ => startable⟩
  by_cases isError : reading.code = Constants.ringIdError
  · rw [if_pos isError] at ran
    cases ran
    exact ⟨next _, fun _ => error isError⟩
  rw [if_neg isError] at ran
  by_cases isNone : reading.code = Constants.ringIdNone
  · rw [if_pos isNone] at ran
    cases ran
    exact ⟨next _, fun negative => absurd negative (lt_irrefl (0 : Int))⟩
  rw [if_neg isNone] at ran
  by_cases empty : reading.packet.dataSize = 0
  · rw [if_pos empty] at ran
    cases ran
    exact ⟨next _, fun negative => absurd negative (lt_irrefl (0 : Int))⟩
  rw [if_neg empty] at ran
  dsimp only at ran
  split at ran
  · cases ran
    exact ⟨next _, fun negative => absurd negative (Int.not_lt.mpr (Int.natCast_nonneg _))⟩
  · cases ran
    exact ⟨next _, fun negative => absurd negative (Int.not_lt.mpr (Int.natCast_nonneg _))⟩

theorem stream_packets_steady (around : Surroundings) (session : Session) (steady : Steady g journal session)
    (fits : StreamFits around session) (outcome : Outcome) (ran : streamPackets around fuel ring session = some outcome) :
    Steady g journal outcome.session ∧
      (outcome.code < 0 → ∃ i, journal.Resident g i ∧ (journal.packet i).pktId = Constants.ringIdError) := by
  rw [streamPackets] at ran
  by_cases streams : session.client.state = .stream
  · rw [if_pos streams] at ran
    by_cases drained : session.ext.dbRecords = []
    · rw [drained, List.isEmpty_nil, if_pos rfl] at ran
      exact stream_packet_steady g journal fuel ring keeps around session steady streams drained outcome ran
    · rw [if_neg (fun empty => drained (List.isEmpty_iff.mp empty))] at ran
      obtain ⟨next, code⟩ := send_records_steady g journal fuel ring keeps around dbBurstLimit session 0 [] steady fits streams outcome ran
      exact ⟨next, fun negative => absurd negative code⟩
  · rw [if_neg streams] at ran
    cases ran
    exact ⟨steady, fun negative => absurd negative (lt_irrefl (0 : Int))⟩

end

-- A session beside other clients that write to the ring. Each command and each step
-- of streaming meets its condition.
inductive Visited (g : Geometry) : Journal → RingParams → Session → Prop
  | opened (journal : Journal) (ring : RingParams) (keeps : Keeps g ring journal) (client : ClientInfo)
      (waiting : client.state = .command) (unset : client.reader.pktOffset = -1) : Visited g journal ring ⟨client, newExtInfo⟩
  | written (journal : Journal) (ring : RingParams) (session : Session) (visited : Visited g journal ring session) (request : Request)
      (fits : Fits ring request) (next : RingParams) (packet : RingPacket) (wrote : writeRequest ring request = some (0, next, packet)) :
      Visited g (journal.record g request) next session
  | commanded (journal : Journal) (ring : RingParams) (session : Session) (visited : Visited g journal ring session)
      (around : Surroundings) (fuel : Nat) (line : List UInt8) (fits : CommandFits g journal around ring session line)
      (outcome : Outcome) (ran : handleCommand around fuel ring session line = some outcome) : Visited g journal ring outcome.session
  | streamed (journal : Journal) (ring : RingParams) (session : Session) (visited : Visited g journal ring session)
      (around : Surroundings) (fuel : Nat) (fits : StreamFits around session) (outcome : Outcome)
      (ran : streamPackets around fuel ring session = some outcome) : Visited g journal ring outcome.session

theorem steady_written (g : Geometry) (journal : Journal) (session : Session) (steady : Steady g journal session) (request : Request) :
    Steady g (journal.record g request) session :=
  ⟨steady.placed.imp_right fun ⟨i, below, place⟩ => ⟨i, Nat.lt_succ_of_lt below, place⟩, steady.ready⟩

theorem visited_steady (g : Geometry) (journal : Journal) (ring : RingParams) (session : Session)
    (visited : Visited g journal ring session) : Keeps g ring journal ∧ Steady g journal session := by
  induction visited with
  | opened journal ring keeps client waiting unset =>
      refine ⟨keeps, Or.inl ?_, fun streams => ?_⟩
      · show client.reader.pktOffset < 0
        rw [unset]
        decide
      · exact absurd (waiting.symm.trans streams) (fun impossible => nomatch impossible)
  | written journal ring session visited request fits next packet wrote ih =>
      obtain ⟨ring', stored, _, kept⟩ := write_keeps g ring journal ih.1 request fits
      have same : ring' = next := congrArg (·.2.1) (Option.some.inj (stored.symm.trans wrote))
      exact ⟨same ▸ kept, steady_written g journal session ih.2 request⟩
  | commanded journal ring session visited around fuel line fits outcome ran ih =>
      exact ⟨ih.1, handle_command_steady g journal fuel ring ih.1 around session ih.2 line fits outcome ran⟩
  | streamed journal ring session visited around fuel fits outcome ran ih =>
      exact ⟨ih.1, (stream_packets_steady g journal fuel ring ih.1 around session ih.2 fits outcome ran).1⟩

-- ReadNext has a start whenever it is asked; what it then reports as an error is the
-- ID of a packet.
theorem streams_from_start (g : Geometry) (journal : Journal) (ring : RingParams) (session : Session)
    (visited : Visited g journal ring session) (streams : session.client.state = .stream) (drained : session.ext.dbRecords = []) :
    ((∃ i, i < journal.written ∧ session.client.reader.pktOffset = g.offsetAt i) ∨ Sentinel session.client.reader.pktId) ∧
      (∀ fuel packet data reading, RingBuffer.readNext fuel ring session.client.reader packet data = some reading →
        reading.code = Constants.ringIdError → ∃ i, journal.Resident g i ∧ (journal.packet i).pktId = Constants.ringIdError) ∧
      ∀ around fuel outcome, streamPackets around fuel ring session = some outcome → outcome.code < 0 →
        ∃ i, journal.Resident g i ∧ (journal.packet i).pktId = Constants.ringIdError := by
  obtain ⟨keeps, steady⟩ := visited_steady g journal ring session visited
  have startable := steady.ready streams drained
  refine ⟨?_, fun fuel packet data reading ran => ?_, fun around fuel outcome ran => ?_⟩
  · cases startable with
    | inl offset => exact Or.inl (steady.placed.resolve_left offset)
    | inr sentinel => exact Or.inr sentinel
  · exact (read_next_startable g journal fuel ring keeps packet data _ steady.placed startable reading ran).2.2
  · exact (stream_packets_steady g journal fuel ring keeps around session steady (Or.inl drained) outcome ran).2

-- No archive, and a clock that stands still.
def quiet : Surroundings where
  engine := DataLink.plainEngine
  startsWithFdsn := fun streamId => "FDSN:".toList.isPrefixOf streamId
  archive := none
  now := ⟨5⟩
  weekAgo := ⟨0⟩
  utcNow := (1970, 1, 0, 0, 0)
  serverId := []
  newLine := ['\n']

def fresh : Session := ⟨DataLink.newClient, newExtInfo⟩

theorem data_handled (around : Surroundings) (fuel : Nat) (ring : RingParams) (session : Session) (line : List UInt8)
    (arguments : List Text) (words : splitWords (commandText line) = "DATA".toList :: arguments) :
    handleCommand around fuel ring session line = some (handleData ring session ("DATA".toList :: arguments)) := by
  have command : toUpperInvariant "DATA".toList = "DATA".toList := by decide +kernel
  rw [handleCommand.eq_def, words]
  dsimp only
  rw [if_pos (Or.inl command)]

theorem data_visited (g : Geometry) (journal : Journal) (ring : RingParams) (visited : Visited g journal ring fresh) :
    Visited g journal ring (handleData ring fresh ["DATA".toList]).session := by
  have words : splitWords (commandText (encodeASCII "DATA".toList)) = ["DATA".toList] := by decide +kernel
  have command : toUpperInvariant "DATA".toList = "DATA".toList := by decide +kernel
  refine .commanded journal ring fresh visited quiet 1 (encodeASCII "DATA".toList) ?_ _ (data_handled quiet 1 ring fresh _ [] words)
  rw [CommandFits.eq_def, words]
  dsimp only
  rw [if_pos (Or.inl command)]
  exact Or.inr (Or.inr (Or.inr (Or.inl rfl)))

theorem visited_run (g : Geometry) (requests : List Request) (journal : Journal) (ring : RingParams) (session : Session)
    (visited : Visited g journal ring session) (fits : ∀ request ∈ requests, Fits ring request) :
    ∃ journal' next packets, writeAll ring requests = some (next, packets) ∧ next.pktSize = ring.pktSize ∧
      Visited g journal' next session ∧ journal'.written = journal.written + requests.length := by
  induction requests generalizing journal ring with
  | nil => exact ⟨journal, ring, [], rfl, rfl, visited, rfl⟩
  | cons request rest ih =>
      have fitsHere := fits request List.mem_cons_self
      obtain ⟨middle, wrote, setup, _⟩ := write_keeps g ring journal (visited_steady g journal ring session visited).1 request fitsHere
      have after := Visited.written journal ring session visited request fitsHere middle _ wrote
      obtain ⟨journal', next, packets, ran, pktSize, visited', written⟩ := ih (journal.record g request) middle after
        fun other member => by
          have known := fits other (List.mem_cons_of_mem _ member)
          exact ⟨setup.pktSize ▸ known.passes, known.array⟩
      refine ⟨journal', next, journal.stamp g request.clock request.packet :: packets, ?_, pktSize.trans setup.pktSize, visited', ?_⟩
      · simp only [writeAll, wrote]
        show (writeAll middle rest).map _ = _
        rw [ran]
        rfl
      · have one : (journal.record g request).written = journal.written + 1 := rfl
        rw [written, one, List.length_cons]
        omega

def wrappedTwice : RingParams := writtenRing (writtenRing twoSlotRing threeBytes) threeBytes

def sessionOfData : Session := (handleData (writtenRing twoSlotRing threeBytes) fresh ["DATA".toList]).session

theorem data_session_visited : ∃ journal, Visited twoSlots journal wrappedTwice sessionOfData ∧ journal.written = 6 := by
  have opened := Visited.opened Journal.empty twoSlotRing (fresh_keeps _ _ two_slots_fresh) DataLink.newClient rfl rfl
  obtain ⟨first, middle, packets, ran, pktSize, visited, written⟩ := visited_run twoSlots threeBytes Journal.empty twoSlotRing fresh opened
    fun request member => (three_bytes_fit twoSlotRing rfl request member).1
  have asked := data_visited twoSlots first middle visited
  obtain ⟨second, next, others, ranAgain, _, visited', written'⟩ := visited_run twoSlots threeBytes first middle _ asked
    fun request member => (three_bytes_fit middle pktSize request member).1
  have isMiddle := (written_of_run twoSlotRing middle threeBytes packets ran).1
  have isNext := (written_of_run middle next threeBytes others ranAgain).1
  rw [wrappedTwice, sessionOfData, isMiddle, isNext]
  exact ⟨second, visited', by rw [written', written]; rfl⟩

theorem streams_from_start_wrapped : ∃ journal, Visited twoSlots journal wrappedTwice sessionOfData ∧ journal.written = 6 ∧
    ((∃ i, i < journal.written ∧ sessionOfData.client.reader.pktOffset = twoSlots.offsetAt i) ∨
      Sentinel sessionOfData.client.reader.pktId) ∧
      (∀ fuel packet data reading, RingBuffer.readNext fuel wrappedTwice sessionOfData.client.reader packet data = some reading →
        reading.code = Constants.ringIdError →
          ∃ i, journal.Resident twoSlots i ∧ (journal.packet i).pktId = Constants.ringIdError) ∧
      ∀ around fuel outcome, streamPackets around fuel wrappedTwice sessionOfData = some outcome → outcome.code < 0 →
        ∃ i, journal.Resident twoSlots i ∧ (journal.packet i).pktId = Constants.ringIdError := by
  obtain ⟨journal, visited, written⟩ := data_session_visited
  have streams : sessionOfData.client.state = .stream := by decide +kernel
  have drained : sessionOfData.ext.dbRecords = [] := by decide +kernel
  exact ⟨journal, visited, written, streams_from_start twoSlots journal wrappedTwice sessionOfData visited streams drained⟩

def oneByteRing : RingParams := ((writeRequest twoSlotRing (byteRequest ⟨5⟩ "A".toList 7)).map (·.2.1)).getD twoSlotRing

def resumed : Session := (handleData oneByteRing fresh ["DATA".toList, "000005".toList]).session

-- DATA with a sequence number streams at once and leaves a packet ID that ReadNext refuses.
theorem data_leaves_packet_id : handleCommand quiet 3 oneByteRing fresh (encodeASCII "DATA 000005".toList) = some ⟨0, resumed, []⟩ ∧
    resumed.client.state = .stream ∧ resumed.ext.dbRecords = [] ∧ resumed.client.reader.pktOffset = -1 ∧
    resumed.client.reader.pktId = 4 ∧ ¬ Sentinel resumed.client.reader.pktId ∧
    (streamPackets quiet 3 oneByteRing resumed).map (·.code) = some (-1) := by
  have words : splitWords (commandText (encodeASCII "DATA 000005".toList)) = ["DATA".toList, "000005".toList] := by decide +kernel
  refine ⟨data_handled quiet 3 oneByteRing fresh _ _ words, rfl, rfl, rfl, ?_, ?_, ?_⟩
  · decide +kernel
  · decide +kernel
  · decide +kernel

end RingServer.SeedLink
