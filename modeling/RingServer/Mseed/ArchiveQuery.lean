import Mathlib.Data.List.Perm.Basic
import RingServer.Library.Wildcard
import RingServer.Mseed.MseedArchive
import RingServer.Protocols.SeedLinkProtocol

set_option autoImplicit false

namespace RingServer.MseedArchive

open Library

-- Replace("_", "\\_")
def escaped (streamId : Text) : Text := streamId.flatMap fun c => if c = '_' then ['\\', '_'] else [c]

def likeItem (c : Char) : Wild Char := if c = '%' then .many else if c = '_' then .one else .literal c

-- The pattern of LIKE with ESCAPE '\'.
def likePattern : Text → List (Wild Char)
  | [] => []
  | [c] => [likeItem c]
  | c :: d :: rest => if c = '\\' then .literal d :: likePattern rest else likeItem c :: likePattern (d :: rest)

def like (pattern streamId : Text) : Bool := wildMatches (fun _ => true) (likePattern pattern) streamId

def selects (streamIds : List Text) (streamId : Text) : Bool :=
  streamIds.isEmpty || streamIds == [['%']] || streamIds.any fun pattern => like (escaped pattern) streamId

-- A timestamp counts microseconds from the year 2000. Npgsql rounds the ticks of a
-- DateTime towards that year.
def timestamp (nsTime : NsTime) : Int := ((nsTimeToDateTime nsTime).toInt - 9466848000000000).tdiv 10

def within (streamIds : List Text) (startTime endTime : NsTime) (row : MseedQueryResult) : Bool :=
  timestamp startTime ≤ timestamp row.startTime && (endTime = NsTime.unset || timestamp row.startTime ≤ timestamp endTime) &&
    selects streamIds row.streamId

def behindCursor (cursorStartTime : NsTime) (cursorId : Int64) (row : MseedQueryResult) : Bool :=
  if cursorStartTime ≠ NsTime.unset ∧ cursorId > 0 then
    timestamp row.startTime > timestamp cursorStartTime ||
      (timestamp row.startTime = timestamp cursorStartTime && row.id > cursorId)
  else true

-- What the rows of the archive are when they are read: the ID is a BIGSERIAL, the data
-- is not null and a time is one of a timestamp.
structure Content (rows : List MseedQueryResult) : Prop where
  ids : (rows.map (·.id)).Nodup
  serial : ∀ row ∈ rows, 0 < row.id
  data : ∀ row ∈ rows, row.rawData ≠ none
  micros : ∀ row ∈ rows, 1000 ∣ row.startTime.value.toInt

-- The answers of a database that holds the rows. Rows that tie under ORDER BY come in
-- any order. The handlers ask for 10000 rows; batch stands for that number.
structure Answers (rows : List MseedQueryResult) (batch : Nat) (archive : MseedArchive) : Prop where
  first : ∀ streamIds startTime endTime, ∃ ordered : List MseedQueryResult,
    archive.queryByTime streamIds startTime endTime 10000 = some (ordered.take batch) ∧
      ordered.Perm (rows.filter (within streamIds startTime endTime)) ∧
      ordered.Pairwise fun a b => timestamp a.startTime ≤ timestamp b.startTime
  next : ∀ streamIds startTime endTime cursorStartTime cursorId, ∃ ordered : List MseedQueryResult,
    archive.queryByTimePagination streamIds startTime endTime cursorStartTime cursorId 10000 = some (ordered.take batch) ∧
      ordered.Perm (rows.filter fun row => within streamIds startTime endTime row && behindCursor cursorStartTime cursorId row) ∧
      ordered.Pairwise fun a b => timestamp a.startTime < timestamp b.startTime ∨
        (timestamp a.startTime = timestamp b.startTime ∧ a.id ≤ b.id)

def Before (a b : MseedQueryResult) : Prop :=
  a.startTime.value < b.startTime.value ∨ (a.startTime.value = b.startTime.value ∧ a.id < b.id)

instance : DecidableRel Before := fun _ _ => inferInstanceAs (Decidable (_ ∨ _))

theorem before_iff (a b : MseedQueryResult) : Before a b ↔ a.startTime.value.toInt < b.startTime.value.toInt ∨
    (a.startTime.value.toInt = b.startTime.value.toInt ∧ a.id.toInt < b.id.toInt) := by
  rw [Before, Int64.lt_iff_toInt_lt, Int64.lt_iff_toInt_lt, Int64.toInt_inj]

theorem before_trans (a b c : MseedQueryResult) (first : Before a b) (second : Before b c) : Before a c := by
  rw [before_iff] at first second ⊢
  omega

theorem before_irrefl (a : MseedQueryResult) : ¬ Before a a := by
  rw [before_iff]
  omega

theorem timestamp_micros (nsTime : NsTime) (micros : 1000 ∣ nsTime.value.toInt) :
    timestamp nsTime = nsTime.value.toInt / 1000 - 946684800000000 := by
  obtain ⟨q, isTime⟩ := micros
  have ticks : (nsTimeToDateTime nsTime).toInt = 10 * q := by
    rw [nsTimeToDateTime, Int64.toInt_div_of_ne_right _ _ (by decide), isTime]
    rw [show (100 : Int64).toInt = 100 from rfl, show 1000 * q = 100 * (10 * q) by omega, Int.mul_tdiv_cancel_left _ (by decide)]
  rw [timestamp, ticks, isTime, show 10 * q - 9466848000000000 = 10 * (q - 946684800000000) by omega,
    Int.mul_tdiv_cancel_left _ (by decide)]
  omega

theorem timestamp_le (a b : NsTime) (first : 1000 ∣ a.value.toInt) (second : 1000 ∣ b.value.toInt) :
    timestamp a ≤ timestamp b ↔ a.value.toInt ≤ b.value.toInt := by
  rw [timestamp_micros a first, timestamp_micros b second]
  omega

theorem timestamp_eq (a b : NsTime) (first : 1000 ∣ a.value.toInt) (second : 1000 ∣ b.value.toInt) :
    timestamp a = timestamp b ↔ a.value.toInt = b.value.toInt := by
  rw [timestamp_micros a first, timestamp_micros b second]
  omega

end RingServer.MseedArchive
