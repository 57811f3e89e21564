import RingServer.Mseed.MseedArchive

set_option autoImplicit false

namespace RingServer.MseedArchive

-- A partition is the day of its name, in UTC; names of eight digits compare like the days.
-- Times are ticks of 100 ns.
def dayOf (time : Int) : Int := time.fdiv 864000000000

-- What the database stores of a time: microseconds from the year 2000, rounded towards it.
def storedTime (time : Int) : Int := (time - 9466848000000000).tdiv 10

def rowTime (row : Int) : Int := row * 10 + 9466848000000000

-- What a pruning procedure still has to do: evict and expire look for the boundary
-- partition, and dropEmpty counts its rows.
inductive Statement where
  | select (boundary : Int)
  | drop (day : Int)
  | evict (cutoff : Int)
  | expire (cutoff : Int)
  | delete (cutoff : Int)
  | dropEmpty (day : Int)

inductive Stage where
  | missed
  | absent
  | present

-- The rows are their stored times.
structure Partitions where
  partitions : List Int
  rows : List Int
  createdPartitions : List Int
  calls : List (Int × Stage)
  ensured : List Int
  prunes : List (List Statement)

inductive PartitionEvent where
  | ensure (day : Int)
  | check (i : Nat)
  | create (i : Nat) (succeeds : Bool)
  | add (i : Nat)
  | copy (times : List Int)
  | prune (now : Int)
  | inlineEvict (now : Int)
  | runs (j : Nat)
  | fails (j : Nat)
  | aborts (j : Nat)

def insertNew (day : Int) (days : List Int) : List Int := if day ∈ days then days else days ++ [day]

section

-- The stored time as which the sessions of the database read the date of a day: the bounds of
-- a partition are dates without a zone, and the zone is the TimeZone of the database.
variable (midnight : Int → Int)

def InPartition (day row : Int) : Prop := midnight day ≤ row ∧ row < midnight (day + 1)

instance (day row : Int) : Decidable (InPartition midnight day row) := inferInstanceAs (Decidable (_ ∧ _))

def Partitions.dropTable (s : Partitions) (day : Int) : Partitions :=
  { s with partitions := s.partitions.filter (· ≠ day), rows := s.rows.filter fun row => ¬ InPartition midnight day row }

-- What one statement does, and what it leaves to do. The parameter of a DELETE is stored as
-- a row is.
def execute (s : Partitions) : Statement → Partitions × List Statement
  | .select boundary => (s, (s.partitions.filter (· < boundary)).map .drop)
  | .drop day => (s.dropTable midnight day, [])
  | .evict cutoff => (s, if dayOf cutoff ∈ s.partitions then [.delete cutoff] else [])
  | .expire cutoff => (s, if dayOf cutoff ∈ s.partitions then [.delete cutoff, .dropEmpty (dayOf cutoff)] else [])
  | .delete cutoff => ({ s with rows := s.rows.filter (storedTime cutoff ≤ ·) }, [])
  -- To count the rows of a partition that is gone is an exception.
  | .dropEmpty day => (s, if day ∈ s.partitions ∧ ∀ row ∈ s.rows, ¬ InPartition midnight day row then [.drop day] else [])

end

section

variable (retentionDays : Int)

def cutoffOf (now : Int) : Int := now - retentionDays * 864000000000

def pruneOldPartitions (now : Int) : List Statement :=
  if retentionDays ≤ 0 then [] else [.select (dayOf (cutoffOf retentionDays now)), .expire (cutoffOf retentionDays now)]

def inlineEvictExpired (now : Int) : List Statement :=
  if retentionDays ≤ 0 then [] else [.evict (cutoffOf retentionDays now), .select (dayOf (cutoffOf retentionDays now))]

end

section

variable (midnight : Int → Int) (retentionDays : Int)

def Copies (s : Partitions) (times : List Int) : Prop := ∀ time ∈ times, ∃ day ∈ s.partitions, InPartition midnight day (storedTime time)

instance (s : Partitions) (times : List Int) : Decidable (Copies midnight s times) := inferInstanceAs (Decidable (∀ time ∈ times, _))

-- Every access to the cache or to the database is a step; a statement that fails is
-- logged and passed over, or ends its procedure.
def partitionStep (s : Partitions) : PartitionEvent → Option Partitions
  | .ensure day =>
      if day ∈ s.createdPartitions then some { s with ensured := s.ensured ++ [day] }
      else some { s with calls := s.calls ++ [(day, .missed)] }
  | .check i =>
      match s.calls[i]? with
      | some (day, .missed) => some { s with calls := s.calls.set i (day, if day ∈ s.partitions then .present else .absent) }
      | _ => none
  | .create i succeeds =>
      match s.calls[i]? with
      | some (day, .absent) =>
          if succeeds then some { s with partitions := insertNew day s.partitions, calls := s.calls.set i (day, .present) }
          else some { s with calls := s.calls.eraseIdx i }
      | _ => none
  | .add i =>
      match s.calls[i]? with
      | some (day, .present) =>
          some { s with
            createdPartitions := insertNew day s.createdPartitions, calls := s.calls.eraseIdx i, ensured := s.ensured ++ [day] }
      | _ => none
  | .copy times => if Copies midnight s times then some { s with rows := s.rows ++ times.map storedTime } else some s
  | .prune now => some { s with prunes := s.prunes ++ [pruneOldPartitions retentionDays now] }
  | .inlineEvict now => some { s with prunes := s.prunes ++ [inlineEvictExpired retentionDays now] }
  | .runs j =>
      match s.prunes[j]? with
      | some (statement :: rest) =>
          let (s', more) := execute midnight s statement
          some { s' with prunes := s.prunes.set j (more ++ rest) }
      | _ => none
  | .fails j =>
      match s.prunes[j]? with
      | some (_ :: rest) => some { s with prunes := s.prunes.set j rest }
      | _ => none
  | .aborts j => some { s with prunes := s.prunes.eraseIdx j }

-- Every name in the cache exists, and a flush whose partitions were ensured finds
-- them.
structure CacheSound (s : Partitions) : Prop where
  created : ∀ day ∈ s.createdPartitions, day ∈ s.partitions
  copies : ∀ times, (∀ time ∈ times, dayOf time ∈ s.ensured) → Copies midnight s times

def SoundAlong : Partitions → List PartitionEvent → Prop
  | s, [] => CacheSound midnight s
  | s, event :: rest => CacheSound midnight s ∧ ∀ next, partitionStep midnight retentionDays s event = some next → SoundAlong next rest

def Room (partitions : List Int) (day : Int) : Prop :=
  ∀ time, dayOf time = day → ∃ other ∈ partitions, InPartition midnight other (storedTime time)

-- No partition is dropped whose name is in the cache, or on its way into it from
-- EnsurePartition, or that has times of an ensured day to itself; and a day has all its
-- places when EnsurePartition returns for it.
def Spares (s : Partitions) : PartitionEvent → Prop
  | .ensure day => day ∈ s.createdPartitions → Room midnight s.partitions day
  | .runs j => ∀ day rest, s.prunes[j]? = some (.drop day :: rest) →
      day ∉ s.createdPartitions ∧ ∀ other ∈ s.ensured, Room midnight (s.partitions.filter (· ≠ day)) other
  | .add i => ∀ day, s.calls[i]? = some (day, .present) → day ∈ s.partitions ∧ Room midnight s.partitions day
  | _ => True

def AllSpare : Partitions → List PartitionEvent → Prop
  | _, [] => True
  | s, event :: rest => Spares midnight s event ∧ ∀ next, partitionStep midnight retentionDays s event = some next → AllSpare next rest

theorem mem_insert_new (day other : Int) (days : List Int) : other ∈ insertNew day days ↔ other ∈ days ∨ other = day := by
  rw [insertNew]
  by_cases inside : day ∈ days
  · rw [if_pos inside]
    refine ⟨Or.inl, fun either => either.elim id fun same => ?_⟩
    rw [same]
    exact inside
  · rw [if_neg inside, List.mem_append, List.mem_singleton]

-- A statement changes neither the cache nor the calls; only a drop takes a partition
-- away.
structure Executes (s s' : Partitions) (statement : Statement) : Prop where
  created : s'.createdPartitions = s.createdPartitions
  ensured : s'.ensured = s.ensured
  dropped : ∀ day, statement = .drop day → s'.partitions = s.partitions.filter (· ≠ day)
  others : (∀ day, statement ≠ .drop day) → s'.partitions = s.partitions

theorem execute_spec (s : Partitions) (statement : Statement) : Executes s (execute midnight s statement).1 statement := by
  cases statement with
  | select boundary => exact ⟨rfl, rfl, fun _ other => (by cases other), fun _ => rfl⟩
  | drop day =>
      refine ⟨rfl, rfl, fun other same => ?_, fun none => absurd rfl (none day)⟩
      cases same
      rfl
  | evict cutoff => exact ⟨rfl, rfl, fun _ other => (by cases other), fun _ => rfl⟩
  | expire cutoff => exact ⟨rfl, rfl, fun _ other => (by cases other), fun _ => rfl⟩
  | delete cutoff => exact ⟨rfl, rfl, fun _ other => (by cases other), fun _ => rfl⟩
  | dropEmpty day => exact ⟨rfl, rfl, fun _ other => (by cases other), fun _ => rfl⟩

structure Housed (s : Partitions) : Prop where
  created : ∀ day ∈ s.createdPartitions, day ∈ s.partitions
  room : ∀ day ∈ s.ensured, Room midnight s.partitions day

theorem cache_sound_iff (s : Partitions) : CacheSound midnight s ↔ Housed midnight s := by
  constructor
  · intro sound
    refine ⟨sound.created, fun day ensured time isDay => ?_⟩
    refine sound.copies [time] (fun other member => ?_) time (List.mem_singleton.mpr rfl)
    rw [List.mem_singleton.mp member, isDay]
    exact ensured
  · intro housed
    exact ⟨housed.created, fun times ensured time member => housed.room _ (ensured time member) time rfl⟩

theorem room_grows (partitions more : List Int) (day : Int) (grows : ∀ other ∈ partitions, other ∈ more)
    (room : Room midnight partitions day) : Room midnight more day := by
  intro time isDay
  obtain ⟨other, member, within⟩ := room time isDay
  exact ⟨other, grows other member, within⟩

theorem housed_grows (s next : Partitions) (housed : Housed midnight s) (created : next.createdPartitions = s.createdPartitions)
    (ensured : next.ensured = s.ensured) (grows : ∀ day ∈ s.partitions, day ∈ next.partitions) : Housed midnight next := by
  refine ⟨fun day member => ?_, fun day member => ?_⟩
  · rw [created] at member
    exact grows day (housed.created day member)
  · rw [ensured] at member
    exact room_grows midnight _ _ day grows (housed.room day member)

theorem runs_sound (s next : Partitions) (j : Nat) (housed : Housed midnight s)
    (stepped : partitionStep midnight retentionDays s (.runs j) = some next) : Housed midnight next ↔ Spares midnight s (.runs j) := by
  rw [partitionStep] at stepped
  split at stepped
  · rename_i statement rest isPrune
    have spec := execute_spec midnight s statement
    generalize execute midnight s statement = result at stepped spec
    obtain ⟨s', more⟩ := result
    obtain rfl := Option.some.inj stepped
    by_cases drops : ∃ day, statement = .drop day
    · obtain ⟨day, rfl⟩ := drops
      have partitions : s'.partitions = s.partitions.filter (· ≠ day) := spec.dropped day rfl
      constructor
      · intro after other tail isOther
        rw [isPrune] at isOther
        cases isOther
        refine ⟨fun member => ?_, fun ensured member => ?_⟩
        · have kept : day ∈ s'.partitions := after.created day (by rw [spec.created]; exact member)
          rw [partitions, List.mem_filter] at kept
          exact absurd rfl (of_decide_eq_true kept.2)
        · rw [← partitions]
          exact after.room ensured (by rw [spec.ensured]; exact member)
      · intro spares
        obtain ⟨absent, room⟩ := spares day rest isPrune
        refine ⟨fun other member => ?_, fun other member => ?_⟩
        · have old : other ∈ s.createdPartitions := spec.created ▸ member
          have apart : other ≠ day := fun same => absent (same ▸ old)
          show other ∈ s'.partitions
          rw [partitions, List.mem_filter]
          exact ⟨housed.created other old, decide_eq_true apart⟩
        · show Room midnight s'.partitions other
          rw [partitions]
          exact room other (spec.ensured ▸ member)
    · have none : ∀ day, statement ≠ .drop day := fun day same => drops ⟨day, same⟩
      refine iff_of_true (housed_grows midnight s _ housed spec.created spec.ensured fun day member => ?_) fun day tail isOther => ?_
      · show day ∈ s'.partitions
        rw [spec.others none]
        exact member
      · rw [isPrune] at isOther
        cases isOther
        exact absurd rfl (none day)
  · cases stepped

theorem ensure_sound (s next : Partitions) (day : Int) (housed : Housed midnight s)
    (stepped : partitionStep midnight retentionDays s (.ensure day) = some next) :
    Housed midnight next ↔ Spares midnight s (.ensure day) := by
  rw [partitionStep] at stepped
  by_cases inside : day ∈ s.createdPartitions
  · rw [if_pos inside] at stepped
    obtain rfl := Option.some.inj stepped
    constructor
    · exact fun after _ => after.room day (List.mem_append_right _ (List.mem_singleton.mpr rfl))
    · intro spares
      refine ⟨housed.created, fun other member => ?_⟩
      rcases List.mem_append.mp member with old | new
      · exact housed.room other old
      · rw [List.mem_singleton.mp new]
        exact spares inside
  · rw [if_neg inside] at stepped
    obtain rfl := Option.some.inj stepped
    exact iff_of_true ⟨housed.created, housed.room⟩ fun created => absurd created inside

theorem add_sound (s next : Partitions) (i : Nat) (housed : Housed midnight s)
    (stepped : partitionStep midnight retentionDays s (.add i) = some next) : Housed midnight next ↔ Spares midnight s (.add i) := by
  rw [partitionStep] at stepped
  split at stepped
  · rename_i day isCall
    obtain rfl := Option.some.inj stepped
    constructor
    · intro after other isOther
      rw [isCall] at isOther
      cases isOther
      exact ⟨after.created day ((mem_insert_new _ _ _).mpr (Or.inr rfl)),
        after.room day (List.mem_append_right _ (List.mem_singleton.mpr rfl))⟩
    · intro spares
      obtain ⟨present, room⟩ := spares day isCall
      refine ⟨fun other member => ?_, fun other member => ?_⟩
      · rcases (mem_insert_new _ _ _).mp member with old | same
        · exact housed.created other old
        · rw [same]
          exact present
      · rcases List.mem_append.mp member with old | new
        · exact housed.room other old
        · rw [List.mem_singleton.mp new]
          exact room
  · cases stepped

theorem partition_step_sound (s next : Partitions) (event : PartitionEvent) (housed : Housed midnight s)
    (stepped : partitionStep midnight retentionDays s event = some next) : Housed midnight next ↔ Spares midnight s event := by
  cases event with
  | ensure day => exact ensure_sound midnight retentionDays s next day housed stepped
  | check i =>
      rw [partitionStep] at stepped
      split at stepped
      · obtain rfl := Option.some.inj stepped
        exact iff_of_true ⟨housed.created, housed.room⟩ trivial
      · cases stepped
  | create i succeeds =>
      rw [partitionStep] at stepped
      split at stepped
      · split at stepped
        · obtain rfl := Option.some.inj stepped
          refine iff_of_true (housed_grows midnight s _ housed rfl rfl fun day member => ?_) trivial
          exact (mem_insert_new _ _ _).mpr (Or.inl member)
        · obtain rfl := Option.some.inj stepped
          exact iff_of_true ⟨housed.created, housed.room⟩ trivial
      · cases stepped
  | add i => exact add_sound midnight retentionDays s next i housed stepped
  | copy times =>
      rw [partitionStep] at stepped
      split at stepped
      · obtain rfl := Option.some.inj stepped
        exact iff_of_true ⟨housed.created, housed.room⟩ trivial
      · obtain rfl := Option.some.inj stepped
        exact iff_of_true housed trivial
  | prune now =>
      obtain rfl := Option.some.inj stepped
      exact iff_of_true ⟨housed.created, housed.room⟩ trivial
  | inlineEvict now =>
      obtain rfl := Option.some.inj stepped
      exact iff_of_true ⟨housed.created, housed.room⟩ trivial
  | runs j => exact runs_sound midnight retentionDays s next j housed stepped
  | fails j =>
      rw [partitionStep] at stepped
      split at stepped
      · obtain rfl := Option.some.inj stepped
        exact iff_of_true ⟨housed.created, housed.room⟩ trivial
      · cases stepped
  | aborts j =>
      obtain rfl := Option.some.inj stepped
      exact iff_of_true ⟨housed.created, housed.room⟩ trivial

theorem no_step_spares (s : Partitions) (event : PartitionEvent) (none : partitionStep midnight retentionDays s event = none) :
    Spares midnight s event := by
  cases event with
  | ensure day =>
      rw [partitionStep] at none
      split at none
      · cases none
      · cases none
  | add i =>
      intro day isCall
      rw [partitionStep, isCall] at none
      cases none
  | runs j =>
      intro day rest isPrune
      rw [partitionStep, isPrune] at none
      cases none
  | _ => trivial

theorem sound_along_here (s : Partitions) (events : List PartitionEvent) (along : SoundAlong midnight retentionDays s events) :
    CacheSound midnight s := by
  cases events with
  | nil => exact along
  | cons event rest => exact along.1

theorem sound_along (s : Partitions) (events : List PartitionEvent) (housed : Housed midnight s) :
    SoundAlong midnight retentionDays s events ↔ AllSpare midnight retentionDays s events := by
  induction events generalizing s with
  | nil => exact iff_of_true ((cache_sound_iff midnight s).mpr housed) trivial
  | cons event rest ih =>
      rw [SoundAlong, AllSpare, and_iff_right ((cache_sound_iff midnight s).mpr housed)]
      constructor
      · intro along
        cases stepped : partitionStep midnight retentionDays s event with
        | none => exact ⟨no_step_spares midnight retentionDays s event stepped, fun _ impossible => by cases impossible⟩
        | some next =>
            have spares := partition_step_sound midnight retentionDays s next event housed stepped
            have housed' := (cache_sound_iff midnight next).mp (sound_along_here midnight retentionDays next rest (along next stepped))
            refine ⟨spares.mp housed', fun other same => ?_⟩
            cases same
            exact (ih next housed').mp (along next stepped)
      · intro all next stepped
        have spares := partition_step_sound midnight retentionDays s next event housed stepped
        exact (ih next (spares.mpr all.1)).mpr (all.2 next stepped)

-- The archive starts with an empty cache before any database. The cache is sound in
-- every state of a run exactly when all its steps spare what it names.
theorem cache_sound (partitions rows : List Int) (events : List PartitionEvent) :
    SoundAlong midnight retentionDays ⟨partitions, rows, [], [], [], []⟩ events ↔
      AllSpare midnight retentionDays ⟨partitions, rows, [], [], [], []⟩ events :=
  sound_along midnight retentionDays ⟨partitions, rows, [], [], [], []⟩ events
    ⟨fun _ none => absurd none List.not_mem_nil, fun _ none => absurd none List.not_mem_nil⟩

end

def utcMidnight (day : Int) : Int := day * 86400000000 - 946684800000000

theorem in_partition_utc (time day : Int) (recent : 9466848000000000 ≤ time) :
    InPartition utcMidnight day (storedTime time) ↔ dayOf time = day := by
  rw [InPartition, utcMidnight, utcMidnight, storedTime, Int.tdiv_eq_ediv_of_nonneg (by omega), dayOf,
    Int.fdiv_eq_ediv_of_nonneg _ (by decide)]
  omega

theorem room_utc (partitions : List Int) (day : Int) (recent : 10957 ≤ day) : Room utcMidnight partitions day ↔ day ∈ partitions := by
  have late (time : Int) (isDay : dayOf time = day) : 9466848000000000 ≤ time := by
    rw [dayOf, Int.fdiv_eq_ediv_of_nonneg _ (by decide)] at isDay
    omega
  constructor
  · intro room
    have first : dayOf (day * 864000000000) = day := by
      rw [dayOf, Int.fdiv_eq_ediv_of_nonneg _ (by decide)]
      omega
    obtain ⟨other, member, within⟩ := room (day * 864000000000) first
    rw [in_partition_utc _ other (late _ first), first] at within
    rw [within]
    exact member
  · intro member time isDay
    exact ⟨day, member, (in_partition_utc time day (late time isDay)).mpr isDay⟩

def SparesNames (s : Partitions) : PartitionEvent → Prop
  | .runs j => ∀ day rest, s.prunes[j]? = some (.drop day :: rest) → day ∉ s.createdPartitions
  | .add i => ∀ day, s.calls[i]? = some (day, .present) → day ∈ s.partitions
  | _ => True

theorem spares_utc (s : Partitions) (event : PartitionEvent) (cached : ∀ day ∈ s.ensured, day ∈ s.createdPartitions)
    (present : ∀ day ∈ s.createdPartitions, day ∈ s.partitions) (recent : ∀ day ∈ s.createdPartitions, 10957 ≤ day)
    (calls : ∀ call ∈ s.calls, 10957 ≤ call.1) : Spares utcMidnight s event ↔ SparesNames s event := by
  cases event with
  | ensure day => exact iff_of_true (fun member => (room_utc _ day (recent day member)).mpr (present day member)) trivial
  | add i =>
      have room (day : Int) (isCall : s.calls[i]? = some (day, .present)) : Room utcMidnight s.partitions day ↔ day ∈ s.partitions :=
        room_utc _ day (calls _ (List.mem_of_getElem? isCall))
      exact ⟨fun all day isCall => (all day isCall).1, fun all day isCall => ⟨all day isCall, (room day isCall).mpr (all day isCall)⟩⟩
  | runs j =>
      refine ⟨fun all day rest isPrune => (all day rest isPrune).1, fun all day rest isPrune => ?_⟩
      have absent := all day rest isPrune
      refine ⟨absent, fun other ensured => (room_utc _ other (recent other (cached other ensured))).mpr ?_⟩
      refine List.mem_filter.mpr ⟨present other (cached other ensured), decide_eq_true ?_⟩
      rintro rfl
      exact absent (cached other ensured)
  | check i => exact Iff.rfl
  | create i succeeds => exact Iff.rfl
  | copy times => exact Iff.rfl
  | prune now => exact Iff.rfl
  | inlineEvict now => exact Iff.rfl
  | fails j => exact Iff.rfl
  | aborts j => exact Iff.rfl

-- With one day of retention: a record of day 20000 is written, the day is pruned two days
-- later, and another record of it finds its partition in the cache and not in the database.
def lateRecord : List PartitionEvent :=
  [.ensure 20000, .check 0, .create 0 true, .add 0, .copy [20000 * 864000000000], .prune (20002 * 864000000000), .runs 0, .runs 0,
    .ensure 20000]

def lateRecordEnds : Partitions where
  partitions := []
  rows := []
  createdPartitions := [20000]
  calls := []
  ensured := [20000, 20000]
  prunes := [[.expire (20001 * 864000000000)]]

theorem pruned_partition_stays_cached :
    lateRecord.foldlM (partitionStep utcMidnight 1) ⟨[], [], [], [], [], []⟩ = some lateRecordEnds ∧
      ¬ Copies utcMidnight lateRecordEnds [20000 * 864000000000 + 10] ∧ ¬ CacheSound utcMidnight lateRecordEnds :=
  ⟨rfl, by decide, fun sound => absurd (sound.created 20000 (by decide)) (by decide)⟩

-- The last hour of a day has no place where the sessions read dates an hour early, as in
-- Berlin in winter.
example : ¬ Room (fun day => utcMidnight day - 3600000000) [20000] 20000 := by
  intro room
  obtain ⟨day, member, within⟩ := room (20000 * 864000000000 + 23 * 36000000000) (by decide)
  rw [List.mem_singleton.mp member] at within
  exact absurd within (by decide)

end RingServer.MseedArchive
