import RingServer.Mseed.Partitions

set_option autoImplicit false

namespace RingServer.MseedArchive

open Library

def rowDay (row : Int) : Int := (row + 946684800000000).fdiv 86400000000

def Stocked (s : Partitions) : Prop := ∀ row ∈ s.rows, rowDay row ∈ s.partitions

theorem in_partition_row (day row : Int) : InPartition utcMidnight day row ↔ rowDay row = day := by
  rw [InPartition, utcMidnight, utcMidnight, rowDay, Int.fdiv_eq_ediv_of_nonneg _ (by decide)]
  omega

theorem drop_table_rows (s : Partitions) (day : Int) :
    (s.dropTable utcMidnight day).rows = s.rows.filter fun row => rowDay row ≠ day := by
  rw [Partitions.dropTable]
  simp only [in_partition_row]

theorem live_stored (row cutoff : Int) (live : cutoff ≤ rowTime row) : storedTime cutoff ≤ row ∧ dayOf cutoff ≤ rowDay row := by
  rw [rowTime] at live
  rw [storedTime, tdiv_split, dayOf, rowDay, Int.fdiv_eq_ediv_of_nonneg _ (by decide), Int.fdiv_eq_ediv_of_nonneg _ (by decide)]
  omega

theorem stored_day (row cutoff : Int) (kept : storedTime cutoff ≤ row) : dayOf cutoff ≤ rowDay row := by
  rw [storedTime, tdiv_split] at kept
  rw [dayOf, rowDay, Int.fdiv_eq_ediv_of_nonneg _ (by decide), Int.fdiv_eq_ediv_of_nonneg _ (by decide)]
  omega

theorem later_day_stored (row cutoff : Int) (later : dayOf cutoff < rowDay row) : storedTime cutoff ≤ row := by
  rw [dayOf, rowDay, Int.fdiv_eq_ediv_of_nonneg _ (by decide), Int.fdiv_eq_ediv_of_nonneg _ (by decide)] at later
  rw [storedTime, tdiv_split]
  omega

theorem execute_stocked (s : Partitions) (statement : Statement) (stocked : Stocked s) :
    Stocked (execute utcMidnight s statement).1 := by
  cases statement with
  | drop day =>
      intro row member
      rw [execute, drop_table_rows] at member
      obtain ⟨old, apart⟩ := List.mem_filter.mp member
      exact List.mem_filter.mpr ⟨stocked row old, apart⟩
  | delete cutoff => exact fun row member => stocked row (List.mem_of_mem_filter member)
  | select boundary => exact stocked
  | evict cutoff => exact stocked
  | expire cutoff => exact stocked
  | dropEmpty day => exact stocked

section

variable (retentionDays : Int)

def cutoffStep (cutoffs : List Int) : PartitionEvent → List Int
  | .prune now => cutoffs ++ [cutoffOf retentionDays now]
  | .inlineEvict now => cutoffs ++ [cutoffOf retentionDays now]
  | .aborts j => cutoffs.eraseIdx j
  | _ => cutoffs

def KeepsLive (s next : Partitions) (cutoffs : List Int) : PartitionEvent → Prop
  | .runs j => ∀ cutoff, cutoffs[j]? = some cutoff → next.rows.filter (cutoff ≤ rowTime ·) = s.rows.filter (cutoff ≤ rowTime ·)
  | _ => s.rows <+: next.rows

def LiveAlong : Partitions → List Int → List PartitionEvent → Prop
  | _, _, [] => True
  | s, cutoffs, event :: rest => ∀ next, partitionStep utcMidnight retentionDays s event = some next →
      KeepsLive s next cutoffs event ∧ LiveAlong next (cutoffStep retentionDays cutoffs event) rest

-- The boundary partition that a run has found empty has got no row at or after the cutoff
-- by the time it is dropped.
def Unraced (s : Partitions) (cutoffs : List Int) : PartitionEvent → Prop
  | .runs j => ∀ cutoff rest, cutoffs[j]? = some cutoff → s.prunes[j]? = some (.drop (dayOf cutoff) :: rest) →
      ∀ row ∈ s.rows, rowDay row = dayOf cutoff → rowTime row < cutoff
  | _ => True

def AllUnraced : Partitions → List Int → List PartitionEvent → Prop
  | _, _, [] => True
  | s, cutoffs, event :: rest => Unraced s cutoffs event ∧ ∀ next, partitionStep utcMidnight retentionDays s event = some next →
      AllUnraced next (cutoffStep retentionDays cutoffs event) rest

def Bounded (cutoff : Int) : Statement → Prop
  | .select boundary => boundary = dayOf cutoff
  | .drop day => day ≤ dayOf cutoff
  | .evict other => other = cutoff
  | .expire other => other = cutoff
  | .delete other => other = cutoff
  | .dropEmpty day => day = dayOf cutoff

structure Paired (prunes : List (List Statement)) (cutoffs : List Int) : Prop where
  length : prunes.length = cutoffs.length
  bounded : ∀ (j : Nat) statements cutoff, prunes[j]? = some statements → cutoffs[j]? = some cutoff →
    ∀ statement ∈ statements, Bounded cutoff statement

theorem paired_append (prunes : List (List Statement)) (cutoffs : List Int) (paired : Paired prunes cutoffs) (statements : List Statement)
    (cutoff : Int) (bounded : ∀ statement ∈ statements, Bounded cutoff statement) :
    Paired (prunes ++ [statements]) (cutoffs ++ [cutoff]) := by
  refine ⟨by simp [paired.length], fun j others other isPrune isCutoff => ?_⟩
  by_cases old : j < prunes.length
  · rw [List.getElem?_append_left old] at isPrune
    rw [List.getElem?_append_left (paired.length ▸ old)] at isCutoff
    exact paired.bounded j others other isPrune isCutoff
  · rw [List.getElem?_append_right (by omega)] at isPrune
    rw [List.getElem?_append_right (by have := paired.length; omega), ← paired.length] at isCutoff
    obtain rfl := List.mem_singleton.mp (List.mem_of_getElem? isPrune)
    obtain rfl := List.mem_singleton.mp (List.mem_of_getElem? isCutoff)
    exact bounded

theorem paired_set (prunes : List (List Statement)) (cutoffs : List Int) (paired : Paired prunes cutoffs) (j : Nat)
    (statements : List Statement)
    (bounded : ∀ cutoff, cutoffs[j]? = some cutoff → ∀ statement ∈ statements, Bounded cutoff statement) :
    Paired (prunes.set j statements) cutoffs := by
  refine ⟨by rw [List.length_set, paired.length], fun k others other isPrune isCutoff => ?_⟩
  by_cases here : j = k
  · subst here
    obtain ⟨inside, rfl⟩ := List.getElem?_eq_some_iff.mp isPrune
    rw [List.getElem_set_self]
    exact bounded other isCutoff
  · rw [List.getElem?_set_ne here] at isPrune
    exact paired.bounded k others other isPrune isCutoff

theorem paired_erase (prunes : List (List Statement)) (cutoffs : List Int) (paired : Paired prunes cutoffs) (j : Nat) :
    Paired (prunes.eraseIdx j) (cutoffs.eraseIdx j) := by
  refine ⟨by rw [List.length_eraseIdx, List.length_eraseIdx, paired.length], fun k others other isPrune isCutoff => ?_⟩
  rw [List.getElem?_eraseIdx] at isPrune isCutoff
  by_cases before : k < j
  · rw [if_pos before] at isPrune isCutoff
    exact paired.bounded k others other isPrune isCutoff
  · rw [if_neg before] at isPrune isCutoff
    exact paired.bounded (k + 1) others other isPrune isCutoff

theorem execute_bounded (s : Partitions) (cutoff : Int) (statement : Statement) (bounded : Bounded cutoff statement) :
    ∀ other ∈ (execute utcMidnight s statement).2, Bounded cutoff other := by
  cases statement with
  | select boundary =>
      intro other member
      obtain ⟨day, isDay, rfl⟩ := List.mem_map.mp member
      have isBoundary : boundary = dayOf cutoff := bounded
      have earlier := of_decide_eq_true (List.mem_filter.mp isDay).2
      rw [isBoundary] at earlier
      exact Int.le_of_lt earlier
  | drop day => exact fun other member => absurd member List.not_mem_nil
  | evict other =>
      intro statement member
      rw [execute] at member
      split at member
      · rw [List.mem_singleton.mp member]
        exact bounded
      · exact absurd member List.not_mem_nil
  | expire other =>
      intro statement member
      rw [execute] at member
      split at member
      · rcases List.mem_pair.mp member with rfl | rfl
        · exact bounded
        · exact congrArg dayOf bounded
      · exact absurd member List.not_mem_nil
  | delete other => exact fun statement member => absurd member List.not_mem_nil
  | dropEmpty day =>
      intro statement member
      rw [execute] at member
      split at member
      · rw [List.mem_singleton.mp member]
        exact Int.le_of_eq bounded
      · exact absurd member List.not_mem_nil

theorem execute_keeps_live (s : Partitions) (cutoff : Int) (statement : Statement) (bounded : Bounded cutoff statement) :
    (execute utcMidnight s statement).1.rows.filter (cutoff ≤ rowTime ·) = s.rows.filter (cutoff ≤ rowTime ·) ↔
      (statement = .drop (dayOf cutoff) → ∀ row ∈ s.rows, rowDay row = dayOf cutoff → rowTime row < cutoff) := by
  cases statement with
  | drop day =>
      have dropped : (execute utcMidnight s (.drop day)).1.rows.filter (cutoff ≤ rowTime ·) = s.rows.filter (cutoff ≤ rowTime ·) ↔
          ∀ row ∈ s.rows, cutoff ≤ rowTime row → rowDay row ≠ day := by
        rw [execute, drop_table_rows, List.filter_comm, List.filter_eq_self]
        simp only [List.mem_filter, decide_eq_true_eq, and_imp]
      have early : day ≤ dayOf cutoff := bounded
      rw [dropped]
      constructor
      · rintro kept same row member isDay
        cases same
        by_contra live
        exact kept row member (by omega) isDay
      · rintro raced row member live isDay
        have late := (live_stored row cutoff live).2
        obtain rfl : day = dayOf cutoff := by omega
        have expired := raced rfl row member isDay
        omega
  | delete other =>
      obtain rfl : other = cutoff := bounded
      refine iff_of_true ?_ (fun impossible => by cases impossible)
      show (s.rows.filter (storedTime other ≤ ·)).filter (other ≤ rowTime ·) = _
      rw [List.filter_comm, List.filter_eq_self]
      intro row member
      exact decide_eq_true (live_stored row other (of_decide_eq_true (List.mem_filter.mp member).2)).1
  | select boundary => exact iff_of_true rfl (fun impossible => by cases impossible)
  | evict other => exact iff_of_true rfl (fun impossible => by cases impossible)
  | expire other => exact iff_of_true rfl (fun impossible => by cases impossible)
  | dropEmpty day => exact iff_of_true rfl (fun impossible => by cases impossible)

structure Retained (s : Partitions) (cutoffs : List Int) : Prop where
  stocked : Stocked s
  paired : Paired s.prunes cutoffs

theorem runs_kept (s next : Partitions) (cutoffs : List Int) (j : Nat) (retained : Retained s cutoffs)
    (stepped : partitionStep utcMidnight retentionDays s (.runs j) = some next) :
    Retained next cutoffs ∧ (KeepsLive s next cutoffs (.runs j) ↔ Unraced s cutoffs (.runs j)) := by
  have paired := retained.paired
  rw [partitionStep] at stepped
  split at stepped
  · rename_i statement rest isPrune
    obtain rfl := Option.some.inj stepped
    obtain ⟨inside, _⟩ := List.getElem?_eq_some_iff.mp isPrune
    have isCutoff := List.getElem?_eq_getElem (paired.length ▸ inside)
    have bounded := paired.bounded j _ _ isPrune isCutoff
    have live := execute_keeps_live s _ statement (bounded statement List.mem_cons_self)
    refine ⟨⟨execute_stocked s statement retained.stocked, paired_set _ _ paired j _ fun cutoff same other member => ?_⟩, ?_⟩
    · have all := paired.bounded j _ cutoff isPrune same
      rcases List.mem_append.mp member with left | later
      · exact execute_bounded s cutoff statement (all statement List.mem_cons_self) other left
      · exact all other (List.mem_cons_of_mem _ later)
    · constructor
      · intro keeps cutoff tail same head time member
        rw [isCutoff] at same
        rw [isPrune] at head
        cases same
        cases head
        exact live.mp (keeps _ isCutoff) rfl time member
      · intro unraced cutoff same
        rw [isCutoff] at same
        cases same
        refine live.mpr fun isDrop => ?_
        rw [isDrop] at isPrune
        exact unraced _ rest isCutoff isPrune
  · cases stepped

theorem partition_step_kept (s next : Partitions) (cutoffs : List Int) (event : PartitionEvent) (retained : Retained s cutoffs)
    (stepped : partitionStep utcMidnight retentionDays s event = some next) :
    Retained next (cutoffStep retentionDays cutoffs event) ∧ (KeepsLive s next cutoffs event ↔ Unraced s cutoffs event) := by
  have stocked := retained.stocked
  have paired := retained.paired
  cases event with
  | ensure day =>
      rw [partitionStep] at stepped
      split at stepped
      · obtain rfl := Option.some.inj stepped
        exact ⟨⟨stocked, paired⟩, iff_of_true List.prefix_rfl trivial⟩
      · obtain rfl := Option.some.inj stepped
        exact ⟨⟨stocked, paired⟩, iff_of_true List.prefix_rfl trivial⟩
  | check i =>
      rw [partitionStep] at stepped
      split at stepped
      · obtain rfl := Option.some.inj stepped
        exact ⟨⟨stocked, paired⟩, iff_of_true List.prefix_rfl trivial⟩
      · cases stepped
  | create i succeeds =>
      rw [partitionStep] at stepped
      split at stepped
      · split at stepped
        · obtain rfl := Option.some.inj stepped
          refine ⟨⟨fun time member => ?_, paired⟩, iff_of_true List.prefix_rfl trivial⟩
          exact (mem_insert_new _ _ _).mpr (Or.inl (stocked time member))
        · obtain rfl := Option.some.inj stepped
          exact ⟨⟨stocked, paired⟩, iff_of_true List.prefix_rfl trivial⟩
      · cases stepped
  | add i =>
      rw [partitionStep] at stepped
      split at stepped
      · obtain rfl := Option.some.inj stepped
        exact ⟨⟨stocked, paired⟩, iff_of_true List.prefix_rfl trivial⟩
      · cases stepped
  | copy times =>
      rw [partitionStep] at stepped
      split at stepped
      · rename_i copies
        obtain rfl := Option.some.inj stepped
        refine ⟨⟨fun row member => ?_, paired⟩, iff_of_true (List.prefix_append _ _) trivial⟩
        rcases List.mem_append.mp member with old | new
        · exact stocked row old
        · obtain ⟨time, isTime, rfl⟩ := List.mem_map.mp new
          obtain ⟨day, isDay, within⟩ := copies time isTime
          rw [(in_partition_row day _).mp within]
          exact isDay
      · obtain rfl := Option.some.inj stepped
        exact ⟨⟨stocked, paired⟩, iff_of_true List.prefix_rfl trivial⟩
  | prune now =>
      obtain rfl := Option.some.inj stepped
      refine ⟨⟨stocked, paired_append _ _ paired _ _ fun statement member => ?_⟩, iff_of_true List.prefix_rfl trivial⟩
      rw [pruneOldPartitions] at member
      split at member
      · exact absurd member List.not_mem_nil
      · rcases List.mem_pair.mp member with rfl | rfl
        · rfl
        · rfl
  | inlineEvict now =>
      obtain rfl := Option.some.inj stepped
      refine ⟨⟨stocked, paired_append _ _ paired _ _ fun statement member => ?_⟩, iff_of_true List.prefix_rfl trivial⟩
      rw [inlineEvictExpired] at member
      split at member
      · exact absurd member List.not_mem_nil
      · rcases List.mem_pair.mp member with rfl | rfl
        · rfl
        · rfl
  | runs j => exact runs_kept retentionDays s next cutoffs j retained stepped
  | fails j =>
      rw [partitionStep] at stepped
      split at stepped
      · rename_i statement rest isPrune
        obtain rfl := Option.some.inj stepped
        refine ⟨⟨stocked, paired_set _ _ paired j rest fun cutoff isCutoff other member => ?_⟩, iff_of_true List.prefix_rfl trivial⟩
        exact paired.bounded j _ cutoff isPrune isCutoff other (List.mem_cons_of_mem _ member)
      · cases stepped
  | aborts j =>
      obtain rfl := Option.some.inj stepped
      exact ⟨⟨stocked, paired_erase _ _ paired j⟩, iff_of_true List.prefix_rfl trivial⟩

theorem no_step_unraced (s : Partitions) (cutoffs : List Int) (event : PartitionEvent)
    (none : partitionStep utcMidnight retentionDays s event = none) : Unraced s cutoffs event := by
  cases event with
  | runs j =>
      intro cutoff rest _ isPrune
      rw [partitionStep, isPrune] at none
      cases none
  | _ => trivial

theorem live_along (s : Partitions) (cutoffs : List Int) (events : List PartitionEvent) (retained : Retained s cutoffs) :
    LiveAlong retentionDays s cutoffs events ↔ AllUnraced retentionDays s cutoffs events := by
  induction events generalizing s cutoffs with
  | nil => exact Iff.rfl
  | cons event rest ih =>
      rw [LiveAlong, AllUnraced]
      cases stepped : partitionStep utcMidnight retentionDays s event with
      | none =>
          refine iff_of_true (fun _ impossible => by cases impossible) ⟨no_step_unraced retentionDays s cutoffs event stepped, ?_⟩
          exact fun _ impossible => by cases impossible
      | some next =>
          obtain ⟨retained', unraced⟩ := partition_step_kept retentionDays s next cutoffs event retained stepped
          have tail := ih next _ retained'
          constructor
          · intro along
            obtain ⟨keeps, later⟩ := along next rfl
            refine ⟨unraced.mp keeps, fun other same => ?_⟩
            cases same
            exact tail.mp later
          · rintro ⟨here, later⟩ other same
            cases same
            exact ⟨unraced.mpr here, tail.mpr (later next rfl)⟩

def Advances (s next : Partitions) (j : Nat) : Prop :=
  ∃ count, (List.replicate count (PartitionEvent.runs j)).foldlM (partitionStep utcMidnight retentionDays) s = some next

theorem advances_trans (s middle next : Partitions) (j : Nat) (first : Advances retentionDays s middle j)
    (second : Advances retentionDays middle next j) : Advances retentionDays s next j := by
  obtain ⟨count, ran⟩ := first
  obtain ⟨more, rest⟩ := second
  refine ⟨count + more, ?_⟩
  rw [← List.replicate_append_replicate, List.foldlM_append, ran]
  exact rest

theorem advances_step (s : Partitions) (j : Nat) (statement : Statement) (rest : List Statement)
    (isPrune : s.prunes[j]? = some (statement :: rest)) :
    Advances retentionDays s { (execute utcMidnight s statement).1 with prunes := s.prunes.set j ((execute utcMidnight s statement).2 ++ rest) } j := by
  refine ⟨1, ?_⟩
  rw [List.replicate_one, List.foldlM_cons, partitionStep, isPrune]
  rfl

theorem set_here (prunes : List (List Statement)) (j : Nat) (statements others : List Statement)
    (isPrune : prunes[j]? = some statements) : (prunes.set j others)[j]? = some others :=
  List.getElem?_set_self (List.getElem?_eq_some_iff.mp isPrune).1

theorem drops_carried_out (days : List Int) (s : Partitions) (j : Nat) (rest : List Statement) (stocked : Stocked s)
    (isPrune : s.prunes[j]? = some (days.map .drop ++ rest)) :
    ∃ next, Advances retentionDays s next j ∧ next.prunes[j]? = some rest ∧ Stocked next ∧
      next.rows = s.rows.filter fun row => rowDay row ∉ days := by
  induction days generalizing s with
  | nil =>
      refine ⟨s, ⟨0, rfl⟩, isPrune, stocked, (List.filter_eq_self.mpr fun row member => ?_).symm⟩
      exact decide_eq_true List.not_mem_nil
  | cons day days ih =>
      have isPrune' := set_here s.prunes j _ (days.map .drop ++ rest) isPrune
      obtain ⟨next, ran, left, stocked', rows⟩ := ih { s.dropTable utcMidnight day with
        prunes := s.prunes.set j (days.map .drop ++ rest) } (execute_stocked s (.drop day) stocked) isPrune'
      refine ⟨next, advances_trans retentionDays _ _ _ j (advances_step retentionDays s j _ _ isPrune) ran, left, stocked', ?_⟩
      have here : (s.dropTable utcMidnight day).rows = s.rows.filter fun row => rowDay row ≠ day := drop_table_rows s day
      rw [rows, here, List.filter_filter]
      refine List.filter_congr fun row _ => ?_
      rw [Bool.eq_iff_iff]
      simp only [Bool.and_eq_true, decide_eq_true_eq, List.mem_cons, not_or]
      exact and_comm

theorem expiry_carried_out (s : Partitions) (j : Nat) (cutoff : Int) (stocked : Stocked s)
    (isPrune : s.prunes[j]? = some [.expire cutoff]) (late : ∀ row ∈ s.rows, dayOf cutoff ≤ rowDay row) :
    ∃ next, Advances retentionDays s next j ∧ next.prunes[j]? = some [] ∧ next.rows = s.rows.filter (storedTime cutoff ≤ ·) := by
  have looked := advances_step retentionDays s j _ _ isPrune
  by_cases present : dayOf cutoff ∈ s.partitions
  · let day := dayOf cutoff
    let found : Partitions := { s with prunes := s.prunes.set j [.delete cutoff, .dropEmpty day] }
    let deleted : Partitions := { s with rows := s.rows.filter (storedTime cutoff ≤ ·), prunes := s.prunes.set j [.dropEmpty day] }
    have finds : Advances retentionDays s found j := by
      simpa only [execute, if_pos present, List.append_nil] using looked
    have deletes : Advances retentionDays found deleted j := by
      have step := advances_step retentionDays found j _ _ (set_here s.prunes j _ _ isPrune)
      simpa only [execute, found, List.nil_append, List.set_set] using step
    have before := advances_trans retentionDays s found deleted j finds deletes
    have counts := advances_step retentionDays deleted j _ _ (set_here s.prunes j _ _ isPrune)
    by_cases empty : day ∈ deleted.partitions ∧ ∀ row ∈ deleted.rows, ¬ InPartition utcMidnight day row
    · let counted : Partitions := { deleted with prunes := s.prunes.set j [.drop day] }
      have isCounted : Advances retentionDays deleted counted j := by
        simpa only [execute, if_pos empty, deleted, List.append_nil, List.set_set] using counts
      have drops := advances_step retentionDays counted j _ _ (set_here s.prunes j _ _ isPrune)
      have all := advances_trans retentionDays s deleted counted j before isCounted
      refine ⟨_, advances_trans retentionDays s counted _ j all drops, set_here counted.prunes j _ [] (set_here s.prunes j _ _ isPrune), ?_⟩
      show counted.rows.filter _ = deleted.rows
      exact List.filter_eq_self.mpr fun row member => decide_eq_true (empty.2 row member)
    · let counted : Partitions := { deleted with prunes := s.prunes.set j [] }
      have isCounted : Advances retentionDays deleted counted j := by
        simpa only [execute, if_neg empty, deleted, List.append_nil, List.set_set] using counts
      exact ⟨counted, advances_trans retentionDays s deleted counted j before isCounted, set_here s.prunes j _ [] isPrune, rfl⟩
  · simp only [execute, if_neg present, List.append_nil] at looked
    refine ⟨_, looked, set_here s.prunes j _ [] isPrune, (List.filter_eq_self.mpr fun row member => ?_).symm⟩
    have ordered := late row member
    have apart : rowDay row ≠ dayOf cutoff := fun same => present (same ▸ stocked row member)
    exact decide_eq_true (later_day_stored row cutoff (by omega))

theorem prune_carried_out (s : Partitions) (stocked : Stocked s) (now : Int) (positive : 0 < retentionDays) :
    ∃ started next, partitionStep utcMidnight retentionDays s (.prune now) = some started ∧
      Advances retentionDays started next s.prunes.length ∧ next.prunes[s.prunes.length]? = some [] ∧
      next.rows = s.rows.filter (storedTime (cutoffOf retentionDays now) ≤ ·) := by
  let cutoff := cutoffOf retentionDays now
  let started : Partitions := { s with prunes := s.prunes ++ [[.select (dayOf cutoff), .expire cutoff]] }
  have begins : partitionStep utcMidnight retentionDays s (.prune now) = some started := by
    rw [partitionStep, pruneOldPartitions, if_neg (by omega)]
  have isPrune : started.prunes[s.prunes.length]? = some [.select (dayOf cutoff), .expire cutoff] := List.getElem?_concat_length
  let selected : Partitions := { started with
    prunes := started.prunes.set s.prunes.length ((s.partitions.filter (· < dayOf cutoff)).map .drop ++ [.expire cutoff]) }
  have chosen : Advances retentionDays started selected s.prunes.length := advances_step retentionDays started _ _ _ isPrune
  obtain ⟨middle, drops, left, stocked', rows⟩ := drops_carried_out retentionDays (s.partitions.filter (· < dayOf cutoff)) selected
    s.prunes.length [.expire cutoff] stocked (set_here started.prunes _ _ _ isPrune)
  have late : ∀ row ∈ middle.rows, dayOf cutoff ≤ rowDay row := by
    intro row member
    rw [rows] at member
    obtain ⟨inside, kept⟩ := List.mem_filter.mp member
    by_contra early
    exact of_decide_eq_true kept (List.mem_filter.mpr ⟨stocked row inside, decide_eq_true (by omega)⟩)
  obtain ⟨next, expired, done, live⟩ := expiry_carried_out retentionDays middle s.prunes.length cutoff stocked' left late
  have whole := advances_trans retentionDays _ _ _ _ (advances_trans retentionDays _ _ _ _ chosen drops) expired
  refine ⟨started, next, begins, whole, done, ?_⟩
  rw [live, rows, List.filter_filter]
  refine List.filter_congr fun row _ => ?_
  rw [Bool.and_eq_left_iff_imp]
  intro kept
  have day := stored_day row cutoff (of_decide_eq_true kept)
  refine decide_eq_true fun member => ?_
  have earlier := of_decide_eq_true (List.mem_filter.mp member).2
  omega

theorem live_at (s before next : Partitions) (cutoffs : List Int) (events : List PartitionEvent) (event : PartitionEvent)
    (along : LiveAlong retentionDays s cutoffs (events ++ [event]))
    (ran : events.foldlM (partitionStep utcMidnight retentionDays) s = some before) (stepped : partitionStep utcMidnight retentionDays before event = some next) :
    KeepsLive before next (events.foldl (cutoffStep retentionDays) cutoffs) event := by
  induction events generalizing s cutoffs with
  | nil =>
      obtain rfl := Option.some.inj ran
      exact (along next stepped).1
  | cons first rest ih =>
      rw [List.foldlM_cons, Option.bind_eq_bind, Option.bind_eq_some_iff] at ran
      obtain ⟨middle, began, ran⟩ := ran
      exact ih middle _ (along middle began).2 ran

theorem run_stocked (s next : Partitions) (cutoffs : List Int) (events : List PartitionEvent) (retained : Retained s cutoffs)
    (ran : events.foldlM (partitionStep utcMidnight retentionDays) s = some next) : Stocked next := by
  induction events generalizing s cutoffs with
  | nil =>
      obtain rfl := Option.some.inj ran
      exact retained.stocked
  | cons event rest ih =>
      rw [List.foldlM_cons, Option.bind_eq_bind, Option.bind_eq_some_iff] at ran
      obtain ⟨middle, stepped, ran⟩ := ran
      exact ih middle _ (partition_step_kept retentionDays s middle cutoffs event retained stepped).1 ran

-- The rows of an archive lie in its partitions, and no pruning run is under way at first. A run
-- that nothing disturbs leaves a row older than its cutoff just where it is stored in the
-- microsecond of the cutoff, which the ticks of a DateTime can divide.
theorem retention_spares_live (start : Partitions) (stocked : Stocked start) (idle : start.prunes = []) (events : List PartitionEvent) :
    (LiveAlong retentionDays start [] events ↔ AllUnraced retentionDays start [] events) ∧
      ∀ s now, events.foldlM (partitionStep utcMidnight retentionDays) start = some s → 0 < retentionDays →
        ∃ started next, partitionStep utcMidnight retentionDays s (.prune now) = some started ∧
          Advances retentionDays started next s.prunes.length ∧ next.prunes[s.prunes.length]? = some [] ∧
          ((∀ row ∈ next.rows, cutoffOf retentionDays now ≤ rowTime row) ↔
            ∀ row ∈ s.rows, rowTime row < cutoffOf retentionDays now → row < storedTime (cutoffOf retentionDays now)) := by
  have retained : Retained start [] := ⟨stocked, ⟨by rw [idle]; rfl, fun j statements cutoff _ isCutoff => by cases isCutoff⟩⟩
  refine ⟨live_along retentionDays start [] events retained, fun s now ran positive => ?_⟩
  obtain ⟨started, next, begins, advances, done, rows⟩ :=
    prune_carried_out retentionDays s (run_stocked retentionDays start s [] events retained ran) now positive
  refine ⟨started, next, begins, advances, done, ?_⟩
  rw [rows]
  constructor
  · intro live row member older
    by_contra kept
    have young := live row (List.mem_filter.mpr ⟨member, decide_eq_true (by omega)⟩)
    omega
  · intro divided row member
    obtain ⟨inside, kept⟩ := List.mem_filter.mp member
    by_contra older
    exact absurd (divided row inside (by omega)) (by have := of_decide_eq_true kept; omega)

end

-- With one day of retention, at five o'clock of day 20002: day 20001 is empty when its rows are
-- counted, a flush writes a row of ten o'clock on it, and then it is dropped.
def raceStart : Partitions := ⟨[20001], [], [], [], [], []⟩

def racedFlush : List PartitionEvent :=
  [.prune (20002 * 864000000000 + 5 * 36000000000), .runs 0, .runs 0, .runs 0, .runs 0, .ensure 20001, .check 0, .add 0,
    .copy [20001 * 864000000000 + 10 * 36000000000]]

def racedState : Partitions where
  partitions := [20001]
  rows := [storedTime (20001 * 864000000000 + 10 * 36000000000)]
  createdPartitions := [20001]
  calls := []
  ensured := [20001]
  prunes := [[.drop 20001]]

-- Day 19999 is dropped and the first row of day 20001 deleted, while a flush adds one.
def threeDays : Partitions where
  partitions := [19999, 20001, 20002]
  rows := [storedTime (19999 * 864000000000), storedTime (20001 * 864000000000 + 36000000000),
    storedTime (20001 * 864000000000 + 18 * 36000000000)]
  createdPartitions := []
  calls := []
  ensured := []
  prunes := []

def prunedFlush : List PartitionEvent :=
  [.prune (20002 * 864000000000 + 5 * 36000000000), .runs 0, .ensure 20002, .runs 0, .check 0, .add 0, .copy [20002 * 864000000000],
    .runs 0, .runs 0, .runs 0]

def prunedDays : Partitions where
  partitions := [20001, 20002]
  rows := [storedTime (20001 * 864000000000 + 18 * 36000000000), storedTime (20002 * 864000000000)]
  createdPartitions := [20002]
  calls := []
  ensured := [20002]
  prunes := [[]]

theorem retention_spares_live_three_days :
    LiveAlong 1 threeDays [] prunedFlush ∧
      ∃ started next, partitionStep utcMidnight 1 prunedDays (.prune (20003 * 864000000000)) = some started ∧
        Advances 1 started next 1 ∧ next.prunes[1]? = some [] ∧
        ((∀ row ∈ next.rows, 20002 * 864000000000 ≤ rowTime row) ↔
          ∀ row ∈ prunedDays.rows, rowTime row < 20002 * 864000000000 → row < storedTime (20002 * 864000000000)) := by
  have stocked : Stocked threeDays := by
    rw [Stocked]
    decide
  have spares := retention_spares_live 1 threeDays stocked rfl prunedFlush
  refine ⟨spares.1.mpr ?_, spares.2 prunedDays (20003 * 864000000000) rfl (by decide)⟩
  have go (event : PartitionEvent) (s next : Partitions) (cutoffs : List Int) (rest : List PartitionEvent)
      (stepped : partitionStep utcMidnight 1 s event = some next) (unraced : Unraced s cutoffs event)
      (later : AllUnraced 1 next (cutoffStep 1 cutoffs event) rest) : AllUnraced 1 s cutoffs (event :: rest) := by
    refine ⟨unraced, fun other same => ?_⟩
    rw [stepped] at same
    obtain rfl := Option.some.inj same
    exact later
  have other (s : Partitions) (cutoffs : List Int) (j : Nat) (statement : Statement) (rest : List Statement)
      (isPrune : s.prunes[j]? = some (statement :: rest))
      (apart : ∀ cutoff, cutoffs[j]? = some cutoff → statement ≠ .drop (dayOf cutoff)) : Unraced s cutoffs (.runs j) := by
    intro cutoff tail isCutoff isDrop
    rw [isPrune] at isDrop
    exact absurd (List.cons.inj (Option.some.inj isDrop)).1 (apart cutoff isCutoff)
  refine go _ _ _ _ _ rfl trivial ?_
  refine go _ _ _ _ _ rfl (other _ _ _ _ _ rfl fun _ _ impossible => (by cases impossible)) ?_
  refine go _ _ _ _ _ rfl trivial ?_
  refine go _ _ _ _ _ rfl (other _ _ _ _ _ rfl fun cutoff isCutoff same => ?_) ?_
  · obtain rfl := Option.some.inj isCutoff
    exact absurd (Statement.drop.inj same) (by decide)
  refine go _ _ _ _ _ rfl trivial ?_
  refine go _ _ _ _ _ rfl trivial ?_
  refine go _ _ _ _ _ rfl trivial ?_
  refine go _ _ _ _ _ rfl (other _ _ _ _ _ rfl fun _ _ impossible => (by cases impossible)) ?_
  refine go _ _ _ _ _ rfl (other _ _ _ _ _ rfl fun _ _ impossible => (by cases impossible)) ?_
  exact go _ _ _ _ _ rfl (other _ _ _ _ _ rfl fun _ _ impossible => (by cases impossible)) trivial

theorem live_row_dropped :
    racedFlush.foldlM (partitionStep utcMidnight 1) raceStart = some racedState ∧
      cutoffOf 1 (20002 * 864000000000 + 5 * 36000000000) ≤ 20001 * 864000000000 + 10 * 36000000000 ∧
      (partitionStep utcMidnight 1 racedState (.runs 0)).map Partitions.rows = some [] ∧
      ¬ LiveAlong 1 raceStart [] (racedFlush ++ [.runs 0]) := by
  have ran : racedFlush.foldlM (partitionStep utcMidnight 1) raceStart = some racedState := rfl
  refine ⟨ran, by decide, rfl, fun along => ?_⟩
  have kept := live_at 1 raceStart racedState _ [] racedFlush (.runs 0) along ran rfl _ rfl
  exact absurd kept (by decide)

-- A cutoff of five ticks behind a microsecond, and the row of that microsecond.
example : (execute utcMidnight ⟨[20001], [storedTime (20001 * 864000000000)], [], [], [], []⟩
    (.delete (20001 * 864000000000 + 5))).1.rows = [storedTime (20001 * 864000000000)] := by decide

end RingServer.MseedArchive
