import Mathlib.Data.List.Basic

set_option autoImplicit false

namespace RingServer.Library

section

variable {α : Type}

-- A reader takes pages of batch items from the items behind a cursor. The last item of
-- a page is the next cursor, and the reader goes on where the cursor allows it.
def follow (batch : Nat) (goesOn : α → Bool) : Nat → α → List α → List α
  | 0, _, _ => []
  | fuel + 1, cursor, rest =>
      if goesOn cursor then
        match (rest.take batch).getLast? with
        | none => []
        | some last => rest.take batch ++ follow batch goesOn fuel last (rest.drop batch)
      else []

def Closed (goesOn : α → Bool) (items : List α) : Prop := items.Pairwise fun a b => goesOn b = true → goesOn a = true

variable (batch : Nat) (positive : 0 < batch) (goesOn : α → Bool)

theorem follow_stopped (fuel : Nat) (cursor : α) (rest : List α) (stops : goesOn cursor = false) :
    follow batch goesOn fuel cursor rest = [] := by
  cases fuel with
  | zero => rfl
  | succ fuel => rw [follow, stops, if_neg Bool.false_ne_true]

theorem follow_nil (fuel : Nat) (cursor : α) : follow batch goesOn fuel cursor [] = [] := by
  cases fuel with
  | zero => rfl
  | succ fuel =>
      rw [follow, List.take_nil]
      exact ite_self _

theorem follow_page (fuel : Nat) (cursor last : α) (rest : List α) (goes : goesOn cursor = true)
    (isLast : (rest.take batch).getLast? = some last) :
    follow batch goesOn (fuel + 1) cursor rest = rest.take batch ++ follow batch goesOn fuel last (rest.drop batch) := by
  rw [follow, if_pos goes, isLast]

include positive in
theorem page_last (rest : List α) (nonempty : rest ≠ []) : ∃ last, (rest.take batch).getLast? = some last := by
  cases isLast : (rest.take batch).getLast? with
  | none =>
      rw [List.getLast?_eq_none_iff, List.take_eq_nil_iff] at isLast
      exact absurd isLast (not_or.mpr ⟨by omega, nonempty⟩)
  | some last => exact ⟨last, rfl⟩

include positive in
theorem drop_shorter (rest : List α) (nonempty : rest ≠ []) : (rest.drop batch).length < rest.length := by
  have length := List.length_pos_iff.mpr nonempty
  rw [List.length_drop]
  omega

include positive in
theorem follow_fuel (fuel other : Nat) (cursor : α) (rest : List α) (enough : rest.length ≤ fuel) (otherEnough : rest.length ≤ other) :
    follow batch goesOn fuel cursor rest = follow batch goesOn other cursor rest := by
  induction fuel generalizing other cursor rest with
  | zero => rw [List.length_eq_zero_iff.mp (Nat.le_zero.mp enough), follow_nil, follow_nil]
  | succ fuel ih =>
      by_cases empty : rest = []
      · rw [empty, follow_nil, follow_nil]
      obtain ⟨last, isLast⟩ := page_last batch positive rest empty
      have shorter := drop_shorter batch positive rest empty
      cases other with
      | zero => exact absurd (List.length_eq_zero_iff.mp (Nat.le_zero.mp otherEnough)) empty
      | succ other =>
          cases goes : goesOn cursor with
          | false => rw [follow_stopped batch goesOn _ cursor rest goes, follow_stopped batch goesOn _ cursor rest goes]
          | true =>
              rw [follow_page batch goesOn fuel cursor last rest goes isLast, follow_page batch goesOn other cursor last rest goes isLast,
                ih other last (rest.drop batch) (by omega) (by omega)]

theorem follow_front (fuel : Nat) (cursor : α) (rest : List α) : follow batch goesOn fuel cursor rest <+: rest := by
  induction fuel generalizing cursor rest with
  | zero => exact List.nil_prefix
  | succ fuel ih =>
      cases goes : goesOn cursor with
      | false =>
          rw [follow_stopped batch goesOn _ cursor rest goes]
          exact List.nil_prefix
      | true =>
          cases isLast : (rest.take batch).getLast? with
          | none =>
              rw [follow, if_pos goes, isLast]
              exact List.nil_prefix
          | some last =>
              rw [follow_page batch goesOn fuel cursor last rest goes isLast]
              have more := (List.prefix_append_right_inj (rest.take batch)).mpr (ih last (rest.drop batch))
              rwa [List.take_append_drop] at more

theorem last_in_page (rest : List α) (last : α) (isLast : (rest.take batch).getLast? = some last) :
    ∃ front, rest.take batch = front ++ [last] := by
  obtain ⟨front, split⟩ := List.getLast?_eq_some_iff.mp isLast
  exact ⟨front, split⟩

theorem page_closed (rest : List α) (last : α) (closed : Closed goesOn rest) (isLast : (rest.take batch).getLast? = some last) :
    (goesOn last = true → ∀ item ∈ rest.take batch, goesOn item = true) ∧
      ∀ item ∈ rest.drop batch, goesOn item = true → goesOn last = true := by
  obtain ⟨front, split⟩ := last_in_page batch rest last isLast
  rw [Closed, ← List.take_append_drop batch rest, List.pairwise_append] at closed
  constructor
  · intro goes item member
    rw [split, List.mem_append] at member
    cases member with
    | inl inFront =>
        rw [split, List.pairwise_append] at closed
        exact closed.1.2.2 item inFront last (List.mem_singleton.mpr rfl) goes
    | inr isItem =>
        rw [List.mem_singleton.mp isItem]
        exact goes
  · intro item member
    exact closed.2.2 last (List.mem_of_getLast? isLast) item member

include positive in
theorem follow_keeps (fuel : Nat) (cursor : α) (rest : List α) (enough : rest.length ≤ fuel) (closed : Closed goesOn rest)
    (goes : goesOn cursor = true) (item : α) (member : item ∈ rest) (itemGoes : goesOn item = true) :
    item ∈ follow batch goesOn fuel cursor rest := by
  induction fuel generalizing cursor rest with
  | zero =>
      rw [List.length_eq_zero_iff.mp (Nat.le_zero.mp enough)] at member
      exact absurd member List.not_mem_nil
  | succ fuel ih =>
      have nonempty : rest ≠ [] := List.ne_nil_of_mem member
      obtain ⟨last, isLast⟩ := page_last batch positive rest nonempty
      have shorter := drop_shorter batch positive rest nonempty
      rw [follow_page batch goesOn fuel cursor last rest goes isLast, List.mem_append]
      rw [← List.take_append_drop batch rest, List.mem_append] at member
      refine member.imp_right fun behind => ?_
      have lastGoes := (page_closed batch goesOn rest last closed isLast).2 item behind itemGoes
      exact ih last (rest.drop batch) (by omega) (closed.sublist (List.drop_sublist _ _)) lastGoes behind

include positive in
theorem follow_all (fuel : Nat) (cursor : α) (rest : List α) (enough : rest.length ≤ fuel) (closed : Closed goesOn rest)
    (goes : goesOn cursor = true) : follow batch goesOn fuel cursor rest = rest ↔
      ∀ k, k * batch < rest.length → k * batch ≤ (rest.filter goesOn).length := by
  induction fuel generalizing cursor rest with
  | zero =>
      have empty := List.length_eq_zero_iff.mp (Nat.le_zero.mp enough)
      rw [empty, follow_nil]
      exact ⟨fun _ k below => absurd below (Nat.not_lt_zero _), fun _ => rfl⟩
  | succ fuel ih =>
      by_cases empty : rest = []
      · rw [empty, follow_nil]
        exact ⟨fun _ k below => absurd below (Nat.not_lt_zero _), fun _ => rfl⟩
      obtain ⟨last, isLast⟩ := page_last batch positive rest empty
      have shorter := drop_shorter batch positive rest empty
      have page := page_closed batch goesOn rest last closed isLast
      have split : follow batch goesOn (fuel + 1) cursor rest = rest ↔
          follow batch goesOn fuel last (rest.drop batch) = rest.drop batch := by
        rw [follow_page batch goesOn fuel cursor last rest goes isLast]
        nth_rewrite 3 [← List.take_append_drop batch rest]
        exact List.append_right_inj _
      have lengths : rest.length = min batch rest.length + (rest.drop batch).length := by
        rw [List.length_drop]
        omega
      have counts : (rest.filter goesOn).length = ((rest.take batch).filter goesOn).length + ((rest.drop batch).filter goesOn).length := by
        nth_rewrite 1 [← List.take_append_drop batch rest]
        rw [List.filter_append, List.length_append]
      rw [split]
      cases lastGoes : goesOn last with
      | true =>
          have all : (rest.take batch).filter goesOn = rest.take batch := List.filter_eq_self.mpr (page.1 lastGoes)
          rw [ih last (rest.drop batch) (by omega) (closed.sublist (List.drop_sublist _ _)) lastGoes, counts, all, List.length_take,
            List.length_drop]
          constructor
          · intro each k below
            cases k with
            | zero =>
                rw [Nat.zero_mul]
                exact Nat.zero_le _
            | succ k =>
                rw [Nat.succ_mul] at below ⊢
                have before := each k (by omega)
                omega
          · intro each k below
            have next := each (k + 1) (by rw [Nat.succ_mul]; omega)
            rw [Nat.succ_mul] at next
            omega
      | false =>
          have behind : (rest.drop batch).filter goesOn = [] := by
            refine List.filter_eq_nil_iff.mpr fun item member itemGoes => ?_
            exact Bool.false_ne_true (lastGoes.symm.trans (page.2 item member itemGoes))
          have fewer : ((rest.take batch).filter goesOn).length < (rest.take batch).length := by
            refine List.length_filter_lt_length_iff_exists.mpr ⟨last, List.mem_of_getLast? isLast, ?_⟩
            rw [lastGoes]
            exact Bool.false_ne_true
          rw [follow_stopped batch goesOn fuel last _ lastGoes, counts, behind]
          rw [List.length_take] at fewer
          constructor
          · intro all k below
            rw [← all, List.length_nil] at lengths
            cases k with
            | zero =>
                rw [Nat.zero_mul]
                exact Nat.zero_le _
            | succ k =>
                rw [Nat.succ_mul] at below
                omega
          · intro each
            by_contra left
            have some : 0 < (rest.drop batch).length := List.length_pos_iff.mpr (Ne.symm left)
            have bad := each 1 (by omega)
            rw [List.length_nil] at bad
            omega

theorem drop_behind (before : α → α → Prop) [DecidableRel before] (transitive : ∀ a b c, before a b → before b c → before a c)
    (irreflexive : ∀ a, ¬ before a a) (items : List α) (cursor last : α) (rest : List α)
    (same : rest.Perm (items.filter fun item => before cursor item)) (ordered : rest.Pairwise before)
    (isLast : (rest.take batch).getLast? = some last) :
    (rest.drop batch).Perm (items.filter fun item => before last item) := by
  obtain ⟨front, split⟩ := last_in_page batch rest last isLast
  have lastBehind : before cursor last := by
    have member : last ∈ rest := List.mem_of_mem_take (List.mem_of_getLast? isLast)
    exact of_decide_eq_true (List.mem_filter.mp (same.mem_iff.mp member)).2
  have parts := List.pairwise_append.mp ((List.take_append_drop batch rest).symm ▸ ordered)
  have none : (rest.take batch).filter (fun item => before last item) = [] := by
    refine List.filter_eq_nil_iff.mpr fun item member isBehind => ?_
    have isBehind := of_decide_eq_true isBehind
    rw [split] at member parts
    cases List.mem_append.mp member with
    | inl inFront =>
        have isBefore := (List.pairwise_append.mp parts.1).2.2 item inFront last (List.mem_singleton.mpr rfl)
        exact irreflexive _ (transitive _ _ _ isBefore isBehind)
    | inr isItem =>
        rw [List.mem_singleton.mp isItem] at isBehind
        exact irreflexive _ isBehind
  have all : (rest.drop batch).filter (fun item => before last item) = rest.drop batch :=
    List.filter_eq_self.mpr fun item member => decide_eq_true (parts.2.2 last (List.mem_of_getLast? isLast) item member)
  have cut : rest.filter (fun item => before last item) = rest.drop batch := by
    nth_rewrite 1 [← List.take_append_drop batch rest]
    rw [List.filter_append, none, all, List.nil_append]
  rw [← cut]
  refine (same.filter _).trans (List.Perm.of_eq ?_)
  rw [List.filter_filter]
  refine List.filter_congr fun item _ => ?_
  by_cases isBehind : before last item
  · rw [decide_eq_true isBehind, decide_eq_true (transitive _ _ _ lastBehind isBehind), Bool.and_self]
  · rw [decide_eq_false isBehind, Bool.false_and]

end

end RingServer.Library
