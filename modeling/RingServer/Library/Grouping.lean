import Mathlib.Data.List.Induction
import Mathlib.Data.List.Nodup

set_option autoImplicit false

namespace RingServer.Library.Grouping

variable {α κ : Type} [DecidableEq κ] (key : α → κ)

-- A dictionary of lists, with its keys in the order in which they came.
def add (groups : List (κ × List α)) (item : α) : List (κ × List α) :=
  if groups.any fun group => group.1 = key item then
    groups.map fun group => if group.1 = key item then (group.1, group.2 ++ [item]) else group
  else groups ++ [(key item, [item])]

def group (items : List α) : List (κ × List α) := items.foldl (add key) []

def keys (items : List α) : List κ := (items.map key).eraseDups

def having (items : List α) (k : κ) : List α := items.filter fun item => key item = k

theorem having_append (items : List α) (item : α) (k : κ) :
    having key (items ++ [item]) k = if k = key item then having key items k ++ [item] else having key items k := by
  rw [having, List.filter_append]
  split
  · next same => rw [List.filter_singleton, decide_eq_true same.symm]; rfl
  · next other => rw [List.filter_singleton, decide_eq_false fun same => other same.symm]; exact List.append_nil _

theorem key_member (items : List α) (k : κ) : k ∈ keys key items ↔ ∃ item ∈ items, key item = k := by
  rw [keys, List.mem_eraseDups, List.mem_map]

theorem keys_append (items : List α) (item : α) :
    keys key (items ++ [item]) = if key item ∈ keys key items then keys key items else keys key items ++ [key item] := by
  rw [keys, List.map_append, List.eraseDups_append, List.map_singleton, List.removeAll]
  split
  · next member =>
    have known : (items.map key).elem (key item) = true := List.elem_iff.mpr (List.mem_eraseDups.mp member)
    rw [List.filter_singleton, known]
    exact List.append_nil _
  · next fresh =>
    have unknown : (items.map key).elem (key item) = false := by
      rw [Bool.eq_false_iff]
      exact fun known => fresh (List.mem_eraseDups.mpr (List.elem_iff.mp known))
    rw [List.filter_singleton, unknown]
    rfl

theorem group_groups (items : List α) : group key items = (keys key items).map fun k => (k, having key items k) := by
  induction items using List.reverseRecOn with
  | nil => rfl
  | append_singleton items item ih =>
      have isKnown : ((keys key items).map fun k => (k, having key items k)).any (fun group => group.1 = key item) = true ↔
          key item ∈ keys key items := by
        rw [List.any_map, List.any_eq_true]
        constructor
        · rintro ⟨k, member, same⟩
          exact of_decide_eq_true same ▸ member
        · exact fun member => ⟨key item, member, decide_eq_true rfl⟩
      rw [group, List.foldl_append, List.foldl_cons, List.foldl_nil]
      change add key (group key items) item = _
      rw [ih, add, keys_append]
      by_cases member : key item ∈ keys key items
      · rw [if_pos (isKnown.mpr member), if_pos member, List.map_map]
        apply List.map_congr_left
        intro k _
        rw [having_append]
        by_cases same : k = key item
        · simp only [Function.comp_apply, if_pos same]
        · simp only [Function.comp_apply, if_neg same]
      · rw [if_neg fun known => member (isKnown.mp known), if_neg member, List.map_append, List.map_singleton, having_append, if_pos rfl]
        congr 1
        · apply List.map_congr_left
          intro k inside
          have other : k ≠ key item := fun same => member (same ▸ inside)
          rw [having_append, if_neg other]
        · have fresh : having key items (key item) = [] := by
            rw [having, List.filter_eq_nil_iff]
            intro other inside same
            exact member ((key_member key items _).mpr ⟨other, inside, of_decide_eq_true same⟩)
          rw [fresh]
          rfl

theorem groups_perm (names : List κ) (distinct : names.Nodup) (items : List α) (all : ∀ item ∈ items, key item ∈ names) :
    (names.flatMap (having key items)).Perm items := by
  induction names generalizing items with
  | nil =>
      cases items with
      | nil => exact .refl _
      | cons item items => exact absurd (all item List.mem_cons_self) List.not_mem_nil
  | cons k names ih =>
      obtain ⟨fresh, distinct⟩ := List.nodup_cons.mp distinct
      let others := items.filter fun item => !decide (key item = k)
      have apart : ∀ item ∈ others, key item ∈ names := by
        intro item member
        obtain ⟨inside, other⟩ := List.mem_filter.mp member
        rcases List.mem_cons.mp (all item inside) with same | behind
        · rw [decide_eq_true same] at other
          cases other
        · exact behind
      have kept : names.flatMap (having key items) = names.flatMap (having key others) := by
        rw [List.flatMap_def, List.flatMap_def]
        congr 1
        apply List.map_congr_left
        intro name member
        rw [having, having, List.filter_filter]
        apply List.filter_congr
        intro item _
        by_cases same : key item = name
        · have other : key item ≠ k := fun first => fresh (first ▸ same ▸ member)
          rw [decide_eq_true same, decide_eq_false other]
          rfl
        · rw [decide_eq_false same]
          rfl
      rw [List.flatMap_cons, kept]
      exact (List.Perm.append_left _ (ih distinct others apart)).trans (List.filter_append_perm _ items)

theorem keys_nodup (items : List α) : (keys key items).Nodup := by
  induction items using List.reverseRecOn with
  | nil => exact List.nodup_nil
  | append_singleton items item ih =>
      rw [keys_append]
      split
      · exact ih
      · next fresh => exact List.nodup_append_comm.mp (List.nodup_cons.mpr ⟨fresh, ih⟩)

theorem kept_groups_perm (keep : κ → Bool) (items : List α) :
    (((keys key items).filter keep).flatMap (having key items)).Perm (items.filter fun item => keep (key item)) := by
  have kept : ((keys key items).filter keep).flatMap (having key items) =
      ((keys key items).filter keep).flatMap (having key (items.filter fun item => keep (key item))) := by
    rw [List.flatMap_def, List.flatMap_def]
    congr 1
    apply List.map_congr_left
    intro k member
    rw [having, having, List.filter_filter]
    apply List.filter_congr
    intro item _
    by_cases same : key item = k
    · rw [same, (List.mem_filter.mp member).2, Bool.and_true]
    · rw [decide_eq_false same]
      rfl
  rw [kept]
  apply groups_perm key _ ((keys_nodup key items).filter _)
  intro item member
  obtain ⟨inside, isKept⟩ := List.mem_filter.mp member
  exact List.mem_filter.mpr ⟨(key_member key items _).mpr ⟨item, inside, rfl⟩, isKept⟩

end RingServer.Library.Grouping
