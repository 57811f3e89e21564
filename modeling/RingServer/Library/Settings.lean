import Mathlib.Logic.Function.Basic

set_option autoImplicit false

namespace RingServer.Library

variable {ι : Type} [DecidableEq ι] {β : ι → Type}

def settle (values : (i : ι) → β i) (settings : List ((i : ι) × β i)) : (i : ι) → β i :=
  settings.foldl (fun values setting => Function.update values setting.1 setting.2) values

def lastSetting (i : ι) : List ((i : ι) × β i) → Option (β i)
  | [] => none
  | setting :: rest =>
      match lastSetting i rest with
      | some value => some value
      | none => if same : setting.1 = i then some (same ▸ setting.2) else none

theorem settle_append (values : (i : ι) → β i) (first second : List ((i : ι) × β i)) :
    settle values (first ++ second) = settle (settle values first) second := by
  rw [settle, settle, settle, List.foldl_append]

theorem settle_last (values : (i : ι) → β i) (settings : List ((i : ι) × β i)) (i : ι) :
    settle values settings i = (lastSetting i settings).getD (values i) := by
  induction settings generalizing values with
  | nil => rfl
  | cons setting rest ih =>
      have tail : settle values (setting :: rest) i = settle (Function.update values setting.1 setting.2) rest i := rfl
      rw [tail, ih, lastSetting]
      cases lastSetting i rest with
      | some value => rfl
      | none =>
          obtain ⟨j, value⟩ := setting
          by_cases same : j = i
          · subst same
            simp
          · have other : ¬ i = j := fun reversed => same reversed.symm
            simp [same, other]

theorem settle_twice (values : (i : ι) → β i) (settings : List ((i : ι) × β i)) :
    settle (settle values settings) settings = settle values settings := by
  funext i
  rw [settle_last, settle_last]
  cases lastSetting i settings with
  | none => rfl
  | some value => rfl

end RingServer.Library
