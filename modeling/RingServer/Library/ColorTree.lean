import Mathlib.Algebra.Group.Nat.Defs
import Mathlib.Data.List.Basic
import Mathlib.Data.List.Nodup
import Mathlib.Data.List.Perm.Basic
import Mathlib.Data.Nat.Log

set_option autoImplicit false

namespace RingServer.Library

inductive Side where
  | left
  | right
deriving DecidableEq, Repr

def Side.other : Side → Side
  | .left => .right
  | .right => .left

@[simp] theorem side_other_other (side : Side) : side.other.other = side := by
  cases side <;> rfl

@[simp] theorem side_other_ne (side : Side) : side.other ≠ side := by
  cases side <;> simp [Side.other]

@[simp] theorem side_ne_other (side : Side) : side ≠ side.other := Ne.symm (side_other_ne side)

inductive ColorTree (α : Type) where
  | nil
  | node (red : Bool) (left : ColorTree α) (label : α) (right : ColorTree α)

namespace ColorTree

variable {α : Type}

def labels : ColorTree α → List α
  | .nil => []
  | .node _ left label right => left.labels ++ label :: right.labels

def height : ColorTree α → Nat
  | .nil => 0
  | .node _ left _ right => max left.height right.height + 1

-- The node whose subtree on the given side is near. One statement about join
-- covers a case of a balancing algorithm together with its mirror image.
def join (side : Side) (red : Bool) (near : ColorTree α) (label : α) (far : ColorTree α) : ColorTree α :=
  match side with
  | .left => .node red near label far
  | .right => .node red far label near

theorem join_flip (side : Side) (red : Bool) (near far : ColorTree α) (label : α) :
    join side.other red far label near = join side red near label far := by
  cases side <;> rfl

structure Frame (α : Type) where
  side : Side
  red : Bool
  label : α
  sibling : ColorTree α

def plug (focus : ColorTree α) : List (Frame α) → ColorTree α
  | [] => focus
  | frame :: outer => plug (join frame.side frame.red focus frame.label frame.sibling) outer

def outside : List (Frame α) → List α
  | [] => []
  | frame :: outer => frame.label :: (frame.sibling.labels ++ outside outer)

theorem labels_join (side : Side) (red : Bool) (near far : ColorTree α) (label : α) :
    (join side red near label far).labels.Perm (label :: (near.labels ++ far.labels)) := by
  cases side with
  | left => exact List.perm_middle
  | right => exact List.perm_middle.trans (List.Perm.cons label List.perm_append_comm)

theorem middle_first (label : α) (first second : List α) : (label :: (first ++ second)).Perm (first ++ label :: second) :=
  List.perm_middle.symm

theorem labels_plug (focus : ColorTree α) (frames : List (Frame α)) :
    (plug focus frames).labels.Perm (focus.labels ++ outside frames) := by
  induction frames generalizing focus with
  | nil => simp [plug, outside]
  | cons frame outer ih =>
      refine (ih _).trans ?_
      refine ((labels_join frame.side frame.red focus frame.sibling frame.label).append_right _).trans ?_
      simpa [outside, List.append_assoc] using
        middle_first frame.label focus.labels (frame.sibling.labels ++ outside outer)

-- Rotations and recolourings of the focus change the in-order labels of the
-- whole tree only through the labels of the focus itself.
def before : List (Frame α) → List α
  | [] => []
  | ⟨.left, _, _, _⟩ :: outer => before outer
  | ⟨.right, _, label, sibling⟩ :: outer => before outer ++ (sibling.labels ++ [label])

def after : List (Frame α) → List α
  | [] => []
  | ⟨.left, _, label, sibling⟩ :: outer => label :: (sibling.labels ++ after outer)
  | ⟨.right, _, _, _⟩ :: outer => after outer

theorem labels_plug_split (focus : ColorTree α) (frames : List (Frame α)) :
    (plug focus frames).labels = before frames ++ (focus.labels ++ after frames) := by
  induction frames generalizing focus with
  | nil => simp [plug, before, after]
  | cons frame outer ih =>
      obtain ⟨side, red, label, sibling⟩ := frame
      rw [plug, ih]
      cases side <;> simp [join, labels, before, after, List.append_assoc]

theorem exists_plug (tree : ColorTree α) (label : α) (member : label ∈ tree.labels) :
    ∃ red left right frames, plug (.node red left label right) frames = tree := by
  suffices general : ∀ (tree : ColorTree α) (outer : List (Frame α)), label ∈ tree.labels →
      ∃ red left right frames, plug (.node red left label right) frames = plug tree outer by
    simpa [plug] using general tree [] member
  intro tree
  induction tree with
  | nil => intro outer impossible; simp [labels] at impossible
  | node red left id right leftIh rightIh =>
      intro outer inside
      simp only [labels, List.mem_append, List.mem_cons] at inside
      rcases inside with inLeft | rfl | inRight
      · exact leftIh (⟨.left, red, id, right⟩ :: outer) inLeft
      · exact ⟨red, left, right, outer, rfl⟩
      · exact rightIh (⟨.right, red, id, left⟩ :: outer) inRight

theorem plug_append (focus : ColorTree α) (inner outer : List (Frame α)) :
    plug focus (inner ++ outer) = plug (plug focus inner) outer := by
  induction inner generalizing focus with
  | nil => rfl
  | cons frame rest ih => exact ih _

theorem labels_rotate (side : Side) (upper lower upper' lower' : Bool) (near middle far : ColorTree α) (x y : α) :
    (join side upper' (join side lower' near x middle) y far).labels =
      (join side upper near x (join side lower middle y far)).labels := by
  cases side <;> simp [join, labels, List.append_assoc]

theorem labels_recolor (side : Side) (red red' : Bool) (near far : ColorTree α) (label : α) :
    (join side red near label far).labels = (join side red' near label far).labels := by
  cases side <;> rfl

-- Balanced tree red height: no red node has a red child, the root has the given
-- colour, and every path from the root to a leaf meets height black nodes.
inductive Balanced : ColorTree α → Bool → Nat → Prop where
  | nil : Balanced .nil false 0
  | red (left right : ColorTree α) (label : α) (height : Nat) (leftOk : Balanced left false height)
      (rightOk : Balanced right false height) : Balanced (.node true left label right) true height
  | black (left right : ColorTree α) (label : α) (leftRed rightRed : Bool) (height : Nat)
      (leftOk : Balanced left leftRed height) (rightOk : Balanced right rightRed height) :
      Balanced (.node false left label right) false (height + 1)

theorem balanced_join_red (side : Side) (near far : ColorTree α) (label : α) (red : Bool) (height : Nat) :
    Balanced (join side true near label far) red height ↔
      red = true ∧ Balanced near false height ∧ Balanced far false height := by
  constructor
  · intro balanced
    cases side <;> cases balanced
    · exact ⟨rfl, by assumption, by assumption⟩
    · exact ⟨rfl, by assumption, by assumption⟩
  · rintro ⟨rfl, nearOk, farOk⟩
    cases side
    · exact .red near far label height nearOk farOk
    · exact .red far near label height farOk nearOk

theorem balanced_join_black (side : Side) (near far : ColorTree α) (label : α) (red : Bool) (height : Nat) :
    Balanced (join side false near label far) red height ↔
      red = false ∧ ∃ lower nearRed farRed, height = lower + 1 ∧ Balanced near nearRed lower ∧
        Balanced far farRed lower := by
  constructor
  · intro balanced
    cases side <;> cases balanced
    · exact ⟨rfl, _, _, _, rfl, by assumption, by assumption⟩
    · exact ⟨rfl, _, _, _, rfl, by assumption, by assumption⟩
  · rintro ⟨rfl, lower, nearRed, farRed, rfl, nearOk, farOk⟩
    cases side
    · exact .black near far label nearRed farRed lower nearOk farOk
    · exact .black far near label farRed nearRed lower farOk nearOk

-- Hole frames parentRed height: filling the hole with a balanced tree of this
-- black height restores the whole tree, unless the filling and the parent are
-- both red. A red frame always has a parent frame, so the root stays black.
inductive Hole : List (Frame α) → Bool → Nat → Prop where
  | top (height : Nat) : Hole [] false height
  | red (side : Side) (label : α) (sibling : ColorTree α) (parent : Frame α) (outer : List (Frame α)) (height : Nat)
      (siblingOk : Balanced sibling false height) (outerOk : Hole (parent :: outer) false height) :
      Hole (⟨side, true, label, sibling⟩ :: parent :: outer) true height
  | black (side : Side) (label : α) (sibling : ColorTree α) (outer : List (Frame α)) (siblingRed parentRed : Bool)
      (height : Nat) (siblingOk : Balanced sibling siblingRed height) (outerOk : Hole outer parentRed (height + 1)) :
      Hole (⟨side, false, label, sibling⟩ :: outer) false height

theorem plug_balanced (focus : ColorTree α) (frames : List (Frame α)) (red parentRed : Bool) (height : Nat)
    (focusOk : Balanced focus red height) (frameOk : Hole frames parentRed height)
    (compatible : ¬ (red = true ∧ parentRed = true)) :
    ∃ total, Balanced (plug focus frames) (red && frames.isEmpty) total := by
  induction frameOk generalizing focus red with
  | top height => exact ⟨height, by simpa [plug] using focusOk⟩
  | red side label sibling parent outer height siblingOk outerOk ih =>
      have black : red = false := by
        cases red
        · rfl
        · exact absurd ⟨rfl, rfl⟩ compatible
      subst black
      simpa [plug] using ih (join side true focus label sibling) true
        ((balanced_join_red side focus sibling label true height).mpr ⟨rfl, focusOk, siblingOk⟩) (by simp)
  | black side label sibling outer siblingRed parentRed height siblingOk outerOk ih =>
      simpa [plug] using ih (join side false focus label sibling) false
        ((balanced_join_black side focus sibling label false (height + 1)).mpr
          ⟨rfl, height, red, siblingRed, rfl, focusOk, siblingOk⟩) (by simp)

theorem balanced_plug (focus : ColorTree α) (frames : List (Frame α)) (total : Nat)
    (balanced : Balanced (plug focus frames) false total) :
    ∃ red parentRed height, Balanced focus red height ∧ Hole frames parentRed height ∧
      ¬ (red = true ∧ parentRed = true) := by
  induction frames generalizing focus with
  | nil => exact ⟨false, false, total, balanced, .top total, by simp⟩
  | cons frame outer ih =>
      obtain ⟨side, color, label, sibling⟩ := frame
      obtain ⟨red, parentRed, height, joined, outerOk, compatible⟩ := ih (join side color focus label sibling) balanced
      cases color with
      | true =>
          obtain ⟨rfl, focusOk, siblingOk⟩ := (balanced_join_red side focus sibling label red height).mp joined
          have parentBlack : parentRed = false := by
            cases parentRed
            · rfl
            · exact absurd ⟨rfl, rfl⟩ compatible
          subst parentBlack
          cases outer with
          | nil =>
              have rootRed := ((balanced_join_red side focus sibling label false total).mp balanced).1
              cases rootRed
          | cons parent rest =>
              exact ⟨false, true, height, focusOk, .red side label sibling parent rest height siblingOk outerOk, by simp⟩
      | false =>
          obtain ⟨rfl, lower, focusRed, siblingRed, rfl, focusOk, siblingOk⟩ :=
            (balanced_join_black side focus sibling label red height).mp joined
          exact ⟨focusRed, false, lower, focusOk, .black side label sibling outer siblingRed parentRed lower siblingOk outerOk,
            by simp⟩

theorem balanced_size (tree : ColorTree α) (red : Bool) (height : Nat) (balanced : Balanced tree red height) :
    2 ^ height ≤ tree.labels.length + 1 := by
  induction balanced with
  | nil => simp [labels]
  | red left right label height _ _ leftSize _ =>
      simp only [labels, List.length_append, List.length_cons]
      omega
  | black left right label leftRed rightRed height _ _ leftSize rightSize =>
      simp only [labels, List.length_append, List.length_cons, Nat.pow_succ]
      omega

theorem balanced_height (tree : ColorTree α) (red : Bool) (height : Nat) (balanced : Balanced tree red height) :
    tree.height ≤ 2 * height + red.toNat := by
  induction balanced with
  | nil => simp [ColorTree.height]
  | red left right label height _ _ leftHeight rightHeight =>
      simp only [ColorTree.height, Bool.toNat_false, Bool.toNat_true] at *
      omega
  | black left right label leftRed rightRed height _ _ leftHeight rightHeight =>
      have leftBit := Bool.toNat_le leftRed
      have rightBit := Bool.toNat_le rightRed
      simp only [ColorTree.height, Bool.toNat_false] at *
      omega

theorem black_root_height (tree : ColorTree α) (height : Nat) (balanced : Balanced tree false height) :
    tree.height ≤ 2 * Nat.log 2 (tree.labels.length + 1) := by
  have size := balanced_size tree false height balanced
  have logBound : height ≤ Nat.log 2 (tree.labels.length + 1) := Nat.le_log_of_pow_le (by omega) size
  have bound := balanced_height tree false height balanced
  simp only [Bool.toNat_false] at bound
  omega

theorem height_le_labels (tree : ColorTree α) : tree.height ≤ tree.labels.length := by
  induction tree with
  | nil => simp [height]
  | node red left label right leftBound rightBound =>
      simp only [height, labels, List.length_append, List.length_cons]
      omega

theorem frames_le_labels (focus : ColorTree α) (frames : List (Frame α)) :
    frames.length + focus.labels.length ≤ (plug focus frames).labels.length := by
  induction frames generalizing focus with
  | nil => simp [plug]
  | cons frame outer ih =>
      have step := ih (join frame.side frame.red focus frame.label frame.sibling)
      have joined := (labels_join frame.side frame.red focus frame.sibling frame.label).length_eq
      simp only [List.length_cons, List.length_append] at joined ⊢
      rw [plug]
      omega

end ColorTree

end RingServer.Library
