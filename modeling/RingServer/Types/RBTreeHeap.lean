import RingServer.Types.RBTree
import Mathlib.Tactic.Common

set_option autoImplicit false

namespace RingServer.RBTree

open Library Library.ColorTree

variable {K V : Type}

@[simp] theorem write_next (tree : RBTree K V) (id : NodeId) (node : RBNode K V) :
    (tree.write id node).next = tree.next := rfl

@[simp] theorem write_root (tree : RBTree K V) (id : NodeId) (node : RBNode K V) :
    (tree.write id node).root = tree.root := rfl

@[simp] theorem write_here (tree : RBTree K V) (id : NodeId) (node : RBNode K V) :
    (tree.write id node).nodes id = node := by
  simp [write]

theorem write_elsewhere (tree : RBTree K V) (id other : NodeId) (node : RBNode K V) (different : other ≠ id) :
    (tree.write id node).nodes other = tree.nodes other := by
  simp [write, different]

theorem write_nodes (tree : RBTree K V) (id other : NodeId) (node : RBNode K V) :
    (tree.write id node).nodes other = if other = id then node else tree.nodes other := by
  by_cases same : other = id
  · subst same; simp
  · simp [write_elsewhere tree id other node same, same]

@[simp] theorem set_parent_next (tree : RBTree K V) (id : NodeId) (parent : Option NodeId) :
    (tree.setParent id parent).next = tree.next := rfl

@[simp] theorem set_parent_root (tree : RBTree K V) (id : NodeId) (parent : Option NodeId) :
    (tree.setParent id parent).root = tree.root := rfl

@[simp] theorem set_child_next (tree : RBTree K V) (id : NodeId) (child : Option NodeId) (side : Side) :
    (tree.setChild id child side).next = tree.next := rfl

@[simp] theorem set_child_root (tree : RBTree K V) (id : NodeId) (child : Option NodeId) (side : Side) :
    (tree.setChild id child side).root = tree.root := rfl

theorem set_parent_nodes (tree : RBTree K V) (id other : NodeId) (parent : Option NodeId) :
    (tree.setParent id parent).nodes other = if other = id then { tree.nodes id with parent := parent } else tree.nodes other :=
  write_nodes tree id other _

theorem set_child_nodes (tree : RBTree K V) (id other : NodeId) (child : Option NodeId) (side : Side) :
    (tree.setChild id child side).nodes other = if other = id then (tree.nodes id).setChild child side else tree.nodes other :=
  write_nodes tree id other _

@[simp] theorem child_set_same (node : RBNode K V) (child : Option NodeId) (side : Side) :
    (node.setChild child side).child side = child := by
  cases side <;> rfl

@[simp] theorem child_set_other (node : RBNode K V) (child : Option NodeId) (side : Side) :
    (node.setChild child side).child side.other = node.child side.other := by
  cases side <;> rfl

@[simp] theorem child_other_set (node : RBNode K V) (child : Option NodeId) (side : Side) :
    (node.setChild child side.other).child side = node.child side := by
  cases side <;> rfl

@[simp] theorem set_child_red (node : RBNode K V) (child : Option NodeId) (side : Side) :
    (node.setChild child side).isRed = node.isRed := by
  cases side <;> rfl

@[simp] theorem set_child_parent (node : RBNode K V) (child : Option NodeId) (side : Side) :
    (node.setChild child side).parent = node.parent := by
  cases side <;> rfl

@[simp] theorem set_child_key (node : RBNode K V) (child : Option NodeId) (side : Side) :
    (node.setChild child side).key = node.key := by
  cases side <;> rfl

@[simp] theorem set_child_data (node : RBNode K V) (child : Option NodeId) (side : Side) :
    (node.setChild child side).data = node.data := by
  cases side <;> rfl

def top : ColorTree NodeId → NodeId
  | .nil => nilId
  | .node _ _ id _ => id

def holder : List (Frame NodeId) → NodeId
  | [] => nilId
  | frame :: _ => frame.label

@[simp] theorem top_nil : top .nil = nilId := rfl

@[simp] theorem top_node (red : Bool) (left right : ColorTree NodeId) (id : NodeId) : top (.node red left id right) = id := rfl

@[simp] theorem top_join (side : Side) (red : Bool) (near far : ColorTree NodeId) (id : NodeId) :
    top (join side red near id far) = id := by
  cases side <;> rfl

structure Cell (nodes : NodeId → RBNode K V) (id : NodeId) (red : Bool) (side : Side) (near far parent : NodeId) : Prop where
  real : id ≠ nilId
  red : (nodes id).isRed = red
  near : (nodes id).child side = some near
  far : (nodes id).child side.other = some far
  parent : (nodes id).parent = some parent

theorem cell_flip (nodes : NodeId → RBNode K V) (id : NodeId) (red : Bool) (side : Side) (near far parent : NodeId)
    (cell : Cell nodes id red side near far parent) : Cell nodes id red side.other far near parent :=
  ⟨cell.real, cell.red, cell.far, by simpa using cell.near, cell.parent⟩

theorem cell_congr (nodes nodes' : NodeId → RBNode K V) (id : NodeId) (red : Bool) (side : Side)
    (near far parent : NodeId) (cell : Cell nodes id red side near far parent) (same : nodes' id = nodes id) :
    Cell nodes' id red side near far parent := by
  obtain ⟨real, isRed, nearOk, farOk, parentOk⟩ := cell
  exact ⟨real, by rw [same]; exact isRed, by rw [same]; exact nearOk, by rw [same]; exact farOk, by rw [same]; exact parentOk⟩

def Linked (nodes : NodeId → RBNode K V) : NodeId → ColorTree NodeId → Prop
  | _, .nil => True
  | parent, .node red left id right =>
      Cell nodes id red .left (top left) (top right) parent ∧ Linked nodes id left ∧ Linked nodes id right

theorem linked_join (nodes : NodeId → RBNode K V) (parent : NodeId) (side : Side) (red : Bool)
    (near far : ColorTree NodeId) (id : NodeId) :
    Linked nodes parent (join side red near id far) ↔
      Cell nodes id red side (top near) (top far) parent ∧ Linked nodes id near ∧ Linked nodes id far := by
  cases side with
  | left => rfl
  | right =>
      constructor
      · rintro ⟨cell, farOk, nearOk⟩
        exact ⟨cell_flip nodes id red .left _ _ parent cell, nearOk, farOk⟩
      · rintro ⟨cell, nearOk, farOk⟩
        exact ⟨cell_flip nodes id red .right _ _ parent cell, farOk, nearOk⟩

def Above (nodes : NodeId → RBNode K V) : NodeId → List (Frame NodeId) → Prop
  | _, [] => True
  | child, frame :: outer =>
      Cell nodes frame.label frame.red frame.side child (top frame.sibling) (holder outer) ∧
        Linked nodes frame.label frame.sibling ∧ Above nodes frame.label outer

theorem linked_congr (nodes nodes' : NodeId → RBNode K V) (parent : NodeId) (tree : ColorTree NodeId)
    (linked : Linked nodes parent tree) (same : ∀ id ∈ tree.labels, nodes' id = nodes id) : Linked nodes' parent tree := by
  induction tree generalizing parent with
  | nil => trivial
  | node red left id right leftIh rightIh =>
      obtain ⟨cell, leftOk, rightOk⟩ := linked
      exact ⟨cell_congr nodes nodes' id red .left _ _ parent cell (same id (by simp [labels])),
        leftIh id leftOk (fun other member => same other (by simp [labels, member])),
        rightIh id rightOk (fun other member => same other (by simp [labels, member]))⟩

theorem linked_reparent (nodes nodes' : NodeId → RBNode K V) (parent parent' : NodeId) (tree : ColorTree NodeId)
    (linked : Linked nodes parent tree) (distinct : tree.labels.Nodup)
    (head : tree ≠ .nil → nodes' (top tree) = { nodes (top tree) with parent := some parent' })
    (same : ∀ id ∈ tree.labels, id ≠ top tree → nodes' id = nodes id) : Linked nodes' parent' tree := by
  cases tree with
  | nil => trivial
  | node red left id right =>
      obtain ⟨cell, leftOk, rightOk⟩ := linked
      have changed := head (by simp)
      simp only [labels, List.nodup_append, List.nodup_cons] at distinct
      simp only [top] at changed same
      refine ⟨⟨cell.real, ?_, ?_, ?_, ?_⟩, linked_congr nodes nodes' id left leftOk ?_, linked_congr nodes nodes' id right rightOk ?_⟩
      · rw [changed]; exact cell.red
      · rw [changed]; exact cell.near
      · rw [changed]; exact cell.far
      · rw [changed]
      · intro other member
        exact same other (by simp [labels, member]) (fun equal => distinct.2.2 other member id (by simp) equal)
      · intro other member
        exact same other (by simp [labels, member]) (fun equal => distinct.2.1.1 (equal ▸ member))

theorem above_congr (nodes nodes' : NodeId → RBNode K V) (child : NodeId) (frames : List (Frame NodeId))
    (above : Above nodes child frames) (same : ∀ id ∈ outside frames, nodes' id = nodes id) : Above nodes' child frames := by
  induction frames generalizing child with
  | nil => trivial
  | cons frame outer ih =>
      obtain ⟨cell, siblingOk, outerOk⟩ := above
      exact ⟨cell_congr nodes nodes' frame.label _ _ _ _ _ cell (same _ (by simp [outside])),
        linked_congr nodes nodes' _ _ siblingOk (fun id member => same id (by simp [outside, member])),
        ih _ outerOk (fun id member => same id (by simp [outside, member]))⟩

theorem above_repoint (nodes nodes' : NodeId → RBNode K V) (child child' : NodeId) (frame : Frame NodeId)
    (outer : List (Frame NodeId)) (above : Above nodes child (frame :: outer))
    (head : nodes' frame.label = (nodes frame.label).setChild (some child') frame.side)
    (same : ∀ id ∈ frame.sibling.labels ++ outside outer, nodes' id = nodes id) : Above nodes' child' (frame :: outer) := by
  obtain ⟨cell, siblingOk, outerOk⟩ := above
  refine ⟨⟨cell.real, ?_, ?_, ?_, ?_⟩, ?_, ?_⟩
  · rw [head]; simpa using cell.red
  · rw [head]; simp
  · rw [head]; simpa using cell.far
  · rw [head]; simpa using cell.parent
  · exact linked_congr nodes nodes' _ _ siblingOk (fun id member => same id (by simp [member]))
  · exact above_congr nodes nodes' _ _ outerOk (fun id member => same id (by simp [member]))

-- The heap holds the tree plug focus frames, with every parent pointer set and
-- the sentinel below every missing child and above the root.
structure Represents (tree : RBTree K V) (focus : ColorTree NodeId) (frames : List (Frame NodeId)) : Prop where
  root : tree.root = some (top (plug focus frames))
  down : Linked tree.nodes (holder frames) focus
  up : Above tree.nodes (top focus) frames
  distinct : (focus.labels ++ outside frames).Nodup
  allocated : ∀ id ∈ focus.labels ++ outside frames, id < tree.next
  fresh : nilId < tree.next
  sentinel : (tree.nodes nilId).isRed = false ∧ (tree.nodes nilId).left = some nilId ∧ (tree.nodes nilId).right = some nilId

theorem represents_inward (tree : RBTree K V) (side : Side) (red : Bool) (near far : ColorTree NodeId) (id : NodeId)
    (frames : List (Frame NodeId)) (rep : Represents tree (join side red near id far) frames) :
    Represents tree near (⟨side, red, id, far⟩ :: frames) := by
  obtain ⟨root, focus, above, distinct, allocated, fresh, sentinel⟩ := rep
  have order : ((join side red near id far).labels ++ outside frames).Perm
      (near.labels ++ outside (⟨side, red, id, far⟩ :: frames)) := by
    refine ((labels_join side red near far id).append_right _).trans ?_
    simpa [outside, List.append_assoc] using
      middle_first id near.labels (far.labels ++ outside frames)
  obtain ⟨cell, nearOk, farOk⟩ := (linked_join tree.nodes (holder frames) side red near far id).mp focus
  exact ⟨root, nearOk, ⟨cell, farOk, by simpa using above⟩, order.nodup_iff.mp distinct,
    fun other member => allocated other (order.mem_iff.mpr member), fresh, sentinel⟩

theorem represents_outward (tree : RBTree K V) (focus : ColorTree NodeId) (frame : Frame NodeId)
    (frames : List (Frame NodeId)) (rep : Represents tree focus (frame :: frames)) :
    Represents tree (join frame.side frame.red focus frame.label frame.sibling) frames := by
  obtain ⟨root, focusOk, above, distinct, allocated, fresh, sentinel⟩ := rep
  have order : ((join frame.side frame.red focus frame.label frame.sibling).labels ++ outside frames).Perm
      (focus.labels ++ outside (frame :: frames)) := by
    refine ((labels_join frame.side frame.red focus frame.sibling frame.label).append_right _).trans ?_
    simpa [outside, List.append_assoc] using
      middle_first frame.label focus.labels (frame.sibling.labels ++ outside frames)
  obtain ⟨cell, siblingOk, outerOk⟩ := above
  exact ⟨root, (linked_join _ _ _ _ _ _ _).mpr ⟨cell, focusOk, siblingOk⟩, by simpa using outerOk,
    order.nodup_iff.mpr distinct, fun other member => allocated other (order.mem_iff.mp member), fresh, sentinel⟩

theorem represents_plug (tree : RBTree K V) (focus : ColorTree NodeId) (frames : List (Frame NodeId))
    (rep : Represents tree focus frames) : Represents tree (plug focus frames) [] := by
  induction frames generalizing focus with
  | nil => exact rep
  | cons frame outer ih => exact ih _ (represents_outward tree focus frame outer rep)

theorem represents_unplug (tree : RBTree K V) (focus : ColorTree NodeId) (frames : List (Frame NodeId))
    (rep : Represents tree (plug focus frames) []) : Represents tree focus frames := by
  induction frames generalizing focus with
  | nil => exact rep
  | cons frame outer ih =>
      exact represents_inward tree frame.side frame.red focus frame.sibling frame.label outer (ih _ rep)

end RingServer.RBTree
