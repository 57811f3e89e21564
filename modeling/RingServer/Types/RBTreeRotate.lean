import RingServer.Types.RBTreeHeap

set_option autoImplicit false

namespace RingServer.RBTree

open Library Library.ColorTree

variable {K V : Type}

-- What no balancing step touches: the entries, the allocation and the sentinel.
structure Kept (old new : RBTree K V) : Prop where
  key : ∀ id, (new.nodes id).key = (old.nodes id).key
  data : ∀ id, (new.nodes id).data = (old.nodes id).data
  next : new.next = old.next
  sentinel : new.nodes nilId = old.nodes nilId

theorem kept_refl (tree : RBTree K V) : Kept tree tree := ⟨fun _ => rfl, fun _ => rfl, rfl, rfl⟩

theorem kept_trans (a b c : RBTree K V) (ab : Kept a b) (bc : Kept b c) : Kept a c :=
  ⟨fun id => (bc.key id).trans (ab.key id), fun id => (bc.data id).trans (ab.data id),
    bc.next.trans ab.next, bc.sentinel.trans ab.sentinel⟩

theorem set_red_kept (tree : RBTree K V) (id : NodeId) (red : Bool) (real : id ≠ nilId) : Kept tree (tree.setRed id red) := by
  refine ⟨fun other => ?_, fun other => ?_, rfl, write_elsewhere tree id nilId _ (Ne.symm real)⟩
  · by_cases same : other = id <;> simp [setRed, write_nodes, same]
  · by_cases same : other = id <;> simp [setRed, write_nodes, same]

theorem top_plug (focus focus' : ColorTree NodeId) (frames : List (Frame NodeId)) (same : top focus = top focus') :
    top (plug focus frames) = top (plug focus' frames) := by
  induction frames generalizing focus focus' with
  | nil => exact same
  | cons frame outer ih => exact ih _ _ (by simp)

theorem top_plug_cons (focus focus' : ColorTree NodeId) (frame : Frame NodeId) (outer : List (Frame NodeId)) :
    top (plug focus (frame :: outer)) = top (plug focus' (frame :: outer)) := top_plug _ _ outer (by simp)

theorem represents_recolor (tree : RBTree K V) (side : Side) (red red' : Bool) (near far : ColorTree NodeId) (id : NodeId)
    (frames : List (Frame NodeId)) (rep : Represents tree (join side red near id far) frames) :
    Represents (tree.setRed id red') (join side red' near id far) frames ∧ Kept tree (tree.setRed id red') := by
  obtain ⟨root, down, up, distinct, allocated, fresh, sentinel⟩ := rep
  obtain ⟨cell, nearOk, farOk⟩ := (linked_join _ _ _ _ _ _ _).mp down
  have recolored := labels_recolor side red red' near far id
  have order := (labels_join side red near far id).append_right (outside frames)
  have split := order.nodup_iff.mp distinct
  simp only [List.cons_append, List.nodup_cons, List.mem_append] at split
  have elsewhere : ∀ other, other ≠ id → (tree.setRed id red').nodes other = tree.nodes other :=
    fun other different => write_elsewhere tree id other _ different
  have here : (tree.setRed id red').nodes id = { tree.nodes id with isRed := red' } := by simp [setRed]
  refine ⟨⟨?_, ?_, ?_, by rw [← recolored]; exact distinct, by rw [← recolored]; exact allocated, fresh, ?_⟩,
    set_red_kept tree id red' cell.real⟩
  · rw [top_plug (join side red' near id far) (join side red near id far) frames (by simp)]
    exact root
  · refine (linked_join _ _ _ _ _ _ _).mpr ⟨⟨cell.real, ?_, ?_, ?_, ?_⟩, ?_, ?_⟩
    · rw [here]
    · rw [here]; exact cell.near
    · rw [here]; exact cell.far
    · rw [here]; exact cell.parent
    · exact linked_congr _ _ _ _ nearOk (fun other member => elsewhere other (fun same => split.1 (by simp [← same, member])))
    · exact linked_congr _ _ _ _ farOk (fun other member => elsewhere other (fun same => split.1 (by simp [← same, member])))
  · rw [top_join] at up ⊢
    exact above_congr _ _ _ _ up (fun other member => elsewhere other (fun same => split.1 (by simp [← same, member])))
  · rw [elsewhere nilId (Ne.symm cell.real)]
    exact sentinel

theorem represents_nodup (tree : RBTree K V) (focus : ColorTree NodeId) (frames : List (Frame NodeId))
    (rep : Represents tree focus frames) : focus.labels.Nodup ∧ (outside frames).Nodup ∧
      ∀ id ∈ focus.labels, id ∉ outside frames := by
  have distinct := rep.distinct
  rw [List.nodup_append] at distinct
  exact ⟨distinct.1, distinct.2.1, fun id inside there => distinct.2.2 id inside id there rfl⟩

theorem linked_real (nodes : NodeId → RBNode K V) (parent : NodeId) (tree : ColorTree NodeId)
    (linked : Linked nodes parent tree) : nilId ∉ tree.labels := by
  induction tree generalizing parent with
  | nil => simp [labels]
  | node red left id right leftIh rightIh =>
      obtain ⟨cell, leftOk, rightOk⟩ := linked
      simp only [labels, List.mem_append, List.mem_cons, not_or]
      exact ⟨leftIh id leftOk, Ne.symm cell.real, rightIh id rightOk⟩

theorem above_real (nodes : NodeId → RBNode K V) (child : NodeId) (frames : List (Frame NodeId))
    (above : Above nodes child frames) : nilId ∉ outside frames := by
  induction frames generalizing child with
  | nil => simp [outside]
  | cons frame outer ih =>
      obtain ⟨cell, siblingOk, outerOk⟩ := above
      simp only [outside, List.mem_cons, List.mem_append, not_or]
      exact ⟨Ne.symm cell.real, linked_real _ _ _ siblingOk, ih frame.label outerOk⟩

theorem top_mem (tree : ColorTree NodeId) (real : top tree ≠ nilId) : top tree ∈ tree.labels := by
  cases tree with
  | nil => exact absurd rfl real
  | node red left id right => simp [top, labels]

def rotated (side : Side) (tree : RBTree K V) (x y middle parent : NodeId) : RBTree K V :=
  let tree := tree.setChild x (some middle) side.other
  let tree := if middle ≠ nilId then tree.setParent middle (some x) else tree
  let tree := tree.setParent y (some parent)
  let tree :=
    if parent = nilId then { tree with root := some y }
    else if (tree.nodes parent).child side = some x then tree.setChild parent (some y) side
    else tree.setChild parent (some y) side.other
  (tree.setChild y (some x) side).setParent x (some y)

theorem rotate_eq (side : Side) (tree : RBTree K V) (x y near far middle parent : NodeId) (red red' : Bool)
    (cellX : Cell tree.nodes x red side near y parent) (cellY : Cell tree.nodes y red' side middle far x)
    (different : x ≠ y) (apart : middle ≠ x) :
    rotate side tree x = some (rotated side tree x y middle parent) := by
  have childY : (tree.setChild x (some middle) side.other).nodes y = tree.nodes y :=
    write_elsewhere tree x y _ (Ne.symm different)
  have parentX : ∀ (next : RBTree K V), next = (if middle ≠ nilId
      then (tree.setChild x (some middle) side.other).setParent middle (some x)
      else tree.setChild x (some middle) side.other) → (next.nodes x).parent = some parent := by
    rintro next rfl
    by_cases empty : middle = nilId
    · simpa [empty, setChild] using cellX.parent
    · simpa [empty, setParent, setChild, write_nodes, Ne.symm apart] using cellX.parent
  have realY : ¬ some y = some nilId := by simpa using cellY.real
  simp only [rotate, cellX.far, if_neg realY, cellY.near, childY, Option.bind_eq_bind, Option.bind_some,
    parentX _ rfl, rotated]

theorem rotated_next (side : Side) (tree : RBTree K V) (x y middle parent : NodeId) :
    (rotated side tree x y middle parent).next = tree.next := by
  simp only [rotated, set_parent_next, set_child_next, apply_ite RBTree.next, ite_self]

theorem rotated_root (side : Side) (tree : RBTree K V) (x y middle parent : NodeId) :
    (rotated side tree x y middle parent).root = if parent = nilId then some y else tree.root := by
  simp only [rotated, set_parent_root, set_child_root, apply_ite RBTree.root, ite_self]

theorem set_parent_key (tree : RBTree K V) (id other : NodeId) (parent : Option NodeId) :
    ((tree.setParent id parent).nodes other).key = (tree.nodes other).key := by
  by_cases same : other = id <;> simp [set_parent_nodes, same]

theorem set_parent_data (tree : RBTree K V) (id other : NodeId) (parent : Option NodeId) :
    ((tree.setParent id parent).nodes other).data = (tree.nodes other).data := by
  by_cases same : other = id <;> simp [set_parent_nodes, same]

theorem set_child_node_key (tree : RBTree K V) (id other : NodeId) (child : Option NodeId) (side : Side) :
    ((tree.setChild id child side).nodes other).key = (tree.nodes other).key := by
  by_cases same : other = id <;> simp [set_child_nodes, same]

theorem set_child_node_data (tree : RBTree K V) (id other : NodeId) (child : Option NodeId) (side : Side) :
    ((tree.setChild id child side).nodes other).data = (tree.nodes other).data := by
  by_cases same : other = id <;> simp [set_child_nodes, same]

theorem rotated_key (side : Side) (tree : RBTree K V) (x y middle parent : NodeId) (id : NodeId) :
    ((rotated side tree x y middle parent).nodes id).key = (tree.nodes id).key := by
  simp only [rotated, set_parent_key, set_child_node_key]
  split_ifs <;> simp only [set_parent_key, set_child_node_key]

theorem rotated_data (side : Side) (tree : RBTree K V) (x y middle parent : NodeId) (id : NodeId) :
    ((rotated side tree x y middle parent).nodes id).data = (tree.nodes id).data := by
  simp only [rotated, set_parent_data, set_child_node_data]
  split_ifs <;> simp only [set_parent_data, set_child_node_data]

theorem rotated_nodes (side hung : Side) (tree : RBTree K V) (x y middle parent : NodeId) (xy : x ≠ y)
    (middleX : middle ≠ x) (middleY : middle ≠ y) (parentX : parent ≠ x) (parentY : parent ≠ y)
    (middleParent : parent ≠ nilId → middle ≠ parent)
    (hangs : parent ≠ nilId → (tree.nodes parent).child hung = some x)
    (onlyOnce : parent ≠ nilId → (tree.nodes parent).child hung.other ≠ some x) (id : NodeId) :
    (rotated side tree x y middle parent).nodes id =
      if id = x then { (tree.nodes x).setChild (some middle) side.other with parent := some y }
      else if id = y then { (tree.nodes y).setChild (some x) side with parent := some parent }
      else if id = middle ∧ middle ≠ nilId then { tree.nodes middle with parent := some x }
      else if id = parent ∧ parent ≠ nilId then (tree.nodes parent).setChild (some y) hung
      else tree.nodes id := by
  let first := tree.setChild x (some middle) side.other
  let second := if middle ≠ nilId then first.setParent middle (some x) else first
  let third := second.setParent y (some parent)
  have secondNodes : ∀ other, second.nodes other =
      if other = middle ∧ middle ≠ nilId then { tree.nodes middle with parent := some x }
      else if other = x then (tree.nodes x).setChild (some middle) side.other else tree.nodes other := by
    intro other
    by_cases empty : middle = nilId
    · simp [second, first, empty, set_child_nodes]
    · simp [second, first, empty, set_child_nodes, set_parent_nodes, middleX]
  have thirdNodes : ∀ other, third.nodes other =
      if other = y then { tree.nodes y with parent := some parent } else second.nodes other := by
    intro other
    simp [third, set_parent_nodes, secondNodes, Ne.symm middleY, Ne.symm xy]
  have final : (rotated side tree x y middle parent).nodes id =
      (((if parent = nilId then { third with root := some y }
        else if (third.nodes parent).child side = some x then third.setChild parent (some y) side
        else third.setChild parent (some y) side.other).setChild y (some x) side).setParent x (some y)).nodes id := rfl
  rw [final]
  by_cases isRoot : parent = nilId
  · simp only [isRoot, if_true, set_parent_nodes, set_child_nodes, thirdNodes, secondNodes]
    by_cases atX : id = x
    · subst atX
      simp [xy, Ne.symm middleX]
    · by_cases atY : id = y
      · subst atY
        simp only [atX, if_false, if_true]
        cases side <;> rfl
      · simp [atX, atY]
  · have parentNode : third.nodes parent = tree.nodes parent := by
      simp [thirdNodes, secondNodes, parentX, parentY, Ne.symm (middleParent isRoot)]
    have repointed : (if (third.nodes parent).child side = some x then third.setChild parent (some y) side
        else third.setChild parent (some y) side.other) = third.setChild parent (some y) hung := by
      rw [parentNode]
      by_cases same : side = hung
      · subst same
        rw [if_pos (hangs isRoot)]
      · have flip : side.other = hung := by cases side <;> cases hung <;> simp_all [Side.other]
        subst flip
        have none := onlyOnce isRoot
        rw [side_other_other] at none
        rw [if_neg none]
    rw [if_neg isRoot, repointed]
    simp only [set_parent_nodes, set_child_nodes, thirdNodes, secondNodes]
    by_cases atX : id = x
    · subst atX
      simp [xy, Ne.symm middleX, Ne.symm parentX]
    · by_cases atY : id = y
      · subst atY
        simp only [atX, Ne.symm parentY, if_false, if_true]
        cases side <;> rfl
      · by_cases atParent : id = parent
        · subst atParent
          simp [atX, atY, Ne.symm (middleParent isRoot), isRoot]
        · simp [atX, atY, atParent]

theorem holder_mem (frames : List (Frame NodeId)) (real : holder frames ≠ nilId) : holder frames ∈ outside frames := by
  cases frames with
  | nil => exact absurd rfl real
  | cons frame outer => simp [holder, outside]

-- The nodes of a rotation, each in one place of the tree; x hangs below its parent on the side hung.
structure Turning (tree : RBTree K V) (a b e : ColorTree NodeId) (x y : NodeId) (frames : List (Frame NodeId)) (hung : Side) : Prop where
  xy : x ≠ y
  notX : ∀ id, id ∈ a.labels ∨ id ∈ b.labels ∨ id ∈ e.labels → id ≠ x
  notY : ∀ id, id ∈ a.labels ∨ id ∈ b.labels ∨ id ∈ e.labels → id ≠ y
  notMiddle : ∀ id, id ∈ a.labels ∨ id ∈ e.labels → id ∉ b.labels
  notOutside : ∀ id, id = x ∨ id = y ∨ id ∈ a.labels ∨ id ∈ b.labels ∨ id ∈ e.labels → id ∉ outside frames
  realX : x ≠ nilId
  realY : y ≠ nilId
  hangs : holder frames ≠ nilId → (tree.nodes (holder frames)).child hung = some x
  onlyOnce : holder frames ≠ nilId → (tree.nodes (holder frames)).child hung.other ≠ some x

theorem above_hangs (nodes : NodeId → RBNode K V) (x : NodeId) (frames : List (Frame NodeId)) (up : Above nodes x frames)
    (real : x ≠ nilId) (apart : x ∉ outside frames) : ∃ hung, (holder frames ≠ nilId → (nodes (holder frames)).child hung = some x) ∧
      (holder frames ≠ nilId → (nodes (holder frames)).child hung.other ≠ some x) ∧
      ∀ frame outer, frames = frame :: outer → frame.side = hung := by
  cases frames with
  | nil => exact ⟨.left, fun real => absurd rfl real, fun real => absurd rfl real, fun _ _ same => by simp at same⟩
  | cons frame outer =>
      obtain ⟨cell, _, _⟩ := up
      refine ⟨frame.side, fun _ => cell.near, fun _ same => ?_, fun _ _ same => by rw [(List.cons.inj same).1]⟩
      have topSibling : top frame.sibling = x := Option.some.inj (cell.far.symm.trans same)
      have member := top_mem frame.sibling (topSibling ▸ real)
      exact apart (by simp [outside, topSibling ▸ member])

theorem rotation_order (side : Side) (cx cy : Bool) (a b e : ColorTree NodeId) (x y : NodeId) :
    (join side cx a x (join side cy b y e)).labels.Perm (x :: y :: (a.labels ++ (b.labels ++ e.labels))) := by
  refine (labels_join side cx a _ x).trans (List.Perm.cons x ?_)
  refine ((labels_join side cy b e y).append_left a.labels).trans ?_
  exact List.perm_middle

theorem turning_of (side : Side) (tree : RBTree K V) (cx cy : Bool) (a b e : ColorTree NodeId) (x y : NodeId)
    (frames : List (Frame NodeId)) (rep : Represents tree (join side cx a x (join side cy b y e)) frames) :
    ∃ hung, Turning tree a b e x y frames hung ∧ b.labels.Nodup ∧ ∀ frame outer, frames = frame :: outer → frame.side = hung := by
  obtain ⟨cellX, _, lowerOk⟩ := (linked_join _ _ _ _ _ _ _).mp rep.down
  obtain ⟨cellY, _, _⟩ := (linked_join _ _ _ _ _ _ _).mp lowerOk
  have order := rotation_order side cx cy a b e x y
  obtain ⟨focusDistinct, _, apart⟩ := List.nodup_append.mp rep.distinct
  have flat := order.nodup_iff.mp focusDistinct
  simp only [List.nodup_cons, List.nodup_append, List.mem_cons, List.mem_append, not_or] at flat
  obtain ⟨⟨xy, xa, xb, xe⟩, ⟨ya, yb, ye⟩, _, ⟨bDistinct, _, be⟩, abe⟩ := flat
  have notOutside : ∀ id, id = x ∨ id = y ∨ id ∈ a.labels ∨ id ∈ b.labels ∨ id ∈ e.labels → id ∉ outside frames :=
    fun id place there => apart id (order.mem_iff.mpr (by simpa using place)) id there rfl
  have up := rep.up
  rw [top_join] at up
  obtain ⟨hung, hangs, onlyOnce, hungSide⟩ := above_hangs tree.nodes x frames up cellX.real (notOutside x (.inl rfl))
  refine ⟨hung, ⟨xy, ?_, ?_, ?_, notOutside, cellX.real, cellY.real, hangs, onlyOnce⟩, bDistinct, hungSide⟩
  · rintro id (inA | inB | inE) rfl
    · exact xa inA
    · exact xb inB
    · exact xe inE
  · rintro id (inA | inB | inE) rfl
    · exact ya inA
    · exact yb inB
    · exact ye inE
  · rintro id (inA | inE) inB
    · exact abe id inA id (.inl inB) rfl
    · exact be id inB id inE rfl

section

variable (side : Side) (tree : RBTree K V) (a b e : ColorTree NodeId) (x y : NodeId) (frames : List (Frame NodeId)) (hung : Side)
  (turning : Turning tree a b e x y frames hung)

include turning

theorem turning_middle : top b ≠ x ∧ top b ≠ y := by
  constructor
  · intro same
    exact turning.notX (top b) (.inr (.inl (top_mem b (same ▸ turning.realX)))) same
  · intro same
    exact turning.notY (top b) (.inr (.inl (top_mem b (same ▸ turning.realY)))) same

theorem turning_parent : holder frames ≠ x ∧ holder frames ≠ y ∧ (holder frames ≠ nilId → top b ≠ holder frames) := by
  refine ⟨fun same => ?_, fun same => ?_, fun real same => ?_⟩
  · exact turning.notOutside x (.inl rfl) (same ▸ holder_mem frames (same ▸ turning.realX))
  · exact turning.notOutside y (.inr (.inl rfl)) (same ▸ holder_mem frames (same ▸ turning.realY))
  · have middle : holder frames ∈ b.labels := same ▸ top_mem b (same ▸ real)
    exact turning.notOutside (holder frames) (.inr (.inr (.inr (.inl middle)))) (holder_mem frames real)

theorem turning_nodes (id : NodeId) : (rotated side tree x y (top b) (holder frames)).nodes id =
    if id = x then { (tree.nodes x).setChild (some (top b)) side.other with parent := some y }
    else if id = y then { (tree.nodes y).setChild (some x) side with parent := some (holder frames) }
    else if id = top b ∧ top b ≠ nilId then { tree.nodes (top b) with parent := some x }
    else if id = holder frames ∧ holder frames ≠ nilId then (tree.nodes (holder frames)).setChild (some y) hung
    else tree.nodes id := by
  obtain ⟨middleX, middleY⟩ := turning_middle tree a b e x y frames hung turning
  obtain ⟨parentX, parentY, middleParent⟩ := turning_parent tree a b e x y frames hung turning
  exact rotated_nodes side hung tree x y (top b) (holder frames) turning.xy middleX middleY parentX parentY middleParent
    turning.hangs turning.onlyOnce id

theorem turning_elsewhere (id : NodeId) (notX : id ≠ x) (notY : id ≠ y) (notMiddle : id = top b → top b = nilId)
    (notParent : id = holder frames → holder frames = nilId) :
    (rotated side tree x y (top b) (holder frames)).nodes id = tree.nodes id := by
  rw [turning_nodes side tree a b e x y frames hung turning, if_neg notX, if_neg notY, if_neg (fun both => both.2 (notMiddle both.1)),
    if_neg (fun both => both.2 (notParent both.1))]

theorem turning_inside (id : NodeId) (place : id ∈ a.labels ∨ id ∈ b.labels ∨ id ∈ e.labels) (notTop : id ∈ b.labels → id ≠ top b) :
    (rotated side tree x y (top b) (holder frames)).nodes id = tree.nodes id := by
  refine turning_elsewhere side tree a b e x y frames hung turning id (turning.notX id place) (turning.notY id place) ?_ ?_
  · intro same
    by_contra real
    have middle : id ∈ b.labels := same ▸ top_mem b real
    exact notTop middle same
  · intro same
    by_contra real
    exact turning.notOutside id (.inr (.inr place)) (same ▸ holder_mem frames real)

theorem turning_top (real : top b ≠ nilId) : (rotated side tree x y (top b) (holder frames)).nodes (top b) =
    { tree.nodes (top b) with parent := some x } := by
  obtain ⟨middleX, middleY⟩ := turning_middle tree a b e x y frames hung turning
  rw [turning_nodes side tree a b e x y frames hung turning, if_neg middleX, if_neg middleY, if_pos ⟨rfl, real⟩]

theorem turning_above (up : Above tree.nodes x frames) (distinct : (outside frames).Nodup)
    (hungSide : ∀ frame outer, frames = frame :: outer → frame.side = hung) :
    Above (rotated side tree x y (top b) (holder frames)).nodes y frames := by
  cases frames with
  | nil => trivial
  | cons frame outer =>
      have parentReal : holder (frame :: outer) ≠ nilId := up.1.real
      obtain ⟨parentX, parentY, middleParent⟩ := turning_parent tree a b e x y (frame :: outer) hung turning
      refine above_repoint _ _ _ _ frame outer up ?_ fun id member => ?_
      · rw [hungSide frame outer rfl]
        have nodes := turning_nodes side tree a b e x y (frame :: outer) hung turning frame.label
        exact (((nodes.trans (if_neg parentX)).trans (if_neg parentY)).trans
          (if_neg fun both => middleParent parentReal both.1.symm)).trans (if_pos ⟨rfl, parentReal⟩)
      · have outsideId : id ∈ outside (frame :: outer) := List.mem_cons_of_mem _ member
        refine turning_elsewhere side tree a b e x y (frame :: outer) hung turning id
          (fun same => turning.notOutside id (.inl same) outsideId) (fun same => turning.notOutside id (.inr (.inl same)) outsideId) ?_ ?_
        · intro same
          by_contra real
          have middle : id ∈ b.labels := same ▸ top_mem b real
          exact turning.notOutside id (.inr (.inr (.inr (.inl middle)))) outsideId
        · intro same
          simp only [outside, List.nodup_cons] at distinct
          have clash : frame.label ∈ frame.sibling.labels ++ outside outer := by
            rw [same] at member
            exact member
          exact absurd clash distinct.1

theorem turning_down (cx cy : Bool) (down : Linked tree.nodes (holder frames) (join side cx a x (join side cy b y e)))
    (distinct : b.labels.Nodup) :
    Linked (rotated side tree x y (top b) (holder frames)).nodes (holder frames) (join side cy (join side cx a x b) y e) := by
  obtain ⟨cellX, aOk, lowerOk⟩ := (linked_join _ _ _ _ _ _ _).mp down
  obtain ⟨cellY, bOk, eOk⟩ := (linked_join _ _ _ _ _ _ _).mp lowerOk
  have nodes := turning_nodes side tree a b e x y frames hung turning
  have hereX := (nodes x).trans (if_pos rfl)
  have hereY := ((nodes y).trans (if_neg (Ne.symm turning.xy))).trans (if_pos rfl)
  have inside := turning_inside side tree a b e x y frames hung turning
  have topNode : b ≠ .nil → (rotated side tree x y (top b) (holder frames)).nodes (top b) =
      { tree.nodes (top b) with parent := some x } := by
    intro some
    refine turning_top side tree a b e x y frames hung turning ?_
    cases b with
    | nil => exact absurd rfl some
    | node red left id right => exact bOk.1.real
  refine (linked_join _ _ _ _ _ _ _).mpr ⟨⟨cellY.real, ?_, ?_, ?_, ?_⟩, (linked_join _ _ _ _ _ _ _).mpr
    ⟨⟨cellX.real, ?_, ?_, ?_, ?_⟩, ?_, ?_⟩, ?_⟩
  · rw [hereY]; simpa using cellY.red
  · rw [hereY]; cases side <;> simp [RBNode.child, RBNode.setChild]
  · rw [hereY]; cases side <;> simpa [RBNode.child, RBNode.setChild, Side.other] using cellY.far
  · rw [hereY]
  · rw [hereX]; simpa using cellX.red
  · rw [hereX]; cases side <;> simpa [RBNode.child, RBNode.setChild, Side.other] using cellX.near
  · rw [hereX]; cases side <;> simp [RBNode.child, RBNode.setChild, Side.other]
  · rw [hereX]
  · exact linked_congr _ _ _ _ aOk fun id member =>
      inside id (.inl member) fun middle => absurd middle (turning.notMiddle id (.inl member))
  · exact linked_reparent _ _ _ _ _ bOk distinct topNode fun id member notTop => inside id (.inr (.inl member)) fun _ => notTop
  · exact linked_congr _ _ _ _ eOk fun id member =>
      inside id (.inr (.inr member)) fun middle => absurd middle (turning.notMiddle id (.inr member))

end

theorem rotate_represents (side : Side) (tree : RBTree K V) (cx cy : Bool) (a b e : ColorTree NodeId) (x y : NodeId)
    (frames : List (Frame NodeId)) (rep : Represents tree (join side cx a x (join side cy b y e)) frames) :
    ∃ next, rotate side tree x = some next ∧
      Represents next (join side cy (join side cx a x b) y e) frames ∧ Kept tree next := by
  obtain ⟨hung, turning, bDistinct, hungSide⟩ := turning_of side tree cx cy a b e x y frames rep
  obtain ⟨root, down, up, distinct, allocated, fresh, sentinel⟩ := rep
  obtain ⟨cellX, _, lowerOk⟩ := (linked_join _ _ _ _ _ _ _).mp down
  obtain ⟨cellY, _, _⟩ := (linked_join _ _ _ _ _ _ _).mp lowerOk
  rw [top_join] at cellX up
  have rotatedLabels := labels_rotate side cx cy cy cx a b e x y
  have outsideDistinct := (List.nodup_append.mp distinct).2.1
  have middleX := (turning_middle tree a b e x y frames hung turning).1
  have nilKept := turning_elsewhere side tree a b e x y frames hung turning nilId (Ne.symm turning.realX) (Ne.symm turning.realY)
    Eq.symm Eq.symm
  have above := turning_above side tree a b e x y frames hung turning up outsideDistinct hungSide
  refine ⟨_, rotate_eq side tree x y (top a) (top e) (top b) (holder frames) cx cy cellX cellY turning.xy middleX,
    ⟨?_, turning_down side tree a b e x y frames hung turning cx cy down bDistinct, ?_, by rw [rotatedLabels]; exact distinct,
      by rw [rotatedLabels, rotated_next]; exact allocated, by rw [rotated_next]; exact fresh, ?_⟩,
    ⟨rotated_key side tree x y _ _, rotated_data side tree x y _ _, rotated_next side tree x y _ _, nilKept⟩⟩
  · rw [rotated_root]
    cases frames with
    | nil => simp [holder, plug]
    | cons frame outer => rw [if_neg (by simpa [holder] using up.1.real), root, top_plug_cons]
  · rw [top_join]
    exact above
  · rw [nilKept]
    exact sentinel

end RingServer.RBTree
