import RingServer.Types.RBTreeDelete
import Mathlib.Tactic.Ring

set_option autoImplicit false

namespace RingServer.RBTree

open Library Library.ColorTree

variable {K V : Type}

structure SameEntries (old new : RBTree K V) : Prop where
  key : ∀ id, (new.nodes id).key = (old.nodes id).key
  data : ∀ id, (new.nodes id).data = (old.nodes id).data
  next : new.next = old.next

theorem same_entries_trans (a b c : RBTree K V) (ab : SameEntries a b) (bc : SameEntries b c) : SameEntries a c :=
  ⟨fun id => (bc.key id).trans (ab.key id), fun id => (bc.data id).trans (ab.data id), bc.next.trans ab.next⟩

theorem same_entries_of_kept (a b : RBTree K V) (kept : Kept a b) : SameEntries a b := ⟨kept.key, kept.data, kept.next⟩

theorem set_parent_entries (tree : RBTree K V) (id : NodeId) (parent : Option NodeId) :
    SameEntries tree (tree.setParent id parent) :=
  ⟨fun other => set_parent_key tree id other parent, fun other => set_parent_data tree id other parent, rfl⟩

theorem set_child_entries (tree : RBTree K V) (id : NodeId) (child : Option NodeId) (side : Side) :
    SameEntries tree (tree.setChild id child side) :=
  ⟨fun other => set_child_node_key tree id other child side, fun other => set_child_node_data tree id other child side, rfl⟩

def innerSide : List (Frame NodeId) → Side
  | [] => .left
  | frame :: _ => frame.side

structure Transplanted (tree next : RBTree K V) (v : NodeId) (frames : List (Frame NodeId)) : Prop where
  entries : SameEntries tree next
  root : next.root = if holder frames = nilId then some v else tree.root
  moved : next.nodes v = { tree.nodes v with parent := some (holder frames) }
  above : holder frames ≠ nilId →
    next.nodes (holder frames) = (tree.nodes (holder frames)).setChild (some v) (innerSide frames)
  elsewhere : ∀ id, id ≠ v → (id = holder frames → id = nilId) → next.nodes id = tree.nodes id

theorem transplant_spec (tree : RBTree K V) (u v : NodeId) (frames : List (Frame NodeId)) (real : u ≠ nilId)
    (parent : (tree.nodes u).parent = some (holder frames)) (up : Above tree.nodes u frames) (inner : u ∉ outside frames)
    (apart : holder frames ≠ nilId → v ≠ holder frames) :
    ∃ next, transplant tree u v = some next ∧ Transplanted tree next v frames := by
  cases frames with
  | nil =>
      refine ⟨({ tree with root := some v } : RBTree K V).setParent v (some nilId), ?_, ?_⟩
      · simp only [holder] at parent
        simp [transplant, parent]
      · exact ⟨⟨fun id => set_parent_key _ _ id _, fun id => set_parent_data _ _ id _, rfl⟩, by simp [holder],
          by simp [setParent, holder], fun impossible => absurd rfl impossible, fun id notV _ => write_elsewhere _ _ _ _ notV⟩
  | cons frame outer =>
      have holderReal : holder (frame :: outer) ≠ nilId := up.1.real
      have apart' : v ≠ frame.label := apart holderReal
      have notHolder : u ≠ frame.label := fun same => inner (by simp [outside, same])
      have sideTest : (tree.nodes frame.label).left = some u ↔ frame.side = .left := by
        obtain ⟨cell, _, _⟩ := up
        cases side : frame.side with
        | left => simpa [RBNode.child, side] using cell.near
        | right =>
            have far := cell.far
            simp only [side, Side.other, RBNode.child] at far
            rw [far]
            have topSibling : top frame.sibling ≠ u := top_ne_of_not_mem frame.sibling u real
              (fun member => inner (by simp [outside, member]))
            simpa using topSibling
      have childSet : (if (tree.nodes frame.label).left = some u then tree.setChild frame.label (some v) .left
          else tree.setChild frame.label (some v) .right) = tree.setChild frame.label (some v) frame.side := by
        cases side : frame.side with
        | left => rw [if_pos (sideTest.mpr side)]
        | right => rw [if_neg (fun left => by simpa [side] using sideTest.mp left)]
      have parentKept : ((tree.setChild frame.label (some v) frame.side).nodes u).parent = some frame.label := by
        rw [set_child_nodes, if_neg notHolder]
        exact parent
      have notNil : ¬ frame.label = nilId := up.1.real
      refine ⟨(tree.setChild frame.label (some v) frame.side).setParent v (some frame.label), ?_, ?_⟩
      · simp only [holder] at parent
        simp only [transplant, parent, Option.bind_eq_bind, Option.bind_some, if_neg notNil, childSet, parentKept]
      · refine ⟨same_entries_trans _ _ _ (set_child_entries tree _ _ _) (set_parent_entries _ _ _), ?_, ?_, fun _ => ?_, ?_⟩
        · simp [holder, notNil]
        · simp [set_parent_nodes, set_child_nodes, apart', holder]
        · simp [set_parent_nodes, set_child_nodes, Ne.symm apart', holder, innerSide]
        · intro id notV onHolder
          have notLabel : id ≠ frame.label := fun same => notNil (same ▸ onHolder same)
          simp [set_parent_nodes, set_child_nodes, notV, notLabel]

theorem transplanted_above (tree next : RBTree K V) (u v : NodeId) (frames : List (Frame NodeId))
    (moved : Transplanted tree next v frames) (up : Above tree.nodes u frames) (distinct : (outside frames).Nodup)
    (apart : v ∉ outside frames) : Above next.nodes v frames := by
  cases frames with
  | nil => trivial
  | cons frame outer =>
      have holderReal : holder (frame :: outer) ≠ nilId := up.1.real
      refine above_repoint _ _ _ _ frame outer up (moved.above holderReal) (fun id member => ?_)
      refine moved.elsewhere id (fun same => apart (same ▸ List.mem_cons_of_mem _ member)) (fun same => ?_)
      rw [same] at member
      exact absurd member (List.nodup_cons.mp distinct).1

theorem transplanted_root (tree next : RBTree K V) (focus focus' : ColorTree NodeId) (frames : List (Frame NodeId))
    (moved : Transplanted tree next (top focus') frames) (rootIs : tree.root = some (top (plug focus frames)))
    (up : Above tree.nodes (top focus) frames) : next.root = some (top (plug focus' frames)) := by
  rw [moved.root]
  cases frames with
  | nil => rfl
  | cons frame outer =>
      have holderReal : holder (frame :: outer) ≠ nilId := up.1.real
      rw [if_neg holderReal, rootIs, top_plug_cons]

theorem top_not_outside (tree : RBTree K V) (part : ColorTree NodeId) (focus : ColorTree NodeId) (frames : List (Frame NodeId))
    (rep : Represents tree focus frames) (inside : part.labels ⊆ focus.labels) : top part ∉ outside frames := by
  intro member
  cases part with
  | nil => exact above_real _ _ _ rep.up member
  | node red left id right =>
      exact (represents_nodup tree focus frames rep).2.2 id (inside (by simp [labels])) member

theorem splice_spec (tree : RBTree K V) (side : Side) (red : Bool) (far : ColorTree NodeId) (z : NodeId)
    (frames : List (Frame NodeId)) (rep : Represents tree (join side red .nil z far) frames) :
    ∃ next, transplant tree z (top far) = some next ∧ SameEntries tree next ∧ Deficient next far frames ∧
      (∀ id, id ≠ top far → (id = holder frames → id = nilId) → next.nodes id = tree.nodes id) := by
  obtain ⟨cell, _, farLinked⟩ := (linked_join _ _ _ _ _ _ _).mp rep.down
  have order := labels_join side red .nil far z
  simp only [labels, List.nil_append] at order
  obtain ⟨focusDistinct, outsideDistinct, disjoint⟩ := represents_nodup tree _ frames rep
  have notOutside : z ∉ outside frames := disjoint z (order.mem_iff.mpr (by simp))
  have up : Above tree.nodes z frames := by simpa using rep.up
  have farInside : far.labels ⊆ (join side red .nil z far).labels := fun id member => order.mem_iff.mpr (by simp [member])
  have topOutside := top_not_outside tree far _ frames rep farInside
  have apart : holder frames ≠ nilId → top far ≠ holder frames := fun real same =>
    topOutside (same ▸ holder_mem frames real)
  obtain ⟨next, done, moved⟩ := transplant_spec tree z (top far) frames cell.real cell.parent up notOutside apart
  have flat := order.nodup_iff.mp focusDistinct
  have repNext : Represents next far frames := by
    refine ⟨?_, ?_, transplanted_above tree next z _ frames moved up outsideDistinct topOutside, ?_, ?_, ?_, ?_⟩
    · exact transplanted_root tree next _ far frames moved rep.root rep.up
    · refine linked_reparent _ _ _ _ _ farLinked (List.nodup_cons.mp flat).2 (fun _ => moved.moved) (fun id member notTop => ?_)
      refine moved.elsewhere id notTop (fun same => ?_)
      by_contra holderReal
      exact disjoint id (farInside member) (same ▸ holder_mem frames (same ▸ holderReal))
    · refine List.nodup_append.mpr ⟨(List.nodup_cons.mp flat).2, outsideDistinct, ?_⟩
      rintro a inFar b inOutside rfl
      exact disjoint a (farInside inFar) inOutside
    · intro id member
      rw [moved.entries.next]
      rcases List.mem_append.mp member with inFar | inOutside
      · exact rep.allocated id (List.mem_append_left _ (farInside inFar))
      · exact rep.allocated id (List.mem_append_right _ inOutside)
    · rw [moved.entries.next]
      exact rep.fresh
    · by_cases isNil : nilId = top far
      · have node := moved.moved
        rw [← isNil] at node
        rw [node]
        exact rep.sentinel
      · rw [moved.elsewhere nilId isNil (fun _ => rfl)]
        exact rep.sentinel
  exact ⟨next, done, moved.entries, ⟨repNext, by rw [moved.moved]⟩, moved.elsewhere⟩

structure Detached (tree : RBTree K V) (lower upper : ColorTree NodeId) (y z : NodeId) (red : Bool)
    (frames : List (Frame NodeId)) : Prop where
  root : tree.root = some (top (plug (.node red lower z upper) frames))
  realY : y ≠ nilId
  realZ : z ≠ nilId
  realLower : top lower ≠ nilId
  red : (tree.nodes z).isRed = red
  left : (tree.nodes z).left = some (top lower)
  parent : (tree.nodes z).parent = some (holder frames)
  right : (tree.nodes y).right = some (top upper)
  lowerOk : Linked tree.nodes z lower
  upperOk : Linked tree.nodes y upper
  up : Above tree.nodes z frames
  distinct : (y :: z :: (lower.labels ++ (upper.labels ++ outside frames))).Nodup
  allocated : ∀ id ∈ y :: z :: (lower.labels ++ (upper.labels ++ outside frames)), id < tree.next
  fresh : nilId < tree.next
  sentinel : (tree.nodes nilId).isRed = false ∧ (tree.nodes nilId).left = some nilId ∧ (tree.nodes nilId).right = some nilId

theorem take_place_spec (tree : RBTree K V) (lower upper : ColorTree NodeId) (y z : NodeId) (red : Bool)
    (frames : List (Frame NodeId)) (detached : Detached tree lower upper y z red frames) :
    ∃ next, takePlace tree z y = some next ∧ Represents next (.node red lower y upper) frames ∧ SameEntries tree next ∧
      next.nodes nilId = tree.nodes nilId := by
  have distinct := detached.distinct
  simp only [List.nodup_cons, List.mem_cons, List.mem_append, List.nodup_append, not_or] at distinct
  obtain ⟨⟨yz, yLower, yUpper, yOutside⟩, ⟨zLower, zUpper, zOutside⟩, lowerDistinct, ⟨upperDistinct, outsideDistinct, upperApart⟩,
    lowerApart⟩ := distinct
  have topLower := top_mem lower detached.realLower
  have holderOutside : holder frames ≠ nilId → holder frames ∈ outside frames := holder_mem frames
  have apart : holder frames ≠ nilId → y ≠ holder frames := fun real same => yOutside (same ▸ holderOutside real)
  obtain ⟨mid, done, moved⟩ := transplant_spec tree z y frames detached.realZ detached.parent detached.up zOutside apart
  have notHolder : ∀ id, id ∉ outside frames → id = holder frames → id = nilId := by
    intro id absent same
    by_contra real
    exact absent (same ▸ holderOutside (same ▸ real))
  have zKept : mid.nodes z = tree.nodes z := moved.elsewhere z (Ne.symm yz) (notHolder z zOutside)
  have lowerNotY : top lower ≠ y := fun same => yLower (same ▸ topLower)
  have lowerNotZ : top lower ≠ z := fun same => zLower (same ▸ topLower)
  have lowerOutside : top lower ∉ outside frames := fun member => lowerApart _ topLower _ (Or.inr member) rfl
  let final := ((mid.setChild y (some (top lower)) .left).setParent (top lower) (some y)).setRed y red
  have finalNodes : ∀ id, final.nodes id =
      if id = y then { tree.nodes y with parent := some (holder frames), left := some (top lower), isRed := red }
      else if id = top lower then { tree.nodes (top lower) with parent := some y } else mid.nodes id := by
    intro id
    have lowerKept := moved.elsewhere (top lower) lowerNotY (notHolder _ lowerOutside)
    by_cases atY : id = y
    · subst atY
      simp [final, setRed, set_parent_nodes, set_child_nodes, Ne.symm lowerNotY, moved.moved, RBNode.setChild]
    · by_cases atLower : id = top lower
      · simp [final, setRed, set_parent_nodes, set_child_nodes, write_nodes, atLower, lowerNotY, lowerKept]
      · simp [final, setRed, set_parent_nodes, set_child_nodes, write_nodes, atY, atLower]
  have finalElsewhere : ∀ id, id ≠ y → id ≠ top lower → id ∉ outside frames → final.nodes id = tree.nodes id := by
    intro id notY notLower notOutside
    rw [finalNodes, if_neg notY, if_neg notLower, moved.elsewhere id notY (notHolder id notOutside)]
  have finalOutside : ∀ id ∈ outside frames, final.nodes id = mid.nodes id := by
    intro id member
    rw [finalNodes, if_neg (fun same : id = y => yOutside (same ▸ member)),
      if_neg (fun same : id = top lower => lowerOutside (same ▸ member))]
  have nilOutside := above_real _ _ _ detached.up
  have nilKept : final.nodes nilId = tree.nodes nilId :=
    finalElsewhere nilId (Ne.symm detached.realY) (Ne.symm detached.realLower) nilOutside
  refine ⟨final, ?_, ⟨?_, ⟨⟨detached.realY, ?_, ?_, ?_, ?_⟩, ?_, ?_⟩, ?_, ?_, ?_, ?_, ?_⟩, ?_, nilKept⟩
  · have zAgain : ∀ other : RBTree K V, other = (mid.setChild y (some (top lower)) .left).setParent (top lower) (some y) →
        (other.nodes z).isRed = red := by
      rintro other rfl
      simp [set_parent_nodes, set_child_nodes, Ne.symm yz, Ne.symm lowerNotZ, zKept, detached.red]
    have leftIs : ((mid.setChild y (some (top lower)) .left).nodes y).left = some (top lower) := by
      simp [setChild, RBNode.setChild]
    simp only [takePlace, done, Option.bind_eq_bind, Option.bind_some, zKept, detached.left, leftIs, zAgain _ rfl, final]
  · have rooted := transplanted_root tree mid (.node red lower z upper) (.node red lower y upper) frames moved detached.root
      detached.up
    exact rooted
  · rw [finalNodes, if_pos rfl]
  · rw [finalNodes, if_pos rfl]; rfl
  · rw [finalNodes, if_pos rfl]; exact detached.right
  · rw [finalNodes, if_pos rfl]
  · refine linked_reparent _ _ _ _ _ detached.lowerOk lowerDistinct (fun _ => ?_) (fun id member notTop => ?_)
    · rw [finalNodes, if_neg lowerNotY, if_pos rfl]
    · exact finalElsewhere id (fun same => yLower (same ▸ member)) notTop (fun there => lowerApart id member id (Or.inr there) rfl)
  · refine linked_congr _ _ _ _ detached.upperOk (fun id member => ?_)
    exact finalElsewhere id (fun same => yUpper (same ▸ member))
      (fun same => lowerApart _ topLower id (Or.inl member) same.symm) (fun there => upperApart id member id there rfl)
  · exact above_congr _ _ _ _ (transplanted_above tree mid z y frames moved detached.up outsideDistinct yOutside) finalOutside
  · simp only [labels, List.append_assoc, List.cons_append]
    refine (List.perm_middle.nodup_iff).mpr ?_
    exact (detached.distinct.sublist (List.Sublist.cons_cons y (List.sublist_cons_self z _)))
  · intro id member
    have sameNext : final.next = tree.next := moved.entries.next
    rw [sameNext]
    refine detached.allocated id ?_
    simp only [labels, List.mem_append, List.mem_cons] at member ⊢
    grind
  · exact moved.entries.next ▸ detached.fresh
  · rw [nilKept]; exact detached.sentinel
  · refine same_entries_trans _ mid _ moved.entries (same_entries_trans _ _ _ (set_child_entries mid _ _ _)
      (same_entries_trans _ _ _ (set_parent_entries _ _ _) (same_entries_of_kept _ _ (set_red_kept _ y red detached.realY))))

theorem before_append (inner outer : List (Frame NodeId)) : before (inner ++ outer) = before outer ++ before inner := by
  induction inner with
  | nil => simp [before]
  | cons frame rest ih =>
      obtain ⟨side, red, label, sibling⟩ := frame
      cases side <;> simp [before, ih, List.append_assoc]

theorem after_append (inner outer : List (Frame NodeId)) : after (inner ++ outer) = after inner ++ after outer := by
  induction inner with
  | nil => simp [after]
  | cons frame rest ih =>
      obtain ⟨side, red, label, sibling⟩ := frame
      cases side <;> simp [after, ih, List.append_assoc]

theorem minimum_from_spec (tree : RBTree K V) (fuel : Nat) (parent : NodeId) (red : Bool) (left right : ColorTree NodeId)
    (id : NodeId) (linked : Linked tree.nodes parent (.node red left id right)) (enough : left.height < fuel) :
    ∃ color y right' inner, minimumFrom tree fuel id = some y ∧
      plug (.node color .nil y right') inner = .node red left id right ∧ before inner = [] := by
  induction left generalizing fuel parent red id right with
  | nil =>
      obtain ⟨rest, rfl⟩ : ∃ rest, fuel = rest + 1 := ⟨fuel - 1, by omega⟩
      have leftIs : (tree.nodes id).left = some nilId := linked.1.near
      exact ⟨red, id, right, [], by simp [minimumFrom, leftIs], rfl, rfl⟩
  | node red' left' id' right' leftIh rightIh =>
      obtain ⟨rest, rfl⟩ : ∃ rest, fuel = rest + 1 := ⟨fuel - 1, by omega⟩
      obtain ⟨cell, leftLinked, rightLinked⟩ := linked
      have leftIs : (tree.nodes id).left = some id' := cell.near
      have realLeft : ¬ some id' = some nilId := by simpa using leftLinked.1.real
      simp only [height] at enough
      obtain ⟨color, y, right'', inner, found, shape, first⟩ := leftIh rest id red' right' id' leftLinked (by omega)
      refine ⟨color, y, right'', inner ++ [⟨.left, red, id, right⟩], ?_, ?_, ?_⟩
      · rw [minimumFrom, if_neg (by rw [leftIs]; exact realLeft)]
        simp only [leftIs, Option.bind_eq_bind, Option.bind_some, found]
      · rw [plug_append, shape]
        rfl
      · rw [before_append, first]
        rfl

theorem set_parent_same (tree : RBTree K V) (id : NodeId) (parent : Option NodeId) (same : (tree.nodes id).parent = parent) :
    tree.setParent id parent = tree := by
  subst same
  simp [setParent, write]

theorem vacate_child (tree : RBTree K V) (lower upper : ColorTree NodeId) (y z : NodeId) (red color : Bool)
    (frames : List (Frame NodeId)) (lowerReal : lower ≠ .nil)
    (rep : Represents tree (.node red lower z (.node color .nil y upper)) frames) :
    ∃ next, vacate tree z y (top upper) = some next ∧ Detached next lower upper y z red frames ∧ SameEntries tree next ∧
      (next.nodes (top upper)).parent = some y := by
  obtain ⟨cellZ, lowerOk, cellY, _, upperOk⟩ := rep.down
  have parentY : (tree.nodes y).parent = some z := cellY.parent
  have same : ∀ id, id ≠ nilId → (tree.setParent (top upper) (some y)).nodes id = tree.nodes id := by
    intro id real
    cases upper with
    | nil => exact write_elsewhere _ _ _ _ real
    | node red' left id' right => rw [set_parent_same tree _ (some y) (by simpa using upperOk.1.parent)]
  have order : (y :: z :: (lower.labels ++ (upper.labels ++ outside frames))).Perm
      ((ColorTree.node red lower z (.node color .nil y upper)).labels ++ outside frames) := by
    rw [List.perm_iff_count]
    intro id
    simp only [labels, List.count_append, List.count_cons, List.count_nil]
    ring
  have distinct := order.nodup_iff.mpr rep.distinct
  have nodes := distinct
  simp only [List.nodup_cons, List.mem_cons, List.mem_append, not_or] at nodes
  obtain ⟨⟨_, _, yUpper, _⟩, _⟩ := nodes
  have outsideReal := above_real _ _ _ rep.up
  have topUpperY : y ≠ top upper := fun equal => yUpper (equal ▸ top_mem upper (equal ▸ cellY.real))
  have nilChildren : ((tree.setParent (top upper) (some y)).nodes nilId).isRed = (tree.nodes nilId).isRed ∧
      ((tree.setParent (top upper) (some y)).nodes nilId).left = (tree.nodes nilId).left ∧
      ((tree.setParent (top upper) (some y)).nodes nilId).right = (tree.nodes nilId).right := by
    by_cases isNil : nilId = top upper
    · simp [set_parent_nodes, isNil]
    · simp [set_parent_nodes, isNil]
  refine ⟨tree.setParent (top upper) (some y), by simp [vacate, parentY], ?_, set_parent_entries _ _ _, by
    simp [set_parent_nodes]⟩
  refine ⟨?_, cellY.real, cellZ.real, ?_, ?_, ?_, ?_, ?_, ?_, ?_, ?_, distinct, ?_, rep.fresh, ?_⟩
  · exact rep.root.trans (congrArg some (top_plug _ _ frames rfl))
  · cases lower with
    | nil => exact absurd rfl lowerReal
    | node => exact lowerOk.1.real
  · rw [same z cellZ.real]; exact cellZ.red
  · rw [same z cellZ.real]; exact cellZ.near
  · rw [same z cellZ.real]; exact cellZ.parent
  · rw [same y cellY.real]; exact cellY.far
  · exact linked_congr _ _ _ _ lowerOk (fun id member => same id (fun isNil => linked_real _ _ _ lowerOk (isNil ▸ member)))
  · exact linked_congr _ _ _ _ upperOk (fun id member => same id (fun isNil => linked_real _ _ _ upperOk (isNil ▸ member)))
  · exact above_congr _ _ _ _ rep.up (fun id member => same id (fun isNil => outsideReal (isNil ▸ member)))
  · exact fun id member => rep.allocated id (order.mem_iff.mp member)
  · rw [nilChildren.1, nilChildren.2.1, nilChildren.2.2]; exact rep.sentinel

theorem represents_plug_inner (tree : RBTree K V) (focus : ColorTree NodeId) (inner outer : List (Frame NodeId))
    (rep : Represents tree focus (inner ++ outer)) : Represents tree (plug focus inner) outer := by
  induction inner generalizing focus with
  | nil => exact rep
  | cons frame rest ih => exact ih _ (represents_outward tree focus frame (rest ++ outer) rep)

theorem outside_append (inner outer : List (Frame NodeId)) : outside (inner ++ outer) = outside inner ++ outside outer := by
  induction inner with
  | nil => rfl
  | cons frame rest ih => simp [outside, ih, List.append_assoc]

theorem adopted_elsewhere (mid : RBTree K V) (upper : ColorTree NodeId) (y id : NodeId) (notY : id ≠ y) (notTop : id ≠ top upper) :
    ((mid.setChild y (some (top upper)) .right).setParent (top upper) (some y)).nodes id = mid.nodes id := by
  simp [set_parent_nodes, set_child_nodes, notY, notTop]

theorem adopted_detached (mid : RBTree K V) (lower upper : ColorTree NodeId) (y z : NodeId) (red : Bool) (frames : List (Frame NodeId))
    (lowerReal : lower ≠ .nil) (realY : y ≠ nilId) (realTop : top upper ≠ nilId)
    (whole : Represents mid (.node red lower z upper) frames)
    (distinct : (y :: z :: (lower.labels ++ (upper.labels ++ outside frames))).Nodup) (allocated : y < mid.next) :
    Detached ((mid.setChild y (some (top upper)) .right).setParent (top upper) (some y)) lower upper y z red frames := by
  obtain ⟨cellZ, lowerOk, upperOk⟩ := whole.down
  have topMember := top_mem upper realTop
  have parts := distinct
  simp only [List.nodup_cons, List.mem_cons, List.mem_append, List.nodup_append, not_or] at parts
  obtain ⟨⟨yz, yLower, yUpper, yOutside⟩, ⟨zLower, zUpper, zOutside⟩, _, ⟨upperDistinct, _, upperApart⟩, lowerApart⟩ := parts
  have topY : top upper ≠ y := fun same => yUpper (same ▸ topMember)
  have adopted : ((mid.setChild y (some (top upper)) .right).setParent (top upper) (some y)).nodes (top upper) =
      { mid.nodes (top upper) with parent := some y } := by
    simp [set_parent_nodes, set_child_nodes, topY]
  have elsewhere := adopted_elsewhere mid upper y
  have notUpper (id : NodeId) (absent : id ∉ upper.labels) (notY : id ≠ y) := elsewhere id notY fun same => absent (same ▸ topMember)
  have zKept := notUpper z zUpper (Ne.symm yz)
  refine ⟨whole.root, realY, cellZ.real, ?_, ?_, ?_, ?_, ?_, ?_, ?_, ?_, distinct, ?_, whole.fresh, ?_⟩
  · cases lower with
    | nil => exact absurd rfl lowerReal
    | node => exact lowerOk.1.real
  · rw [zKept]; exact cellZ.red
  · rw [zKept]; exact cellZ.near
  · rw [zKept]; exact cellZ.parent
  · simp [set_parent_nodes, set_child_nodes, Ne.symm topY, RBNode.setChild]
  · refine linked_congr _ _ _ _ lowerOk (fun id member => notUpper id ?_ (fun same => yLower (same ▸ member)))
    exact fun there => lowerApart id member id (Or.inl there) rfl
  · refine linked_reparent _ _ _ _ _ upperOk upperDistinct (fun _ => adopted) (fun id member notTop => ?_)
    exact elsewhere id (fun same => yUpper (same ▸ member)) notTop
  · refine above_congr _ _ _ _ whole.up (fun id member => notUpper id ?_ (fun same => yOutside (same ▸ member)))
    exact fun there => upperApart id there id member rfl
  · intro id member
    rcases List.mem_cons.mp member with rfl | inside
    · exact allocated
    · refine whole.allocated id ?_
      simp only [labels, List.mem_cons, List.mem_append] at inside ⊢
      tauto
  · rw [elsewhere nilId (Ne.symm realY) (Ne.symm realTop)]
    exact whole.sentinel

theorem vacate_order (upper lower : ColorTree NodeId) (z : NodeId) (red : Bool) (inner frames : List (Frame NodeId)) :
    (z :: (lower.labels ++ ((plug upper inner).labels ++ outside frames))).Perm
      (upper.labels ++ outside (inner ++ ⟨.right, red, z, lower⟩ :: frames)) := by
  have pluggedOrder := labels_plug upper inner
  rw [List.perm_iff_count] at pluggedOrder ⊢
  intro id
  have count := pluggedOrder id
  simp only [outside_append, outside, List.count_append, List.count_cons] at count ⊢
  rw [count]
  ring

theorem vacate_deep (tree : RBTree K V) (lower upper : ColorTree NodeId) (y z : NodeId) (red color : Bool)
    (frame : Frame NodeId) (inner frames : List (Frame NodeId)) (lowerReal : lower ≠ .nil)
    (rep : Represents tree (.node color .nil y upper) (frame :: inner ++ ⟨.right, red, z, lower⟩ :: frames)) :
    ∃ next, vacate tree z y (top upper) = some next ∧
      Detached next lower (plug upper (frame :: inner)) y z red frames ∧ SameEntries tree next ∧
      (next.nodes (top upper)).parent = some frame.label := by
  obtain ⟨realY, parentY⟩ := focus_parent tree .left color .nil upper y _ rep
  have holderFull : holder (frame :: inner ++ ⟨.right, red, z, lower⟩ :: frames) = frame.label := rfl
  rw [holderFull] at parentY
  obtain ⟨mid, done, entries, deficient, _⟩ := splice_spec tree .left color upper y _ rep
  have atZ := represents_plug_inner mid upper (frame :: inner) _ deficient.rep
  have whole : Represents mid (.node red lower z (plug upper (frame :: inner))) frames := represents_outward mid _ _ _ atZ
  have distinctY := rep.distinct
  simp only [labels, List.nil_append, List.cons_append, List.nodup_cons] at distinctY
  obtain ⟨absentY, distinctMid⟩ := distinctY
  have order := vacate_order upper lower z red (frame :: inner) frames
  have distinct : (y :: z :: (lower.labels ++ ((plug upper (frame :: inner)).labels ++ outside frames))).Nodup :=
    List.nodup_cons.mpr ⟨fun member => absentY (order.mem_iff.mp member), order.nodup_iff.mpr distinctMid⟩
  have realTop : top (plug upper (frame :: inner)) ≠ nilId := by
    intro same
    have member := top_plug_outside upper frame inner
    rw [same] at member
    have above := above_real _ _ _ rep.up
    rw [outside_append] at above
    exact above (List.mem_append_left _ member)
  have allocated : y < mid.next := by
    have sameNext : mid.next = tree.next := entries.next
    rw [sameNext]
    exact rep.allocated y (by simp [labels])
  have detached := adopted_detached mid lower (plug upper (frame :: inner)) y z red frames lowerReal realY realTop whole distinct allocated
  refine ⟨_, ?_, detached, ?_, ?_⟩
  · have notZ : frame.label ≠ z := by
      have outsideDistinct := (represents_nodup tree _ _ rep).2.1
      simp only [List.cons_append, outside, outside_append, List.nodup_cons] at outsideDistinct
      intro same
      exact outsideDistinct.1 (by simp [same])
    have rightZ : (mid.nodes z).right = some (top (plug upper (frame :: inner))) := whole.down.1.far
    have rightY : ((mid.setChild y (some (top (plug upper (frame :: inner)))) .right).nodes y).right =
        some (top (plug upper (frame :: inner))) := by
      simp [setChild, RBNode.setChild]
    have notParent : ¬ some frame.label = some z := by simpa using notZ
    simp only [vacate, parentY, if_neg notParent, done, Option.bind_eq_bind, Option.bind_some, rightZ, rightY]
  · exact same_entries_trans _ _ _ entries (same_entries_trans _ _ _ (set_child_entries mid _ _ _) (set_parent_entries _ _ _))
  · have topUpperOutside := top_not_outside mid upper upper _ deficient.rep (fun _ member => member)
    rw [outside_append] at topUpperOutside
    have apartTop : top upper ≠ top (plug upper (frame :: inner)) := fun same =>
      topUpperOutside (List.mem_append_left _ (same ▸ top_plug_outside upper frame inner))
    have apartY : top upper ≠ y := fun same => absentY (List.mem_append_left _ (same ▸ top_mem upper (same ▸ realY)))
    rw [adopted_elsewhere mid _ y _ apartY apartTop]
    exact deficient.parent

theorem hole_relabel (inner outer : List (Frame NodeId)) (side : Side) (red parentRed : Bool) (y z : NodeId)
    (sibling : ColorTree NodeId) (height : Nat) (hole : Hole (inner ++ ⟨side, red, z, sibling⟩ :: outer) parentRed height) :
    Hole (inner ++ ⟨side, red, y, sibling⟩ :: outer) parentRed height := by
  induction inner generalizing parentRed height with
  | nil =>
      cases hole with
      | red _ _ _ parent rest _ siblingOk outerOk => exact .red side y sibling parent rest height siblingOk outerOk
      | black _ _ _ _ siblingRed outerRed _ siblingOk outerOk =>
          exact .black side y sibling outer siblingRed outerRed height siblingOk outerOk
  | cons frame rest ih =>
      rw [List.cons_append] at hole ⊢
      cases shape : rest ++ ⟨side, red, z, sibling⟩ :: outer with
      | nil => simp at shape
      | cons parent others =>
          rw [shape] at hole
          cases hole with
          | red frameSide label frameSibling _ _ _ siblingOk outerOk =>
              have inner := ih false height (shape ▸ outerOk)
              cases shape' : rest ++ ⟨side, red, y, sibling⟩ :: outer with
              | nil => simp at shape'
              | cons parent' others' =>
                  rw [shape'] at inner
                  exact .red frameSide label frameSibling parent' others' height siblingOk inner
          | black frameSide label frameSibling _ siblingRed outerRed _ siblingOk outerOk =>
              exact .black frameSide label frameSibling _ siblingRed outerRed height siblingOk
                (ih outerRed (height + 1) (shape ▸ outerOk))

-- The end of Delete: x has taken the place of a node with at most this one
-- child, whose colour decides whether the fixup runs.
theorem delete_finish (tree : RBTree K V) (side : Side) (color red parentRed : Bool) (focus : ColorTree NodeId) (removed : NodeId)
    (frames : List (Frame NodeId)) (height : Nat) (deficient : Deficient tree focus frames)
    (removedOk : Balanced (join side color .nil removed focus) red height) (hole : Hole frames parentRed height)
    (compatible : ¬ (red = true ∧ parentRed = true)) :
    ∃ next whole total, (if color then some tree else deleteFixup tree.next tree (top focus)) = some next ∧
      Represents next whole [] ∧ Balanced whole false total ∧ whole.labels = (plug focus frames).labels ∧
      SameEntries tree next := by
  cases color with
  | true =>
      obtain ⟨rfl, _, focusOk⟩ := (balanced_join_red side .nil focus removed red height).mp removedOk
      have parentBlack : parentRed = false := by
        cases parentRed with
        | true => exact absurd ⟨rfl, rfl⟩ compatible
        | false => rfl
      obtain ⟨total, balanced⟩ := plug_balanced focus frames false parentRed height focusOk hole (by simp)
      exact ⟨tree, _, total, rfl, represents_plug _ _ _ deficient.rep, by simpa using balanced, rfl,
        same_entries_of_kept _ _ (kept_refl tree)⟩
  | false =>
      obtain ⟨rfl, lower, nilRed, focusRed, rfl, nilOk, focusOk⟩ :=
        (balanced_join_black side .nil focus removed red height).mp removedOk
      have lacking : Lacking focus lower := by
        cases focusRed with
        | false => exact .black focus lower focusOk
        | true =>
            obtain ⟨near, id, far, rfl, nearOk, farOk⟩ := balanced_red_join .left focus lower focusOk
            exact .red .left near far id lower ((balanced_join_black _ _ _ _ _ _).mpr
              ⟨rfl, lower, false, false, rfl, nearOk, farOk⟩)
      have size := frames_le_labels focus frames
      have bound := labels_lt_next tree _ (represents_plug _ _ _ deficient.rep)
      have small : frames.length < tree.next := lt_of_le_of_lt (le_trans (Nat.le_add_right _ _) size) bound
      obtain ⟨next, whole, total, finished, repNext, wholeOk, labelsNext, kept⟩ := delete_fixup_spec tree.next tree focus frames
        parentRed lower deficient lacking hole (lt_of_le_of_lt (Nat.zero_le _) bound) (fun _ => small)
      exact ⟨next, whole, total, finished, repNext, wholeOk, labelsNext, same_entries_of_kept _ _ kept⟩

theorem delete_one_child (tree : RBTree K V) (side : Side) (color red parentRed : Bool) (far : ColorTree NodeId) (z : NodeId)
    (frames : List (Frame NodeId)) (height : Nat) (rep : Represents tree (join side color .nil z far) frames)
    (removedOk : Balanced (join side color .nil z far) red height) (hole : Hole frames parentRed height)
    (compatible : ¬ (red = true ∧ parentRed = true)) :
    ∃ next whole total, ((transplant tree z (top far)).bind fun next =>
        if (tree.nodes z).isRed then some next else deleteFixup next.next next (top far)) = some next ∧
      Represents next whole [] ∧ Balanced whole false total ∧ whole.labels = (plug far frames).labels ∧
      SameEntries tree next := by
  have isRed := ((linked_join _ _ _ _ _ _ _).mp rep.down).1.red
  obtain ⟨mid, done, entries, deficient, _⟩ := splice_spec tree side color far z frames rep
  obtain ⟨next, whole, total, finished, repNext, wholeOk, labelsNext, entriesNext⟩ :=
    delete_finish mid side color red parentRed far z frames height deficient removedOk hole compatible
  exact ⟨next, whole, total, by rw [done, Option.bind_some, isRed, finished], repNext, wholeOk, labelsNext,
    same_entries_trans _ _ _ entries entriesNext⟩

theorem vacate_spec (tree : RBTree K V) (lower upper : ColorTree NodeId) (y z : NodeId) (red color : Bool)
    (inner frames : List (Frame NodeId)) (lowerReal : lower ≠ .nil)
    (rep : Represents tree (.node color .nil y upper) (inner ++ ⟨.right, red, z, lower⟩ :: frames)) :
    ∃ next, vacate tree z y (top upper) = some next ∧ Detached next lower (plug upper inner) y z red frames ∧
      SameEntries tree next ∧
      (next.nodes (top upper)).parent = some (holder (inner ++ ⟨.right, red, y, lower⟩ :: frames)) := by
  cases inner with
  | nil => exact vacate_child tree lower upper y z red color frames lowerReal (represents_outward tree _ _ _ rep)
  | cons frame rest => exact vacate_deep tree lower upper y z red color frame rest frames lowerReal rep

theorem delete_two_children (tree : RBTree K V) (red : Bool) (lower right : ColorTree NodeId) (z : NodeId)
    (frames : List (Frame NodeId)) (total : Nat) (rep : Represents tree (.node red lower z right) frames)
    (lowerReal : lower ≠ .nil) (rightReal : right ≠ .nil)
    (balanced : Balanced (plug (.node red lower z right) frames) false total) :
    ∃ next whole total', delete tree z = some next ∧ Represents next whole [] ∧ Balanced whole false total' ∧
      whole.labels = before frames ++ (lower.labels ++ right.labels ++ after frames) ∧ SameEntries tree next := by
  cases right with
  | nil => exact absurd rfl rightReal
  | node rightRed rightLeft rightId rightRight =>
      obtain ⟨cellZ, lowerOk, rightOk⟩ := rep.down
      have leftZ : (tree.nodes z).left = some (top lower) := cellZ.near
      have rightZ : (tree.nodes z).right = some rightId := cellZ.far
      have realLower : ¬ top lower = nilId := by
        cases lower with
        | nil => exact absurd rfl lowerReal
        | node => exact lowerOk.1.real
      have realRight : ¬ rightId = nilId := rightOk.1.real
      have enough : rightLeft.height < tree.next := by
        have bound := labels_lt_next tree _ (represents_plug _ _ _ rep)
        have size := frames_le_labels (.node red lower z (.node rightRed rightLeft rightId rightRight)) frames
        have tall := height_le_labels rightLeft
        simp only [labels, List.length_append, List.length_cons] at size
        exact lt_of_le_of_lt (by omega) bound
      obtain ⟨color, y, upper, inner, found, shape, first⟩ :=
        minimum_from_spec tree tree.next z rightRed rightLeft rightRight rightId rightOk enough
      have reshaped : plug (.node color .nil y upper) (inner ++ ⟨.right, red, z, lower⟩ :: frames) =
          plug (.node red lower z (.node rightRed rightLeft rightId rightRight)) frames := by
        rw [plug_append, shape]
        rfl
      have repY : Represents tree (.node color .nil y upper) (inner ++ ⟨.right, red, z, lower⟩ :: frames) :=
        represents_unplug tree _ _ (reshaped ▸ represents_plug tree _ _ rep)
      have cellY := repY.down.1
      have rightY : (tree.nodes y).right = some (top upper) := cellY.far
      obtain ⟨yRed, parentRed, height, removedOk, hole, compatible⟩ := balanced_plug _ _ total (reshaped ▸ balanced)
      obtain ⟨mid, vacated, detached, entriesMid, parentMid⟩ :=
        vacate_spec tree lower upper y z red color inner frames lowerReal repY
      obtain ⟨taken, took, repTaken, entriesTaken, nilKept⟩ := take_place_spec mid lower _ y z red frames detached
      have repUpper : Represents taken upper (inner ++ ⟨.right, red, y, lower⟩ :: frames) := by
        refine represents_unplug taken upper _ ?_
        rw [plug_append]
        have whole := represents_plug taken _ _ repTaken
        exact whole
      have deficient : Deficient taken upper (inner ++ ⟨.right, red, y, lower⟩ :: frames) := by
        refine ⟨repUpper, ?_⟩
        cases upper with
        | nil =>
            rw [top_nil] at parentMid ⊢
            rw [nilKept]
            exact parentMid
        | node upperRed left id right => exact repUpper.down.1.parent
      obtain ⟨next, whole, total', finished, repNext, wholeOk, labelsNext, entriesNext⟩ := delete_finish taken .left color yRed
        parentRed upper y _ height deficient removedOk (hole_relabel inner frames .right red parentRed y z lower height hole)
        compatible
      refine ⟨next, whole, total', ?_, repNext, wholeOk, ?_, same_entries_trans _ _ _ entriesMid
        (same_entries_trans _ _ _ entriesTaken entriesNext)⟩
      · have colorY : (tree.nodes y).isRed = color := cellY.red
        simp only [delete, leftZ, rightZ, Option.bind_eq_bind, Option.bind_some, if_neg realLower, if_neg realRight, minimum,
          found, rightY, vacated, took, colorY, finished]
      · have ordered := congrArg labels shape
        rw [labels_plug_split, first] at ordered
        rw [labelsNext, labels_plug_split, before_append, after_append, first, ← ordered]
        simp [before, after, labels, List.append_assoc]

theorem delete_spec (tree : RBTree K V) (whole : ColorTree NodeId) (total : Nat) (z : NodeId)
    (rep : Represents tree whole []) (balanced : Balanced whole false total) (member : z ∈ whole.labels) :
    ∃ next whole' total' lower upper, delete tree z = some next ∧ Represents next whole' [] ∧ Balanced whole' false total' ∧
      whole.labels = lower ++ z :: upper ∧ whole'.labels = lower ++ upper ∧ SameEntries tree next := by
  obtain ⟨red, left, right, frames, rfl⟩ := exists_plug whole z member
  have repZ := represents_unplug tree _ frames rep
  obtain ⟨cell, leftOk, rightOk⟩ := repZ.down
  have leftZ : (tree.nodes z).left = some (top left) := cell.near
  have rightZ : (tree.nodes z).right = some (top right) := cell.far
  have split : (plug (.node red left z right) frames).labels =
      (before frames ++ left.labels) ++ z :: (right.labels ++ after frames) := by
    simp [labels_plug_split, labels, List.append_assoc]
  obtain ⟨zRed, parentRed, height, focusOk, hole, compatible⟩ := balanced_plug _ frames total balanced
  by_cases noLeft : left = .nil
  · subst noLeft
    obtain ⟨next, whole', total', finished, repNext, wholeOk, labelsNext, entries⟩ :=
      delete_one_child tree .left red zRed parentRed right z frames height repZ focusOk hole compatible
    refine ⟨next, whole', total', _, _, ?_, repNext, wholeOk, split, ?_, entries⟩
    · simp only [delete, leftZ, rightZ, top_nil, Option.bind_eq_bind, Option.bind_some, if_true, finished]
    · rw [labelsNext, labels_plug_split]
      simp [labels]
  · have realLeft : ¬ top left = nilId := by
      cases left with
      | nil => exact absurd rfl noLeft
      | node => exact leftOk.1.real
    by_cases noRight : right = .nil
    · subst noRight
      obtain ⟨next, whole', total', finished, repNext, wholeOk, labelsNext, entries⟩ :=
        delete_one_child tree .right red zRed parentRed left z frames height repZ focusOk hole compatible
      refine ⟨next, whole', total', _, _, ?_, repNext, wholeOk, split, ?_, entries⟩
      · simp only [delete, leftZ, rightZ, top_nil, Option.bind_eq_bind, Option.bind_some, if_neg realLeft, if_true, finished]
      · rw [labelsNext, labels_plug_split]
        simp [labels]
    · obtain ⟨next, whole', total', finished, repNext, wholeOk, labelsNext, entries⟩ :=
        delete_two_children tree red left right z frames total repZ noLeft noRight balanced
      refine ⟨next, whole', total', _, _, finished, repNext, wholeOk, split, ?_, entries⟩
      rw [labelsNext]
      simp [List.append_assoc]

end RingServer.RBTree
