import RingServer.Types.RBTreeRotate

set_option autoImplicit false

namespace RingServer.RBTree

open Library Library.ColorTree

variable {K V : Type}

def rootRed : ColorTree NodeId → Bool
  | .nil => false
  | .node red _ _ _ => red

@[simp] theorem root_red_join (side : Side) (red : Bool) (near far : ColorTree NodeId) (id : NodeId) :
    rootRed (join side red near id far) = red := by
  cases side <;> rfl

theorem balanced_root_red (tree : ColorTree NodeId) (red : Bool) (height : Nat) (balanced : Balanced tree red height) :
    rootRed tree = red := by
  cases balanced <;> rfl

theorem red_ref_top (tree : RBTree K V) (parent : NodeId) (part : ColorTree NodeId) (linked : Linked tree.nodes parent part)
    (sentinel : (tree.nodes nilId).isRed = false) : tree.redRef (some (top part)) = rootRed part := by
  cases part with
  | nil => exact sentinel
  | node red left id right => exact linked.1.red

theorem top_ne_of_not_mem (tree : ColorTree NodeId) (id : NodeId) (real : id ≠ nilId) (absent : id ∉ tree.labels) :
    top tree ≠ id :=
  fun same => absent (same ▸ top_mem tree (same ▸ real))

theorem frame_side (tree : RBTree K V) (focus : ColorTree NodeId) (frame : Frame NodeId) (outer : List (Frame NodeId))
    (rep : Represents tree focus (frame :: outer)) (real : top focus ≠ nilId ∨ top frame.sibling ≠ nilId) :
    (if (tree.nodes frame.label).left = some (top focus) then Side.left else Side.right) = frame.side := by
  obtain ⟨cell, siblingOk, outerOk⟩ := rep.up
  have apart : top frame.sibling ≠ top focus := by
    intro same
    have focusReal : top focus ≠ nilId := real.elim id (fun other => same ▸ other)
    refine (represents_nodup tree focus _ rep).2.2 _ (top_mem focus focusReal) ?_
    simp [outside, ← same, top_mem frame.sibling (same ▸ focusReal)]
  cases side : frame.side with
  | left =>
      rw [if_pos]
      simpa [RBNode.child, side] using cell.near
  | right =>
      rw [if_neg]
      have far := cell.far
      simp only [side, Side.other, RBNode.child] at far
      rw [far]
      simpa using apart

theorem child_is_near (tree : RBTree K V) (side : Side) (focus : ColorTree NodeId) (frame : Frame NodeId)
    (outer : List (Frame NodeId)) (rep : Represents tree focus (frame :: outer)) (real : top focus ≠ nilId) :
    (tree.nodes frame.label).child side = some (top focus) ↔ side = frame.side := by
  obtain ⟨cell, siblingOk, outerOk⟩ := rep.up
  constructor
  · intro child
    by_contra differ
    have flip : side = frame.side.other := by
      cases side <;> cases frameSide : frame.side <;> simp_all [Side.other]
    rw [flip, cell.far] at child
    refine (represents_nodup tree focus _ rep).2.2 _ (top_mem focus real) ?_
    have same := Option.some.inj child
    simp [outside, ← same, top_mem frame.sibling (same ▸ real)]
  · rintro rfl
    exact cell.near

theorem represents_flip (tree : RBTree K V) (side : Side) (red : Bool) (near far : ColorTree NodeId) (id : NodeId)
    (frames : List (Frame NodeId)) :
    Represents tree (join side.other red far id near) frames ↔ Represents tree (join side red near id far) frames := by
  rw [join_flip]

theorem focus_parent (tree : RBTree K V) (side : Side) (red : Bool) (near far : ColorTree NodeId) (id : NodeId)
    (frames : List (Frame NodeId)) (rep : Represents tree (join side red near id far) frames) :
    id ≠ nilId ∧ (tree.nodes id).parent = some (holder frames) := by
  have cell := ((linked_join _ _ _ _ _ _ _).mp rep.down).1
  exact ⟨cell.real, cell.parent⟩

theorem frame_parent (tree : RBTree K V) (focus : ColorTree NodeId) (frame : Frame NodeId) (outer : List (Frame NodeId))
    (rep : Represents tree focus (frame :: outer)) : (tree.nodes frame.label).parent = some (holder outer) :=
  rep.up.1.parent

-- The red node z may hang below a red parent; everything else is balanced. One
-- pass either moves the clash two levels up or removes it.
theorem insert_fixup_uncle (side inner around : Side) (tree : RBTree K V) (near far sibling uncleNear uncleFar : ColorTree NodeId)
    (z parent grand uncle : NodeId) (outer : List (Frame NodeId))
    (rep : Represents tree (join around true near z far) (⟨inner, true, parent, sibling⟩ ::
      ⟨side, false, grand, .node true uncleNear uncle uncleFar⟩ :: outer)) :
    ∃ next, insertFixupSide side tree z = some (next, grand) ∧
      Represents next (join side true (join inner false (join around true near z far) parent sibling) grand
        (.node false uncleNear uncle uncleFar)) outer ∧ Kept tree next := by
  have parentZ := (focus_parent tree around true near far z _ rep).2
  have atParent := represents_outward tree _ _ _ rep
  have parentParent := frame_parent tree _ _ _ rep
  have grandChild := atParent.up.1.far
  have uncleRed : tree.redRef (some uncle) = true := rep.up.2.2.2.1.1.red
  obtain ⟨repParent, keptParent⟩ := represents_recolor tree inner true false _ sibling parent _ atParent
  have atGrand := represents_outward _ _ _ _ repParent
  have atUncle := represents_inward _ side.other false (.node true uncleNear uncle uncleFar) _ grand outer
    ((represents_flip _ side false _ _ grand outer).mpr atGrand)
  obtain ⟨repUncle, keptUncle⟩ := represents_recolor _ .left true false uncleNear uncleFar uncle _ atUncle
  have backGrand := (represents_flip _ side false _ _ grand outer).mp (represents_outward _ _ _ _ repUncle)
  obtain ⟨repGrand, keptGrand⟩ := represents_recolor _ side false true _ _ grand outer backGrand
  refine ⟨_, ?_, repGrand, kept_trans _ _ _ keptParent (kept_trans _ _ _ keptUncle keptGrand)⟩
  simp only [holder] at parentZ parentParent grandChild
  simp only [insertFixupSide, parentZ, parentParent, grandChild, Option.bind_eq_bind, Option.bind_some, top, uncleRed,
    if_true]

def insertTurn (side : Side) (tree : RBTree K V) (z : NodeId) : Option (RBTree K V × NodeId) :=
  match (tree.nodes z).parent with
  | none => some (tree, z)
  | some parent =>
      let tree := tree.setRed parent false
      match (tree.nodes parent).parent with
      | none => some (tree, z)
      | some grand => (rotate side.other (tree.setRed grand true) grand).map fun tree => (tree, z)

theorem insert_turn_spec (side : Side) (tree : RBTree K V) (near far sibling uncle : ColorTree NodeId)
    (z parent grand : NodeId) (outer : List (Frame NodeId))
    (rep : Represents tree (join side true near z far) (⟨side, true, parent, sibling⟩ :: ⟨side, false, grand, uncle⟩ :: outer)) :
    ∃ next, insertTurn side tree z = some (next, z) ∧
      Represents next (join side true near z far) (⟨side, false, parent, join side true sibling grand uncle⟩ :: outer) ∧
      Kept tree next := by
  have parentZ := (focus_parent tree side true near far z _ rep).2
  have atParent := represents_outward tree _ _ _ rep
  obtain ⟨repParent, keptParent⟩ := represents_recolor tree side true false _ sibling parent _ atParent
  have parentParent := (focus_parent _ side false _ sibling parent _ repParent).2
  have atGrand := represents_outward _ _ _ _ repParent
  obtain ⟨repGrand, keptGrand⟩ := represents_recolor _ side false true _ uncle grand outer atGrand
  simp only [← join_flip side] at repGrand
  obtain ⟨next, turned, repNext, keptNext⟩ := rotate_represents side.other _ true false uncle sibling _ grand parent outer repGrand
  have result := represents_inward next side false (join side true near z far) (join side true sibling grand uncle) parent
    outer (by simpa only [join_flip] using repNext)
  refine ⟨next, ?_, result, kept_trans _ _ _ keptParent (kept_trans _ _ _ keptGrand keptNext)⟩
  simp only [holder] at parentZ parentParent
  simp only [insertTurn, parentZ, parentParent, turned, Option.map_some]

theorem insert_fixup_side_black (side : Side) (tree : RBTree K V) (z parent grand uncle : NodeId)
    (parentZ : (tree.nodes z).parent = some parent) (parentParent : (tree.nodes parent).parent = some grand)
    (uncleIs : (tree.nodes grand).child side.other = some uncle) (black : tree.redRef (some uncle) = false) :
    insertFixupSide side tree z =
      (if (tree.nodes parent).child side.other = some z then
        (rotate side tree parent).map fun tree => (tree, parent)
      else some (tree, z)).bind fun moved => insertTurn side moved.1 moved.2 := by
  simp only [insertFixupSide, parentZ, parentParent, uncleIs, black, Option.bind_eq_bind, Option.bind_some,
    Bool.false_eq_true, if_false, insertTurn]
  split_ifs with turns
  · rfl
  · rewrite [Option.bind_some, parentZ]
    rfl

theorem insert_fixup_black (side inner around : Side) (tree : RBTree K V) (near far sibling uncle : ColorTree NodeId)
    (z parent grand : NodeId) (outer : List (Frame NodeId)) (height : Nat) (black : rootRed uncle = false)
    (rep : Represents tree (join around true near z far) (⟨inner, true, parent, sibling⟩ :: ⟨side, false, grand, uncle⟩ :: outer))
    (nearOk : Balanced near false height) (farOk : Balanced far false height) (siblingOk : Balanced sibling false height) :
    ∃ next near' far' sibling' z' parent', insertFixupSide side tree z = some (next, z') ∧
      Represents next (join side true near' z' far') (⟨side, false, parent', join side true sibling' grand uncle⟩ :: outer) ∧
      Kept tree next ∧ Balanced near' false height ∧ Balanced far' false height ∧ Balanced sibling' false height ∧
      (join side false (join side true near' z' far') parent' (join side true sibling' grand uncle)).labels =
        (join side false (join inner true (join around true near z far) parent sibling) grand uncle).labels := by
  have parentZ := (focus_parent tree around true near far z _ rep).2
  have realZ := (focus_parent tree around true near far z _ rep).1
  have parentParent := frame_parent tree _ _ _ rep
  have grandChild := (represents_outward tree _ _ _ rep).up.1.far
  have uncleBlack : tree.redRef (some (top uncle)) = false := by
    rw [red_ref_top tree grand uncle (represents_outward tree _ _ _ rep).up.2.1 rep.sentinel.1]
    exact black
  have unfolded := insert_fixup_side_black side tree z parent grand (top uncle) parentZ parentParent grandChild uncleBlack
  have childZ := child_is_near tree side.other (join around true near z far) _ _ rep (by simpa using realZ)
  simp only [top_join] at childZ
  by_cases same : inner = side
  · subst same
    have aligned : join around true near z far = join inner true (if around = inner then near else far) z
        (if around = inner then far else near) := by
      cases around <;> cases inner <;> rfl
    rw [aligned] at rep
    obtain ⟨next, turned, repNext, keptNext⟩ := insert_turn_spec inner tree _ _ sibling uncle z parent grand outer rep
    refine ⟨next, _, _, sibling, z, parent, ?_, repNext, keptNext, ?_, ?_, siblingOk, ?_⟩
    · rw [unfolded, if_neg (by rw [childZ]; simp), Option.bind_some, turned]
    · split_ifs <;> assumption
    · split_ifs <;> assumption
    · rw [aligned]
      cases inner <;> simp [join, labels]
  · have flip : inner = side.other := by cases inner <;> cases side <;> simp_all [Side.other]
    subst flip
    have aligned : join around true near z far = join side true (if around = side then near else far) z
        (if around = side then far else near) := by
      cases around <;> cases side <;> rfl
    have atParent := represents_outward tree _ _ _ rep
    rw [aligned, join_flip] at atParent
    obtain ⟨mid, rotated, repMid, keptMid⟩ := rotate_represents side tree true true sibling _ _ parent z _ atParent
    obtain ⟨next, turned, repNext, keptNext⟩ := insert_turn_spec side mid sibling _ _ uncle parent z grand outer
      (represents_inward _ _ _ _ _ _ _ repMid)
    refine ⟨next, sibling, _, _, parent, z, ?_, repNext, kept_trans _ _ _ keptMid keptNext, siblingOk, ?_, ?_, ?_⟩
    · rw [unfolded, if_pos (by rw [childZ]), rotated, Option.map_some, Option.bind_some, turned]
    · split_ifs <;> assumption
    · split_ifs <;> assumption
    · rw [aligned]
      cases side <;> simp [join, labels, Side.other]

theorem holder_red (tree : RBTree K V) (focus : ColorTree NodeId) (frames : List (Frame NodeId)) (parentRed : Bool)
    (height : Nat) (rep : Represents tree focus frames) (hole : Hole frames parentRed height) :
    tree.redRef (some (holder frames)) = parentRed := by
  cases hole with
  | top height => exact rep.sentinel.1
  | red side label sibling parent outer height siblingOk outerOk => exact rep.up.1.red
  | black side label sibling outer siblingRed parentRed height siblingOk outerOk => exact rep.up.1.red

theorem blacken_root (tree : RBTree K V) (whole : ColorTree NodeId) (red : Bool) (total : Nat)
    (rep : Represents tree whole []) (balanced : Balanced whole red total) (nonempty : whole ≠ .nil) :
    ∃ id whole' total', tree.root = some id ∧ Represents (tree.setRed id false) whole' [] ∧ Balanced whole' false total' ∧
      whole'.labels = whole.labels ∧ Kept tree (tree.setRed id false) := by
  cases whole with
  | nil => exact absurd rfl nonempty
  | node color left id right =>
      obtain ⟨repBlack, kept⟩ := represents_recolor tree .left color false left right id [] rep
      cases balanced with
      | red _ _ _ _ leftOk rightOk =>
          exact ⟨id, _, _, rep.root, repBlack, .black left right id _ _ total leftOk rightOk, rfl, kept⟩
      | black _ _ _ leftRed rightRed height leftOk rightOk =>
          exact ⟨id, _, _, rep.root, repBlack, .black left right id _ _ height leftOk rightOk, rfl, kept⟩

theorem plug_join_nonempty (side : Side) (red : Bool) (near far : ColorTree NodeId) (id : NodeId)
    (frames : List (Frame NodeId)) : plug (join side red near id far) frames ≠ .nil := by
  intro empty
  have order := labels_plug (join side red near id far) frames
  rw [empty] at order
  have inside : id ∈ (join side red near id far).labels ++ outside frames :=
    List.mem_append_left _ ((labels_join side red near far id).mem_iff.mpr (by simp))
  exact absurd (order.mem_iff.mpr inside) (by simp [labels])

theorem insert_fixup_spec (fuel : Nat) (tree : RBTree K V) (side : Side) (near far : ColorTree NodeId) (z : NodeId)
    (frames : List (Frame NodeId)) (parentRed : Bool) (height : Nat)
    (rep : Represents tree (join side true near z far) frames) (nearOk : Balanced near false height)
    (farOk : Balanced far false height) (hole : Hole frames parentRed height) (enough : frames.length + 2 ≤ fuel) :
    ∃ next whole total, insertFixup fuel tree z = some next ∧ Represents next whole [] ∧ Balanced whole false total ∧
      whole.labels = (plug (join side true near z far) frames).labels ∧ Kept tree next := by
  induction fuel generalizing tree side near far z frames parentRed height with
  | zero => omega
  | succ fuel ih =>
      have parentZ := (focus_parent tree side true near far z frames rep).2
      have color := holder_red tree _ frames parentRed height rep hole
      have focusOk : Balanced (join side true near z far) true height :=
        (balanced_join_red side near far z true height).mpr ⟨rfl, nearOk, farOk⟩
      cases parentRed with
      | false =>
          obtain ⟨total, balanced⟩ := plug_balanced _ frames true false height focusOk hole (by simp)
          obtain ⟨id, whole, total', isRoot, repNext, wholeOk, sameLabels, kept⟩ :=
            blacken_root tree _ _ total (represents_plug tree _ frames rep) balanced (plug_join_nonempty _ _ _ _ _ _)
          refine ⟨_, whole, total', ?_, repNext, wholeOk, sameLabels, kept⟩
          simp only [insertFixup, parentZ, color, Bool.false_eq_true, if_false, isRoot]
      | true =>
          cases hole with
          | red inner parent sibling grandFrame outer height siblingOk outerOk =>
              cases outerOk with
              | black outerSide grand uncle outer uncleRed outerRed height uncleOk outerOk =>
                  have sideIs := frame_side tree _ _ outer (represents_outward tree _ _ _ rep)
                    (Or.inl (by simpa using rep.up.1.real))
                  have parentParent := frame_parent tree _ _ _ rep
                  simp only [holder, top_join] at parentZ color sideIs parentParent
                  have unfolded : insertFixup (fuel + 1) tree z =
                      (insertFixupSide outerSide tree z).bind fun moved => insertFixup fuel moved.1 moved.2 := by
                    simp only [insertFixup, parentZ, color, if_true, Option.bind_eq_bind, Option.bind_some,
                      parentParent, sideIs]
                  rw [unfolded]
                  simp only [List.length_cons] at enough
                  cases uncleRed with
                  | false =>
                      obtain ⟨mid, near', far', sibling', z', parent', turned, repMid, keptMid, nearOk', farOk', siblingOk',
                        sameLabels⟩ := insert_fixup_black outerSide inner side tree near far sibling uncle z parent grand
                          outer height (balanced_root_red _ _ _ uncleOk) rep nearOk farOk siblingOk
                      have siblingRed : Balanced (join outerSide true sibling' grand uncle) true height :=
                        (balanced_join_red _ _ _ _ _ _).mpr ⟨rfl, siblingOk', uncleOk⟩
                      obtain ⟨next, whole, total, finished, repNext, wholeOk, labelsNext, keptNext⟩ :=
                        ih mid outerSide near' far' z' _ false height repMid nearOk' farOk'
                          (.black outerSide parent' _ outer true outerRed height siblingRed outerOk)
                          (by simp only [List.length_cons]; omega)
                      refine ⟨next, whole, total, by rw [turned]; exact finished, repNext, wholeOk, ?_,
                        kept_trans _ _ _ keptMid keptNext⟩
                      rw [labelsNext]
                      simp only [plug, labels_plug_split]
                      rw [sameLabels]
                  | true =>
                      cases uncleOk with
                      | red uncleNear uncleFar uncle height uncleNearOk uncleFarOk =>
                          obtain ⟨mid, lifted, repMid, keptMid⟩ := insert_fixup_uncle outerSide inner side tree near far sibling
                            uncleNear uncleFar z parent grand uncle outer rep
                          have parentOk : Balanced (join inner false (join side true near z far) parent sibling) false (height + 1) :=
                            (balanced_join_black _ _ _ _ _ _).mpr ⟨rfl, height, true, false, rfl, focusOk, siblingOk⟩
                          obtain ⟨next, whole, total, finished, repNext, wholeOk, labelsNext, keptNext⟩ :=
                            ih mid outerSide _ _ grand outer outerRed (height + 1) repMid parentOk
                              (.black uncleNear uncleFar uncle false false height uncleNearOk uncleFarOk) outerOk (by omega)
                          refine ⟨next, whole, total, by rw [lifted]; exact finished, repNext, wholeOk, ?_,
                            kept_trans _ _ _ keptMid keptNext⟩
                          rw [labelsNext]
                          simp only [plug, labels_plug_split]
                          cases inner <;> cases outerSide <;> simp [join, labels]

end RingServer.RBTree
