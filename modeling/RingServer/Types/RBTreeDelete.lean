import RingServer.Types.RBTreeSearch

set_option autoImplicit false

namespace RingServer.RBTree

open Library Library.ColorTree

variable {K V : Type}

-- The focus x of the deletion loop: its paths meet one black node too few for
-- their place, unless x is red and is still to be coloured black.
inductive Lacking : ColorTree NodeId → Nat → Prop where
  | black (focus : ColorTree NodeId) (height : Nat) (focusOk : Balanced focus false height) : Lacking focus height
  | red (side : Side) (near far : ColorTree NodeId) (id : NodeId) (height : Nat)
      (blackOk : Balanced (join side false near id far) false (height + 1)) : Lacking (join side true near id far) height

structure Deficient (tree : RBTree K V) (focus : ColorTree NodeId) (frames : List (Frame NodeId)) : Prop where
  rep : Represents tree focus frames
  parent : (tree.nodes (top focus)).parent = some (holder frames)

theorem deficient_of_real (tree : RBTree K V) (side : Side) (red : Bool) (near far : ColorTree NodeId) (id : NodeId)
    (frames : List (Frame NodeId)) (rep : Represents tree (join side red near id far) frames) :
    Deficient tree (join side red near id far) frames :=
  ⟨rep, by simpa using (focus_parent tree side red near far id frames rep).2⟩

theorem deficient_kept (old new : RBTree K V) (focus : ColorTree NodeId) (frames frames' : List (Frame NodeId))
    (deficient : Deficient old focus frames) (rep : Represents new focus frames') (kept : Kept old new)
    (sameHolder : holder frames' = holder frames) : Deficient new focus frames' := by
  refine ⟨rep, ?_⟩
  cases focus with
  | nil =>
      rw [sameHolder]
      exact (congrArg RBNode.parent kept.sentinel).trans deficient.parent
  | node red left id right => exact rep.down.1.parent

theorem red_sibling_black (side : Side) (tree : RBTree K V) (focus sibling : ColorTree NodeId) (red : Bool) (parent : NodeId)
    (outer : List (Frame NodeId)) (deficient : Deficient tree focus (⟨side, red, parent, sibling⟩ :: outer))
    (black : rootRed sibling = false) :
    redSibling side tree (top focus) = some (tree, some (top sibling)) := by
  have parentIs := deficient.parent
  obtain ⟨cell, siblingOk, _⟩ := deficient.rep.up
  have far : (tree.nodes parent).child side.other = some (top sibling) := cell.far
  have color := red_ref_top tree parent sibling siblingOk deficient.rep.sentinel.1
  simp only [holder] at parentIs
  simp only [redSibling, parentIs, Option.bind_eq_bind, Option.bind_some, far, color, black, Bool.false_eq_true, if_false]

theorem represents_across (tree : RBTree K V) (side : Side) (red : Bool) (focus sibling : ColorTree NodeId) (parent : NodeId)
    (outer : List (Frame NodeId)) (rep : Represents tree focus (⟨side, red, parent, sibling⟩ :: outer)) :
    Represents tree sibling (⟨side.other, red, parent, focus⟩ :: outer) :=
  represents_inward tree side.other red sibling focus parent outer
    ((represents_flip tree side red focus sibling parent outer).mpr (represents_outward tree _ _ _ rep))

theorem represents_back (tree : RBTree K V) (side : Side) (red : Bool) (focus sibling : ColorTree NodeId) (parent : NodeId)
    (outer : List (Frame NodeId)) (rep : Represents tree sibling (⟨side.other, red, parent, focus⟩ :: outer)) :
    Represents tree focus (⟨side, red, parent, sibling⟩ :: outer) := by
  simpa using represents_across tree side.other red sibling focus parent outer rep

theorem recolor_sibling (tree : RBTree K V) (side around : Side) (red color color' : Bool) (focus near far : ColorTree NodeId)
    (parent w : NodeId) (outer : List (Frame NodeId))
    (rep : Represents tree focus (⟨side, red, parent, join around color near w far⟩ :: outer)) :
    Represents (tree.setRed w color') focus (⟨side, red, parent, join around color' near w far⟩ :: outer) ∧
      Kept tree (tree.setRed w color') := by
  obtain ⟨repW, kept⟩ := represents_recolor tree around color color' near far w _ (represents_across tree _ _ _ _ _ _ rep)
  exact ⟨represents_back _ _ _ _ _ _ _ repW, kept⟩

theorem recolor_parent (tree : RBTree K V) (side : Side) (red red' : Bool) (focus sibling : ColorTree NodeId)
    (parent : NodeId) (outer : List (Frame NodeId)) (rep : Represents tree focus (⟨side, red, parent, sibling⟩ :: outer)) :
    Represents (tree.setRed parent red') focus (⟨side, red', parent, sibling⟩ :: outer) ∧ Kept tree (tree.setRed parent red') := by
  obtain ⟨repParent, kept⟩ := represents_recolor tree side red red' focus sibling parent outer (represents_outward tree _ _ _ rep)
  exact ⟨represents_inward _ _ _ _ _ _ _ repParent, kept⟩

theorem sibling_cell (tree : RBTree K V) (side around : Side) (red color : Bool) (focus near far : ColorTree NodeId)
    (parent w : NodeId) (outer : List (Frame NodeId))
    (rep : Represents tree focus (⟨side, red, parent, join around color near w far⟩ :: outer)) :
    Cell tree.nodes w color around (top near) (top far) parent ∧ Linked tree.nodes w near ∧ Linked tree.nodes w far :=
  (linked_join _ _ _ _ _ _ _).mp rep.up.2.1

theorem red_sibling_red (side : Side) (tree : RBTree K V) (focus near far : ColorTree NodeId) (parent w : NodeId)
    (outer : List (Frame NodeId))
    (deficient : Deficient tree focus (⟨side, false, parent, join side true near w far⟩ :: outer)) :
    ∃ next, redSibling side tree (top focus) = some (next, some (top near)) ∧
      Deficient next focus (⟨side, true, parent, near⟩ :: ⟨side, false, w, far⟩ :: outer) ∧ Kept tree next := by
  have parentIs := deficient.parent
  have farIs : (tree.nodes parent).child side.other = some w := by simpa using deficient.rep.up.1.far
  have wRed : tree.redRef (some w) = true := (sibling_cell tree _ _ _ _ _ _ _ _ _ _ deficient.rep).1.red
  obtain ⟨repW, keptW⟩ := recolor_sibling tree side side false true false focus near far parent w outer deficient.rep
  obtain ⟨repParent, keptParent⟩ := recolor_parent _ side false true focus _ parent outer repW
  obtain ⟨next, rotated, repNext, keptNext⟩ := rotate_represents side _ true false focus near far parent w outer
    (represents_outward _ _ _ _ repParent)
  have kept := kept_trans _ _ _ keptW (kept_trans _ _ _ keptParent keptNext)
  have inner := represents_inward _ _ _ _ _ _ _ (represents_inward _ _ _ _ _ _ _ repNext)
  have result := deficient_kept tree next focus _ _ deficient inner kept rfl
  have parentAgain := result.parent
  have farAgain : (next.nodes parent).child side.other = some (top near) := inner.up.1.far
  refine ⟨next, ?_, result, kept⟩
  simp only [holder] at parentIs parentAgain
  simp only [redSibling, parentIs, Option.bind_eq_bind, Option.bind_some, farIs, wRed, if_true, rotated, parentAgain,
    farAgain]

theorem near_nephew_spec (side : Side) (tree : RBTree K V) (red : Bool) (focus near middle far : ColorTree NodeId)
    (parent w v : NodeId) (outer : List (Frame NodeId))
    (deficient : Deficient tree focus (⟨side, red, parent, join side false (join side true near v middle) w far⟩ :: outer)) :
    ∃ next, nearNephew side tree (top focus) (some w) = some (next, some v) ∧
      Deficient next focus (⟨side, red, parent, join side false near v (join side true middle w far)⟩ :: outer) ∧
      Kept tree next := by
  have nearIs : (tree.nodes w).child side = some v := by
    simpa using (sibling_cell tree _ _ _ _ _ _ _ _ _ _ deficient.rep).1.near
  have atSibling := represents_across tree _ _ _ _ _ _ deficient.rep
  obtain ⟨repV, keptV⟩ := represents_recolor tree side true false near middle v _ (represents_inward tree _ _ _ _ _ _ atSibling)
  obtain ⟨repW, keptW⟩ := represents_recolor _ side false true _ far w _ (represents_outward _ _ _ _ repV)
  simp only [← join_flip side] at repW
  obtain ⟨next, rotated, repNext, keptNext⟩ := rotate_represents side.other _ true false far middle near w v _ repW
  have kept := kept_trans _ _ _ keptV (kept_trans _ _ _ keptW keptNext)
  simp only [join_flip side] at repNext
  have back := represents_back next side red focus _ parent outer repNext
  have result := deficient_kept tree next focus _ _ deficient back kept rfl
  have parentAgain := result.parent
  have farAgain : (next.nodes parent).child side.other = some v := by simpa using back.up.1.far
  refine ⟨next, ?_, result, kept⟩
  simp only [holder] at parentAgain
  simp only [nearNephew, Option.bind_eq_bind, Option.bind_some, nearIs, Option.elim_some, rotated, parentAgain, farAgain]

theorem far_nephew_spec (side around : Side) (tree : RBTree K V) (red : Bool) (focus near left right : ColorTree NodeId)
    (parent w f : NodeId) (outer : List (Frame NodeId))
    (deficient : Deficient tree focus (⟨side, red, parent, join side false near w (join around true left f right)⟩ :: outer)) :
    ∃ next, farNephew side tree (top focus) (some w) = some (next, top (plug (join side red (join side false focus parent near) w
        (join around false left f right)) outer)) ∧
      Represents next (join side red (join side false focus parent near) w (join around false left f right)) outer ∧
      Kept tree next := by
  have parentIs := deficient.parent
  have parentRed : (tree.nodes parent).isRed = red := deficient.rep.up.1.red
  obtain ⟨repW, keptW⟩ := recolor_sibling tree side side red false red focus near _ parent w outer deficient.rep
  obtain ⟨repParent, keptParent⟩ := recolor_parent _ side red false focus _ parent outer repW
  have farIs : (((tree.setRed w red).setRed parent false).nodes w).child side.other = some f := by
    simpa using (sibling_cell _ _ _ _ _ _ _ _ _ _ _ repParent).1.far
  have atW := represents_across _ _ _ _ _ _ _ repParent
  rw [← join_flip side] at atW
  obtain ⟨repF, keptF⟩ := represents_recolor _ around true false left right f _ (represents_inward _ _ _ _ _ _ _ atW)
  have back := represents_outward _ _ _ _ repF
  rw [join_flip side] at back
  obtain ⟨next, rotated, repNext, keptNext⟩ := rotate_represents side _ false red focus near _ parent w outer
    (represents_outward _ _ _ _ (represents_back _ _ _ _ _ _ _ back))
  refine ⟨next, ?_, repNext, kept_trans _ _ _ keptW (kept_trans _ _ _ keptParent (kept_trans _ _ _ keptF keptNext))⟩
  simp only [holder] at parentIs
  simp only [farNephew, parentIs, Option.bind_eq_bind, Option.bind_some, Option.elim_some, parentRed, farIs, rotated,
    repNext.root]

-- What one pass of the deletion loop leaves: the lack is gone, or it is one
-- frame higher, and there it sits on a red node if the parent was red.
structure Passed (side : Side) (red : Bool) (tree next : RBTree K V) (focus sibling focus' : ColorTree NodeId)
    (parent : NodeId) (outer frames' : List (Frame NodeId)) (height' : Nat) : Prop where
  deficient : Deficient next focus' frames'
  lacking : Lacking focus' height'
  hole : ∃ parentRed, Hole frames' parentRed (height' + 1)
  labels : (plug focus' frames').labels = (plug (join side red focus parent sibling) outer).labels
  kept : Kept tree next
  progress : frames' = [] ∨ (frames' = outer ∧ (red = true → rootRed focus' = true))

theorem deficient_whole (tree : RBTree K V) (side : Side) (red : Bool) (near far : ColorTree NodeId) (id : NodeId)
    (frames : List (Frame NodeId)) (rep : Represents tree (join side red near id far) frames) :
    Deficient tree (plug (join side red near id far) frames) [] := by
  have whole := represents_plug tree _ frames rep
  refine ⟨whole, ?_⟩
  have nonempty := plug_join_nonempty side red near far id frames
  cases shape : plug (join side red near id far) frames with
  | nil => exact absurd shape nonempty
  | node color left top right => exact (shape ▸ whole.down).1.parent

theorem hole_fill (side : Side) (red : Bool) (parent : NodeId) (sibling : ColorTree NodeId) (outer : List (Frame NodeId))
    (height : Nat) (hole : Hole (⟨side, red, parent, sibling⟩ :: outer) red (height + 1)) :
    ∃ outerRed, Hole outer outerRed (if red then height + 1 else height + 2) ∧
      (red = true → outerRed = false ∧ outer ≠ []) := by
  cases hole with
  | red _ _ _ grand rest _ siblingOk outerOk => exact ⟨false, by simpa using outerOk, by simp⟩
  | black _ _ _ _ siblingRed outerRed _ siblingOk outerOk => exact ⟨outerRed, by simpa using outerOk, by simp⟩

theorem hole_sibling (side : Side) (red : Bool) (parent : NodeId) (sibling sibling' : ColorTree NodeId)
    (outer : List (Frame NodeId)) (height : Nat) (hole : Hole (⟨side, red, parent, sibling⟩ :: outer) red height)
    (siblingOk' : Balanced sibling' false height) : Hole (⟨side, red, parent, sibling'⟩ :: outer) red height := by
  cases hole with
  | red _ _ _ grand rest _ siblingOk outerOk => exact .red side parent sibling' grand rest height siblingOk' outerOk
  | black _ _ _ _ siblingRed outerRed _ siblingOk outerOk =>
      exact .black side parent sibling' outer false outerRed height siblingOk' outerOk

theorem balanced_red_join (side : Side) (tree : ColorTree NodeId) (height : Nat) (balanced : Balanced tree true height) :
    ∃ near id far, tree = join side true near id far ∧ Balanced near false height ∧ Balanced far false height := by
  cases balanced with
  | red left right id _ leftOk rightOk =>
      cases side with
      | left => exact ⟨left, id, right, rfl, leftOk, rightOk⟩
      | right => exact ⟨right, id, left, rfl, rightOk, leftOk⟩

theorem balanced_black_join (side : Side) (tree : ColorTree NodeId) (height : Nat)
    (balanced : Balanced tree false (height + 1)) : ∃ near id far nearRed farRed, tree = join side false near id far ∧
      Balanced near nearRed height ∧ Balanced far farRed height := by
  cases balanced with
  | black left right id leftRed rightRed _ leftOk rightOk =>
      cases side with
      | left => exact ⟨left, id, right, leftRed, rightRed, rfl, leftOk, rightOk⟩
      | right => exact ⟨right, id, left, rightRed, leftRed, rfl, rightOk, leftOk⟩

theorem far_nephew_pass (side around : Side) (tree : RBTree K V) (red nearRed : Bool) (focus near left right : ColorTree NodeId)
    (parent w f : NodeId) (outer : List (Frame NodeId)) (height : Nat)
    (deficient : Deficient tree focus (⟨side, red, parent, join side false near w (join around true left f right)⟩ :: outer))
    (focusOk : Balanced focus false height) (nearOk : Balanced near nearRed height) (leftOk : Balanced left false height)
    (rightOk : Balanced right false height)
    (hole : Hole (⟨side, red, parent, join side false near w (join around true left f right)⟩ :: outer) red (height + 1)) :
    ∃ next focus' frames' height', farNephew side tree (top focus) (some w) = some (next, top focus') ∧
      Passed side red tree next focus (join side false near w (join around true left f right)) focus' parent outer frames'
        height' := by
  obtain ⟨next, finished, repNext, keptNext⟩ := far_nephew_spec side around tree red focus near left right parent w f outer
    deficient
  obtain ⟨outerRed, outerOk, closed⟩ := hole_fill side red parent _ outer height hole
  have nearSide : Balanced (join side false focus parent near) false (height + 1) :=
    (balanced_join_black _ _ _ _ _ _).mpr ⟨rfl, height, false, nearRed, rfl, focusOk, nearOk⟩
  have farSide : Balanced (join around false left f right) false (height + 1) :=
    (balanced_join_black _ _ _ _ _ _).mpr ⟨rfl, height, false, false, rfl, leftOk, rightOk⟩
  have balanced : ∃ total, Balanced (plug (join side red (join side false focus parent near) w
      (join around false left f right)) outer) false total := by
    cases red with
    | true =>
        obtain ⟨rfl, outerSome⟩ := closed rfl
        have filled : Balanced (join side true (join side false focus parent near) w (join around false left f right)) true
            (height + 1) := (balanced_join_red _ _ _ _ _ _).mpr ⟨rfl, nearSide, farSide⟩
        have closedOuter : outer.isEmpty = false := by
          cases outer with
          | nil => exact absurd rfl outerSome
          | cons => rfl
        simpa [closedOuter] using plug_balanced _ outer true false (height + 1) filled (by simpa using outerOk) (by simp)
    | false =>
        have filled : Balanced (join side false (join side false focus parent near) w (join around false left f right)) false
            (height + 2) := (balanced_join_black _ _ _ _ _ _).mpr ⟨rfl, height + 1, false, false, rfl, nearSide, farSide⟩
        simpa using plug_balanced _ outer false outerRed (height + 2) filled (by simpa using outerOk) (by simp)
  obtain ⟨total, balanced⟩ := balanced
  refine ⟨next, _, [], total, finished, deficient_whole _ _ _ _ _ _ _ repNext, .black _ total balanced, ⟨false, .top _⟩, ?_,
    keptNext, Or.inl rfl⟩
  simp only [labels_plug_split]
  cases side <;> cases around <;> simp [join, labels, before, after]

theorem delete_nephews_spec (side : Side) (tree : RBTree K V) (red nearRed farRed : Bool) (focus near far : ColorTree NodeId)
    (parent w : NodeId) (outer : List (Frame NodeId)) (height : Nat)
    (deficient : Deficient tree focus (⟨side, red, parent, join side false near w far⟩ :: outer))
    (focusOk : Balanced focus false height) (nearOk : Balanced near nearRed height) (farOk : Balanced far farRed height)
    (hole : Hole (⟨side, red, parent, join side false near w far⟩ :: outer) red (height + 1)) :
    ∃ next focus' frames' height', deleteNephews side tree (top focus) (some w) = some (next, top focus') ∧
      Passed side red tree next focus (join side false near w far) focus' parent outer frames' height' := by
  obtain ⟨cell, nearLinked, farLinked⟩ := sibling_cell tree _ _ _ _ _ _ _ _ _ _ deficient.rep
  have nearIs : (tree.nodes w).child side = some (top near) := cell.near
  have farIs : (tree.nodes w).child side.other = some (top far) := cell.far
  have nearColor : tree.redRef (some (top near)) = nearRed :=
    (red_ref_top tree w near nearLinked deficient.rep.sentinel.1).trans (balanced_root_red _ _ _ nearOk)
  have farColor : tree.redRef (some (top far)) = farRed :=
    (red_ref_top tree w far farLinked deficient.rep.sentinel.1).trans (balanced_root_red _ _ _ farOk)
  cases farRed with
  | true =>
      have unfolded : deleteNephews side tree (top focus) (some w) = farNephew side tree (top focus) (some w) := by
        simp only [deleteNephews, Option.bind_some, nearIs, farIs, nearColor, farColor, Bool.not_true, Bool.and_false,
          Bool.false_eq_true, if_false, Option.bind_eq_bind]
      rw [unfolded]
      cases farOk with
      | red left right f _ leftOk rightOk =>
          exact far_nephew_pass side .left tree red nearRed focus near left right parent w f outer height deficient focusOk nearOk
            leftOk rightOk hole
  | false =>
      cases nearRed with
      | true =>
          have unfolded : deleteNephews side tree (top focus) (some w) =
              (nearNephew side tree (top focus) (some w)).bind fun moved => farNephew side moved.1 (top focus) moved.2 := by
            simp only [deleteNephews, Option.bind_some, nearIs, farIs, nearColor, farColor, Bool.not_true, Bool.false_and,
              Bool.not_false, Bool.false_eq_true, if_false, if_true, Option.bind_eq_bind]
          rw [unfolded]
          obtain ⟨inner, v, middle, rfl, innerOk, middleOk⟩ := balanced_red_join side near height nearOk
          obtain ⟨mid, turned, deficientMid, keptMid⟩ := near_nephew_spec side tree red focus inner middle far parent w v outer
            deficient
          have lower : Balanced (join side true middle w far) true height :=
            (balanced_join_red _ _ _ _ _ _).mpr ⟨rfl, middleOk, farOk⟩
          have holeMid := hole_sibling side red parent _ (join side false inner v (join side true middle w far)) outer
            (height + 1) hole ((balanced_join_black _ _ _ _ _ _).mpr ⟨rfl, height, false, true, rfl, innerOk, lower⟩)
          obtain ⟨next, focus', frames', height', finished, passed⟩ := far_nephew_pass side side mid red false focus inner middle
            far parent v w outer height deficientMid focusOk innerOk middleOk farOk holeMid
          refine ⟨next, focus', frames', height', by rw [turned]; exact finished, passed.deficient, passed.lacking,
            passed.hole, ?_, kept_trans _ _ _ keptMid passed.kept, passed.progress⟩
          rw [passed.labels]
          simp only [labels_plug_split]
          cases side <;> simp [join, labels]
      | false =>
          have parentIs : ((tree.setRed w true).nodes (top focus)).parent = some parent := by
            obtain ⟨rep', kept⟩ := recolor_sibling tree side side red false true focus near far parent w outer deficient.rep
            exact (deficient_kept tree _ focus _ _ deficient rep' kept rfl).parent
          have unfolded : deleteNephews side tree (top focus) (some w) = some (tree.setRed w true, parent) := by
            simp only [deleteNephews, Option.bind_some, nearIs, farIs, nearColor, farColor, Bool.not_false, Bool.and_self,
              if_true, Option.elim_some, parentIs, Option.bind_eq_bind]
          obtain ⟨repNext, keptNext⟩ := recolor_sibling tree side side red false true focus near far parent w outer deficient.rep
          have siblingOk : Balanced (join side true near w far) true height :=
            (balanced_join_red _ _ _ _ _ _).mpr ⟨rfl, nearOk, farOk⟩
          have blackOk : Balanced (join side false focus parent (join side true near w far)) false (height + 1) :=
            (balanced_join_black _ _ _ _ _ _).mpr ⟨rfl, height, false, true, rfl, focusOk, siblingOk⟩
          obtain ⟨outerRed, outerOk, _⟩ := hole_fill side red parent _ outer height hole
          have sameLabels : (plug (join side red focus parent (join side true near w far)) outer).labels =
              (plug (join side red focus parent (join side false near w far)) outer).labels := by
            simp only [labels_plug_split]
            cases side <;> simp [join, labels]
          have deficientNext := deficient_of_real _ _ _ _ _ _ _ (represents_outward _ _ _ _ repNext)
          cases red with
          | true =>
              exact ⟨_, _, outer, height, by rw [unfolded, top_join], deficientNext, .red side focus _ parent height blackOk,
                ⟨outerRed, by simpa using outerOk⟩, sameLabels, keptNext, Or.inr ⟨rfl, by simp⟩⟩
          | false =>
              exact ⟨_, _, outer, height + 1, by rw [unfolded, top_join], deficientNext, .black _ (height + 1) blackOk,
                ⟨outerRed, by simpa using outerOk⟩, sameLabels, keptNext, Or.inr ⟨rfl, by simp⟩⟩

theorem delete_fixup_side_spec (side : Side) (tree : RBTree K V) (red : Bool) (focus sibling : ColorTree NodeId)
    (parent : NodeId) (outer : List (Frame NodeId)) (height : Nat)
    (deficient : Deficient tree focus (⟨side, red, parent, sibling⟩ :: outer)) (focusOk : Balanced focus false height)
    (hole : Hole (⟨side, red, parent, sibling⟩ :: outer) red (height + 1)) :
    ∃ next focus' frames' height', deleteFixupSide side tree (top focus) = some (next, top focus') ∧
      Deficient next focus' frames' ∧ Lacking focus' height' ∧ (∃ parentRed, Hole frames' parentRed (height' + 1)) ∧
      (plug focus' frames').labels = (plug (join side red focus parent sibling) outer).labels ∧ Kept tree next ∧
      (frames'.length ≤ outer.length ∨ rootRed focus' = true) := by
  obtain ⟨siblingRed, siblingOk⟩ : ∃ siblingRed, Balanced sibling siblingRed (height + 1) ∧ (red = true → siblingRed = false) := by
    cases hole with
    | red _ _ _ grand rest _ siblingOk outerOk => exact ⟨false, siblingOk, fun _ => rfl⟩
    | black _ _ _ _ siblingRed outerRed _ siblingOk outerOk => exact ⟨siblingRed, siblingOk, fun impossible => by simp at impossible⟩
  obtain ⟨siblingOk, frameBlack⟩ := siblingOk
  cases siblingRed with
  | false =>
      have first := red_sibling_black side tree focus sibling red parent outer deficient (balanced_root_red _ _ _ siblingOk)
      obtain ⟨near, w, far, nearRed, farRed, rfl, nearOk, farOk⟩ := balanced_black_join side sibling height siblingOk
      obtain ⟨next, focus', frames', height', finished, passed⟩ := delete_nephews_spec side tree red nearRed farRed focus near far
        parent w outer height deficient focusOk nearOk farOk hole
      refine ⟨next, focus', frames', height', ?_, passed.deficient, passed.lacking, passed.hole, passed.labels, passed.kept, ?_⟩
      · simp only [deleteFixupSide, first, Option.bind_eq_bind, Option.bind_some, top_join, finished]
      · rcases passed.progress with rfl | ⟨rfl, _⟩
        · exact Or.inl (Nat.zero_le _)
        · exact Or.inl (Nat.le_refl _)
  | true =>
      have black : red = false := by
        cases red with
        | true => exact absurd (frameBlack rfl) (by simp)
        | false => rfl
      subst black
      obtain ⟨near, w, far, rfl, nearOk, farOk⟩ := balanced_red_join side sibling (height + 1) siblingOk
      obtain ⟨mid, first, deficientMid, keptMid⟩ := red_sibling_red side tree focus near far parent w outer deficient
      obtain ⟨outerRed, outerOk, _⟩ := hole_fill side false parent _ outer height hole
      have holeMid : Hole (⟨side, true, parent, near⟩ :: ⟨side, false, w, far⟩ :: outer) true (height + 1) :=
        .red side parent near _ outer (height + 1) nearOk (.black side w far outer false outerRed (height + 1) farOk
          (by simpa using outerOk))
      obtain ⟨near', w', far', nearRed, farRed, rfl, nearOk', farOk'⟩ := balanced_black_join side near height nearOk
      obtain ⟨next, focus', frames', height', finished, passed⟩ := delete_nephews_spec side mid true nearRed farRed focus near' far'
        parent w' _ height deficientMid focusOk nearOk' farOk' holeMid
      refine ⟨next, focus', frames', height', ?_, passed.deficient, passed.lacking, passed.hole, ?_,
        kept_trans _ _ _ keptMid passed.kept, ?_⟩
      · simp only [top_join] at first
        simp only [deleteFixupSide, first, Option.bind_eq_bind, Option.bind_some, finished]
      · rw [passed.labels]
        simp only [plug, labels_plug_split]
        cases side <;> simp [join, labels]
      · rcases passed.progress with rfl | ⟨rfl, isRed⟩
        · exact Or.inl (Nat.zero_le _)
        · exact Or.inr (isRed rfl)

theorem set_red_same (tree : RBTree K V) (id : NodeId) (red : Bool) (same : (tree.nodes id).isRed = red) :
    tree.setRed id red = tree := by
  subst same
  simp [setRed, write]

theorem top_plug_outside (focus : ColorTree NodeId) (frame : Frame NodeId) (outer : List (Frame NodeId)) :
    top (plug focus (frame :: outer)) ∈ outside (frame :: outer) := by
  induction outer generalizing focus frame with
  | nil => simp [plug, outside]
  | cons next rest ih =>
      have inner := ih (join frame.side frame.red focus frame.label frame.sibling) next
      rw [plug]
      simp only [outside, List.mem_cons, List.mem_append] at inner ⊢
      tauto

theorem root_outside (tree : RBTree K V) (focus : ColorTree NodeId) (frame : Frame NodeId) (outer : List (Frame NodeId))
    (rep : Represents tree focus (frame :: outer)) : tree.root ≠ some (top focus) := by
  have inside := top_plug_outside focus frame outer
  rw [rep.root]
  intro same
  rw [Option.some.inj same] at inside
  cases focus with
  | nil => exact above_real _ _ _ rep.up inside
  | node red left id right => exact (represents_nodup tree _ _ rep).2.2 id (by simp [labels]) inside

theorem delete_fixup_exit (fuel : Nat) (tree : RBTree K V) (focus : ColorTree NodeId)
    (stop : tree.root = some (top focus) ∨ (tree.nodes (top focus)).isRed = true) :
    deleteFixup (fuel + 1) tree (top focus) = some (tree.setRed (top focus) false) := by
  rw [deleteFixup, if_neg]
  rintro ⟨notRoot, black⟩
  rcases stop with isRoot | isRed
  · exact notRoot isRoot
  · exact absurd (isRed.symm.trans black) (by simp)

theorem hole_sibling_real (tree : RBTree K V) (side : Side) (red : Bool) (focus sibling : ColorTree NodeId) (parent : NodeId)
    (outer : List (Frame NodeId)) (height : Nat) (rep : Represents tree focus (⟨side, red, parent, sibling⟩ :: outer))
    (hole : Hole (⟨side, red, parent, sibling⟩ :: outer) red (height + 1)) : top sibling ≠ nilId := by
  have balanced : ∃ color, Balanced sibling color (height + 1) := by
    cases hole with
    | red _ _ _ _ _ _ siblingOk _ => exact ⟨_, siblingOk⟩
    | black _ _ _ _ _ _ _ siblingOk _ => exact ⟨_, siblingOk⟩
  obtain ⟨color, balanced⟩ := balanced
  cases sibling with
  | nil => cases balanced
  | node color left id right => exact rep.up.2.1.1.real

theorem delete_fixup_spec (fuel : Nat) (tree : RBTree K V) (focus : ColorTree NodeId) (frames : List (Frame NodeId))
    (parentRed : Bool) (height : Nat) (deficient : Deficient tree focus frames) (lacking : Lacking focus height)
    (hole : Hole frames parentRed (height + 1)) (positive : 0 < fuel) (enough : rootRed focus = false → frames.length < fuel) :
    ∃ next whole total, deleteFixup fuel tree (top focus) = some next ∧ Represents next whole [] ∧
      Balanced whole false total ∧ whole.labels = (plug focus frames).labels ∧ Kept tree next := by
  induction fuel generalizing tree focus frames parentRed height with
  | zero => omega
  | succ fuel ih =>
      cases lacking with
      | red side near far id _ blackOk =>
          have isRed : (tree.nodes id).isRed = true := ((linked_join _ _ _ _ _ _ _).mp deficient.rep.down).1.red
          obtain ⟨repNext, kept⟩ := represents_recolor tree side true false near far id frames deficient.rep
          obtain ⟨total, balanced⟩ := plug_balanced _ frames false parentRed (height + 1) blackOk hole (by simp)
          have finished := delete_fixup_exit fuel tree (join side true near id far) (Or.inr (by simpa using isRed))
          rw [top_join] at finished ⊢
          exact ⟨_, _, total, finished, represents_plug _ _ _ repNext, by simpa using balanced,
            by simp only [labels_plug_split, labels_recolor side false true near far id], kept⟩
      | black _ _ focusOk =>
          have black := balanced_root_red _ _ _ focusOk
          have color := red_ref_top tree (holder frames) focus deficient.rep.down deficient.rep.sentinel.1
          rw [black] at color
          cases frames with
          | nil =>
              have finished := delete_fixup_exit fuel tree focus (Or.inl deficient.rep.root)
              rw [set_red_same tree (top focus) false color] at finished
              exact ⟨tree, focus, height, finished, deficient.rep, focusOk, rfl, kept_refl tree⟩
          | cons frame outer =>
              obtain ⟨side, red, parent, sibling⟩ := frame
              have sameRed : red = parentRed := by cases hole <;> rfl
              subst sameRed
              have parentIs := deficient.parent
              have siblingReal : top focus ≠ nilId ∨ top sibling ≠ nilId :=
                Or.inr (hole_sibling_real tree side red focus sibling parent outer height deficient.rep hole)
              have sideIs := frame_side tree focus _ outer deficient.rep siblingReal
              obtain ⟨mid, focus', frames', height', turned, deficient', lacking', ⟨parentRed', hole'⟩, labels', kept', shorter⟩ :=
                delete_fixup_side_spec side tree red focus sibling parent outer height deficient focusOk hole
              have notRoot := root_outside tree focus _ outer deficient.rep
              have unfolded : deleteFixup (fuel + 1) tree (top focus) = deleteFixup fuel mid (top focus') := by
                simp only [holder] at parentIs sideIs
                rw [deleteFixup, if_pos ⟨notRoot, color⟩]
                simp only [parentIs, Option.bind_eq_bind, Option.bind_some, sideIs, turned]
              have room := enough black
              simp only [List.length_cons] at room
              obtain ⟨next, whole, total, finished, repNext, wholeOk, labelsNext, keptNext⟩ :=
                ih mid focus' frames' parentRed' height' deficient' lacking' hole' (by omega) (by
                  intro blackAgain
                  rcases shorter with short | isRed
                  · omega
                  · exact absurd (isRed.symm.trans blackAgain) (by simp))
              exact ⟨next, whole, total, unfolded.trans finished, repNext, wholeOk, labelsNext.trans labels',
                kept_trans _ _ _ kept' keptNext⟩

end RingServer.RBTree
