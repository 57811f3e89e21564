import RingServer.Types.RBTreeInsert

set_option autoImplicit false

namespace RingServer.RBTree

open Library Library.ColorTree

variable {K V : Type}

def Stored (tree : RBTree K V) (id : NodeId) (key : K) (data : V) : Prop :=
  (tree.nodes id).key = some key ∧ (tree.nodes id).data = some data

variable [LinearOrder K]

structure Ascending (tree : RBTree K V) (ids : List NodeId) : Prop where
  stored : ∀ id ∈ ids, ∃ key data, Stored tree id key data
  sorted : ids.Pairwise fun a b => ∀ keyA keyB, (tree.nodes a).key = some keyA → (tree.nodes b).key = some keyB → keyA < keyB

theorem ascending_congr (old new : RBTree K V) (ids : List NodeId) (ascending : Ascending old ids)
    (same : ∀ id ∈ ids, (new.nodes id).key = (old.nodes id).key ∧ (new.nodes id).data = (old.nodes id).data) :
    Ascending new ids := by
  refine ⟨fun id member => ?_, ascending.sorted.imp_of_mem fun {a b} inA inB ordered => ?_⟩
  · obtain ⟨key, data, keyIs, dataIs⟩ := ascending.stored id member
    exact ⟨key, data, (same id member).1.trans keyIs, (same id member).2.trans dataIs⟩
  · intro keyA keyB isA isB
    exact ordered keyA keyB ((same a inA).1.symm.trans isA) ((same b inB).1.symm.trans isB)

theorem ascending_append (tree : RBTree K V) (left right : List NodeId) :
    Ascending tree (left ++ right) ↔ Ascending tree left ∧ Ascending tree right ∧ ∀ a ∈ left, ∀ b ∈ right,
      ∀ keyA keyB, (tree.nodes a).key = some keyA → (tree.nodes b).key = some keyB → keyA < keyB := by
  constructor
  · rintro ⟨stored, sorted⟩
    obtain ⟨leftSorted, rightSorted, across⟩ := List.pairwise_append.mp sorted
    exact ⟨⟨fun id member => stored id (by simp [member]), leftSorted⟩,
      ⟨fun id member => stored id (by simp [member]), rightSorted⟩, across⟩
  · rintro ⟨⟨leftStored, leftSorted⟩, ⟨rightStored, rightSorted⟩, across⟩
    refine ⟨fun id member => ?_, List.pairwise_append.mpr ⟨leftSorted, rightSorted, across⟩⟩
    rcases List.mem_append.mp member with inLeft | inRight
    · exact leftStored id inLeft
    · exact rightStored id inRight

theorem ascending_node (tree : RBTree K V) (left right : List NodeId) (id : NodeId)
    (ascending : Ascending tree (left ++ id :: right)) : ∃ key data, Stored tree id key data ∧
      Ascending tree left ∧ Ascending tree right ∧
      (∀ a ∈ left, ∀ keyA, (tree.nodes a).key = some keyA → keyA < key) ∧
      (∀ b ∈ right, ∀ keyB, (tree.nodes b).key = some keyB → key < keyB) := by
  obtain ⟨leftOk, restOk, across⟩ := (ascending_append tree left (id :: right)).mp ascending
  obtain ⟨key, data, stored⟩ := restOk.stored id (by simp)
  have sorted := List.pairwise_cons.mp restOk.sorted
  exact ⟨key, data, stored, leftOk, ⟨fun b member => restOk.stored b (by simp [member]), sorted.2⟩,
    fun a member keyA isA => across a member id (by simp) keyA key isA stored.1,
    fun b member keyB isB => sorted.1 b member key keyB stored.1 isB⟩

theorem ascending_insert (tree : RBTree K V) (lower upper : List NodeId) (id : NodeId) (key : K) (data : V)
    (ascending : Ascending tree (lower ++ upper)) (stored : Stored tree id key data)
    (below : ∀ a ∈ lower, ∀ keyA, (tree.nodes a).key = some keyA → keyA < key)
    (above : ∀ b ∈ upper, ∀ keyB, (tree.nodes b).key = some keyB → key < keyB) :
    Ascending tree (lower ++ id :: upper) := by
  obtain ⟨lowerOk, upperOk, across⟩ := (ascending_append tree lower upper).mp ascending
  refine (ascending_append tree lower (id :: upper)).mpr ⟨lowerOk, ⟨?_, List.pairwise_cons.mpr ⟨?_, upperOk.sorted⟩⟩, ?_⟩
  · intro other member
    rcases List.mem_cons.mp member with rfl | inside
    · exact ⟨key, data, stored⟩
    · exact upperOk.stored other inside
  · intro b member keyA keyB isA isB
    exact Option.some.inj (stored.1.symm.trans isA) ▸ above b member keyB isB
  · intro a member b inside keyA keyB isA isB
    rcases List.mem_cons.mp inside with rfl | inside
    · exact Option.some.inj (stored.1.symm.trans isB) ▸ below a member keyA isA
    · exact across a member b inside keyA keyB isA isB

theorem ascending_unique (tree : RBTree K V) (ids : List NodeId) (a b : NodeId) (key : K) (ascending : Ascending tree ids)
    (inA : a ∈ ids) (inB : b ∈ ids) (isA : (tree.nodes a).key = some key) (isB : (tree.nodes b).key = some key) : a = b := by
  induction ids with
  | nil => simp at inA
  | cons id rest ih =>
      obtain ⟨key', data, stored, _, restOk, _, above⟩ := ascending_node tree [] rest id ascending
      rcases List.mem_cons.mp inA with rfl | restA
      · rcases List.mem_cons.mp inB with rfl | restB
        · rfl
        · have same : key' = key := Option.some.inj (stored.1.symm.trans isA)
          exact absurd (above b restB key isB) (by simp [same])
      · rcases List.mem_cons.mp inB with rfl | restB
        · have same : key' = key := Option.some.inj (stored.1.symm.trans isB)
          exact absurd (above a restA key isA) (by simp [same])
        · exact ih restOk restA restB

theorem find_from_spec (tree : RBTree K V) (key : K) (fuel : Nat) (parent : NodeId) (part : ColorTree NodeId)
    (linked : Linked tree.nodes parent part) (ascending : Ascending tree part.labels) (enough : part.height < fuel) :
    ∃ found, findFrom tree key fuel (top part) = some found ∧
      (∀ id, found = some id → id ∈ part.labels ∧ (tree.nodes id).key = some key) ∧
      (found = none → ∀ id ∈ part.labels, (tree.nodes id).key ≠ some key) := by
  induction part generalizing fuel parent with
  | nil =>
      obtain ⟨rest, rfl⟩ : ∃ rest, fuel = rest + 1 := ⟨fuel - 1, by omega⟩
      exact ⟨none, by simp [findFrom, top], by simp, by simp [labels]⟩
  | node red left id right leftIh rightIh =>
      obtain ⟨rest, rfl⟩ : ∃ rest, fuel = rest + 1 := ⟨fuel - 1, by omega⟩
      obtain ⟨cell, leftLinked, rightLinked⟩ := linked
      obtain ⟨nodeKey, data, stored, leftOk, rightOk, below, above⟩ := ascending_node tree left.labels right.labels id ascending
      have leftChild : (tree.nodes id).left = some (top left) := cell.near
      have rightChild : (tree.nodes id).right = some (top right) := cell.far
      have real : ¬ id = nilId := cell.real
      simp only [height] at enough
      simp only [top_node, findFrom, real, if_false, stored.1, compareFunc, Option.bind_eq_bind, leftChild, rightChild,
        Option.bind_some]
      cases order : compare key nodeKey with
      | eq =>
          have same := compare_eq_iff_eq.mp order
          refine ⟨some id, rfl, ?_, by simp⟩
          rintro other ⟨⟩
          exact ⟨by simp [labels], by rw [stored.1, same]⟩
      | lt =>
          have less := compare_lt_iff_lt.mp order
          obtain ⟨found, result, present, absent⟩ := leftIh rest id leftLinked leftOk (by omega)
          refine ⟨found, result, fun other isOther => ?_, fun missing other member isKey => ?_⟩
          · exact ⟨by simp [labels, (present other isOther).1], (present other isOther).2⟩
          · simp only [labels, List.mem_append, List.mem_cons] at member
            rcases member with inLeft | rfl | inRight
            · exact absent missing other inLeft isKey
            · exact absurd (Option.some.inj (stored.1.symm.trans isKey)) (ne_of_gt less)
            · exact absurd (above other inRight key isKey) (not_lt_of_gt less)
      | gt =>
          have greater := compare_gt_iff_gt.mp order
          obtain ⟨found, result, present, absent⟩ := rightIh rest id rightLinked rightOk (by omega)
          refine ⟨found, result, fun other isOther => ?_, fun missing other member isKey => ?_⟩
          · exact ⟨by simp [labels, (present other isOther).1], (present other isOther).2⟩
          · simp only [labels, List.mem_append, List.mem_cons] at member
            rcases member with inLeft | rfl | inRight
            · exact absurd (below other inLeft key isKey) (not_lt_of_gt greater)
            · exact absurd (Option.some.inj (stored.1.symm.trans isKey)) (ne_of_lt greater)
            · exact absent missing other inRight isKey

omit [LinearOrder K] in
theorem traverse_node_spec (tree : RBTree K V) (fuel : Nat) (parent : NodeId) (part : ColorTree NodeId)
    (linked : Linked tree.nodes parent part) (enough : part.height < fuel) :
    traverseNode tree fuel (some (top part)) = some part.labels := by
  induction part generalizing fuel parent with
  | nil =>
      obtain ⟨rest, rfl⟩ : ∃ rest, fuel = rest + 1 := ⟨fuel - 1, by omega⟩
      simp [traverseNode, top, labels]
  | node red left id right leftIh rightIh =>
      obtain ⟨rest, rfl⟩ : ∃ rest, fuel = rest + 1 := ⟨fuel - 1, by omega⟩
      obtain ⟨cell, leftLinked, rightLinked⟩ := linked
      have leftChild : (tree.nodes id).left = some (top left) := cell.near
      have rightChild : (tree.nodes id).right = some (top right) := cell.far
      have real : ¬ id = nilId := cell.real
      simp only [height] at enough
      simp only [top_node, traverseNode, real, if_false, Option.bind_eq_bind, leftChild, rightChild, Option.bind_some,
        leftIh rest id leftLinked (by omega), rightIh rest id rightLinked (by omega), labels]

theorem insert_descend_spec (tree : RBTree K V) (key : K) (fuel : Nat) (focus : ColorTree NodeId) (frames : List (Frame NodeId))
    (down : Linked tree.nodes (holder frames) focus) (ascending : Ascending tree focus.labels)
    (below : ∀ a ∈ before frames, ∀ keyA, (tree.nodes a).key = some keyA → keyA < key)
    (above : ∀ b ∈ after frames, ∀ keyB, (tree.nodes b).key = some keyB → key < keyB)
    (absent : ∀ id ∈ focus.labels, (tree.nodes id).key ≠ some key) (enough : focus.height < fuel) :
    ∃ inner, insertDescend tree key fuel (top focus) (holder frames) = some (holder inner) ∧
      plug .nil inner = plug focus frames ∧
      (∀ a ∈ before inner, ∀ keyA, (tree.nodes a).key = some keyA → keyA < key) ∧
      (∀ b ∈ after inner, ∀ keyB, (tree.nodes b).key = some keyB → key < keyB) := by
  induction focus generalizing fuel frames with
  | nil =>
      obtain ⟨rest, rfl⟩ : ∃ rest, fuel = rest + 1 := ⟨fuel - 1, by omega⟩
      exact ⟨frames, by simp [insertDescend, top], rfl, below, above⟩
  | node red left id right leftIh rightIh =>
      obtain ⟨rest, rfl⟩ : ∃ rest, fuel = rest + 1 := ⟨fuel - 1, by omega⟩
      obtain ⟨cell, leftLinked, rightLinked⟩ := down
      obtain ⟨nodeKey, data, stored, leftOk, rightOk, lower, upper⟩ := ascending_node tree left.labels right.labels id ascending
      have leftChild : (tree.nodes id).left = some (top left) := cell.near
      have rightChild : (tree.nodes id).right = some (top right) := cell.far
      have real : ¬ id = nilId := cell.real
      have different : key ≠ nodeKey := fun same => absent id (by simp [labels]) (by rw [stored.1, same])
      simp only [height] at enough
      simp only [top_node, insertDescend, real, if_false, stored.1, compareFunc, Option.bind_eq_bind, leftChild, rightChild,
        Option.bind_some, compare_lt_iff_lt]
      by_cases less : key < nodeKey
      · rw [if_pos less]
        have reached := leftIh rest (⟨.left, red, id, right⟩ :: frames) leftLinked leftOk below ?_
          (fun other member => absent other (by simp [labels, member])) (by omega)
        · exact reached
        · intro b member keyB isB
          simp only [after, List.mem_cons, List.mem_append] at member
          rcases member with rfl | inRight | outer
          · rw [stored.1] at isB
            exact Option.some.inj isB ▸ less
          · exact less.trans (upper b inRight keyB isB)
          · exact above b outer keyB isB
      · rw [if_neg less]
        have greater : nodeKey < key := lt_of_le_of_ne (not_lt.mp less) (Ne.symm different)
        have reached := rightIh rest (⟨.right, red, id, left⟩ :: frames) rightLinked rightOk ?_ above
          (fun other member => absent other (by simp [labels, member])) (by omega)
        · exact reached
        · intro a member keyA isA
          simp only [before, List.mem_append, List.mem_singleton] at member
          rcases member with outer | inLeft | rfl
          · exact below a outer keyA isA
          · exact (lower a inLeft keyA isA).trans greater
          · rw [stored.1] at isA
            exact Option.some.inj isA ▸ greater

def Turned (tree : RBTree K V) (key : K) (frames : List (Frame NodeId)) : Prop :=
  ∀ frame outer, frames = frame :: outer → (compareFunc (some key) (tree.nodes frame.label).key = .lt ↔ frame.side = .left)

theorem insert_descend_ends (tree : RBTree K V) (key : K) (fuel : Nat) (focus : ColorTree NodeId) (frames : List (Frame NodeId))
    (down : Linked tree.nodes (holder frames) focus) (turned : Turned tree key frames) (enough : focus.height < fuel) :
    ∃ inner, insertDescend tree key fuel (top focus) (holder frames) = some (holder inner) ∧
      plug .nil inner = plug focus frames ∧ Turned tree key inner := by
  induction focus generalizing fuel frames with
  | nil =>
      obtain ⟨rest, rfl⟩ : ∃ rest, fuel = rest + 1 := ⟨fuel - 1, by omega⟩
      exact ⟨frames, by simp [insertDescend, top], rfl, turned⟩
  | node red left id right leftIh rightIh =>
      obtain ⟨rest, rfl⟩ : ∃ rest, fuel = rest + 1 := ⟨fuel - 1, by omega⟩
      obtain ⟨cell, leftLinked, rightLinked⟩ := down
      have leftChild : (tree.nodes id).left = some (top left) := cell.near
      have rightChild : (tree.nodes id).right = some (top right) := cell.far
      have real : ¬ id = nilId := cell.real
      simp only [height] at enough
      simp only [top_node, insertDescend, real, if_false, Option.bind_eq_bind, leftChild, rightChild, Option.bind_some]
      by_cases less : compareFunc (some key) (tree.nodes id).key = .lt
      · rw [if_pos less]
        refine leftIh rest (⟨.left, red, id, right⟩ :: frames) leftLinked (fun frame outer same => ?_) (by omega)
        rw [← (List.cons.inj same).1]
        exact iff_of_true less rfl
      · rw [if_neg less]
        refine rightIh rest (⟨.right, red, id, left⟩ :: frames) rightLinked (fun frame outer same => ?_) (by omega)
        rw [← (List.cons.inj same).1]
        exact iff_of_false less Side.noConfusion

omit [LinearOrder K] in
theorem hang_represents (tree tree' : RBTree K V) (frames : List (Frame NodeId)) (node : NodeId)
    (rep : Represents tree .nil frames) (isFresh : node = tree.next) (nextIs : tree'.next = tree.next + 1)
    (rootIs : tree'.root = if holder frames = nilId then some node else tree.root)
    (here : Cell tree'.nodes node true .left nilId nilId (holder frames))
    (hung : ∀ frame outer, frames = frame :: outer →
      tree'.nodes frame.label = (tree.nodes frame.label).setChild (some node) frame.side)
    (elsewhere : ∀ id, id ≠ node → (id = holder frames → id = nilId) → tree'.nodes id = tree.nodes id) :
    Represents tree' (.node true .nil node .nil) frames := by
  obtain ⟨root, down, up, distinct, allocated, fresh, sentinel⟩ := rep
  simp only [labels, List.nil_append] at distinct allocated
  have outsideNode : node ∉ outside frames := fun member => absurd (allocated node member) (isFresh ▸ Nat.lt_irrefl _)
  refine ⟨?_, ⟨here, trivial, trivial⟩, ?_, ?_, ?_, nextIs ▸ Nat.lt_succ_of_lt fresh, ?_⟩
  · rw [rootIs]
    cases frames with
    | nil => simp [holder, plug]
    | cons frame outer =>
        have real : holder (frame :: outer) ≠ nilId := up.1.real
        rw [if_neg real, root, top_plug_cons]
  · cases frames with
    | nil => trivial
    | cons frame outer =>
        refine above_repoint _ _ _ _ frame outer up (hung frame outer rfl) (fun id member => ?_)
        have member' : id ∈ outside (frame :: outer) := List.mem_cons_of_mem _ member
        refine elsewhere id (fun same => outsideNode (same ▸ member')) (fun same => ?_)
        rw [same] at member
        exact absurd member (List.nodup_cons.mp distinct).1
  · simpa [labels] using ⟨outsideNode, distinct⟩
  · intro id member
    simp only [labels, List.nil_append, List.singleton_append, List.mem_cons] at member
    rw [nextIs]
    rcases member with same | member
    · exact same ▸ isFresh ▸ Nat.lt_succ_self _
    · exact Nat.lt_succ_of_lt (allocated id member)
  · rw [elsewhere nilId (Ne.symm here.real) (fun _ => rfl)]
    exact sentinel

theorem hang_side (tree : RBTree K V) (frame : Frame NodeId) (outer : List (Frame NodeId)) (key parentKey : K)
    (isKey : (tree.nodes frame.label).key = some parentKey)
    (below : ∀ a ∈ before (frame :: outer), ∀ keyA, (tree.nodes a).key = some keyA → keyA < key)
    (above : ∀ b ∈ after (frame :: outer), ∀ keyB, (tree.nodes b).key = some keyB → key < keyB) :
    compareFunc (some key) (tree.nodes frame.label).key = .lt ↔ frame.side = .left := by
  obtain ⟨side, red, label, sibling⟩ := frame
  rw [isKey]
  simp only [compareFunc, compare_lt_iff_lt]
  cases side with
  | left => simpa using above label (by simp [after]) parentKey isKey
  | right => simpa using le_of_lt (below label (by simp [before]) parentKey isKey)

omit [LinearOrder K] in
theorem labels_lt_next (tree : RBTree K V) (whole : ColorTree NodeId) (rep : Represents tree whole []) :
    whole.labels.length < tree.next := by
  have distinct : (nilId :: whole.labels).Nodup := List.nodup_cons.mpr ⟨linked_real _ _ _ rep.down, by
    simpa [outside] using rep.distinct⟩
  have bound : (nilId :: whole.labels) ⊆ List.range tree.next := by
    intro id member
    rw [List.mem_range]
    rcases List.mem_cons.mp member with rfl | inside
    · exact rep.fresh
    · exact rep.allocated id (by simp [inside])
  have count : whole.labels.length + 1 ≤ tree.next := by
    simpa using (List.subperm_of_subset distinct bound).length_le
  exact count

-- InsertNode up to the call of InsertFixup, once the descent has ended at y.
def hang (tree : RBTree K V) (key : K) (node y : NodeId) : RBTree K V :=
  let tree := tree.setParent node (some y)
  let tree :=
    if y = nilId then { tree with root := some node }
    else if compareFunc (some key) (tree.nodes y).key = .lt then tree.setChild y (some node) .left
    else tree.setChild y (some node) .right
  ((tree.setChild node (some nilId) .left).setChild node (some nilId) .right).setRed node true

theorem insert_node_eq (tree : RBTree K V) (key : K) (node root y : NodeId) (rootIs : tree.root = some root)
    (reached : insertDescend tree key tree.next root nilId = some y) :
    insertNode tree key node = insertFixup (hang tree key node y).next (hang tree key node y) node := by
  simp only [insertNode, rootIs, reached, Option.bind_eq_bind, Option.bind_some, hang]
  rfl

theorem hang_next (tree : RBTree K V) (key : K) (node y : NodeId) : (hang tree key node y).next = tree.next := by
  simp only [hang, setRed, write_next, set_child_next, apply_ite RBTree.next, set_parent_next, ite_self]

theorem hang_root (tree : RBTree K V) (key : K) (node y : NodeId) :
    (hang tree key node y).root = if y = nilId then some node else tree.root := by
  simp only [hang, setRed, write_root, set_child_root, apply_ite RBTree.root, set_parent_root, ite_self]

theorem hang_nodes (tree : RBTree K V) (key : K) (node y : NodeId) (side : Side) (apart : y ≠ node)
    (sideIs : y ≠ nilId → (compareFunc (some key) (tree.nodes y).key = .lt ↔ side = .left)) (id : NodeId) :
    (hang tree key node y).nodes id =
      if id = node then { tree.nodes node with
        isRed := true, left := some nilId, right := some nilId, parent := some y }
      else if id = y ∧ y ≠ nilId then (tree.nodes y).setChild (some node) side
      else tree.nodes id := by
  by_cases isRoot : y = nilId
  · by_cases atNode : id = node
    · subst atNode
      simp [hang, setRed, setChild, setParent, RBNode.setChild, isRoot]
    · simp [hang, setRed, setChild, setParent, write_nodes, isRoot, atNode]
  · have parentNode : (tree.setParent node (some y)).nodes y = tree.nodes y := write_elsewhere _ _ _ _ apart
    have repointed : (if compareFunc (some key) ((tree.setParent node (some y)).nodes y).key = .lt
        then (tree.setParent node (some y)).setChild y (some node) .left
        else (tree.setParent node (some y)).setChild y (some node) .right) =
        (tree.setParent node (some y)).setChild y (some node) side := by
      rw [parentNode]
      cases side with
      | left => rw [if_pos ((sideIs isRoot).mpr rfl)]
      | right => rw [if_neg (fun less => by simpa using (sideIs isRoot).mp less)]
    simp only [hang, if_neg isRoot, repointed]
    simp only [setRed, set_child_nodes, set_parent_nodes, write_nodes]
    by_cases atNode : id = node
    · subst atNode
      simp [RBNode.setChild, Ne.symm apart]
    · by_cases atY : id = y
      · subst atY
        simp [atNode, isRoot]
      · simp [atNode, atY]

def freshNode (tree : RBTree K V) (key : K) (data : V) : RBTree K V :=
  { tree with next := tree.next + 1 }.write tree.next ⟨some key, some data, true, none, none, none⟩

omit [LinearOrder K] in
theorem fresh_node_old (tree : RBTree K V) (whole : ColorTree NodeId) (key : K) (data : V) (rep : Represents tree whole []) :
    ∀ id ∈ whole.labels, (freshNode tree key data).nodes id = tree.nodes id := by
  intro id member
  refine write_elsewhere _ _ _ _ (fun equal => ?_)
  exact absurd (rep.allocated id (by simp [member])) (by rw [equal]; exact Nat.lt_irrefl _)

theorem insert_hung (tree : RBTree K V) (whole : ColorTree NodeId) (total : Nat) (key : K) (data : V)
    (rep : Represents tree whole []) (balanced : Balanced whole false total) (frames : List (Frame NodeId))
    (reached : insertDescend (freshNode tree key data) key (tree.next + 1) (top whole) nilId = some (holder frames))
    (plugged : plug .nil frames = whole) (turned : Turned (freshNode tree key data) key frames) :
    ∃ next whole' total', insert tree key data = some (next, tree.next) ∧ Represents next whole' [] ∧
      Balanced whole' false total' ∧ whole.labels = before frames ++ after frames ∧
      whole'.labels = before frames ++ tree.next :: after frames ∧
      ∀ id, (next.nodes id).key = ((freshNode tree key data).nodes id).key ∧
        (next.nodes id).data = ((freshNode tree key data).nodes id).data := by
  have unchanged : ∀ id, id ≠ tree.next → (freshNode tree key data).nodes id = tree.nodes id := fun id different =>
    write_elsewhere _ _ _ _ different
  have bound := labels_lt_next tree whole rep
  have repFrames : Represents tree .nil frames := represents_unplug tree .nil frames (plugged ▸ rep)
  obtain ⟨red, parentRed, height, nilOk, hole, _⟩ := balanced_plug .nil frames total (plugged ▸ balanced)
  have sameLabels := labels_plug_split .nil frames
  rw [plugged] at sameLabels
  simp only [labels, List.nil_append] at sameLabels
  have apart : holder frames ≠ tree.next := by
    by_cases root : holder frames = nilId
    · exact root ▸ Nat.ne_of_lt rep.fresh
    · have allocated := repFrames.allocated (holder frames) (by simp [labels, holder_mem frames root])
      exact Nat.ne_of_lt allocated
  obtain ⟨side, sideIs, frameSide⟩ : ∃ side, (holder frames ≠ nilId →
      (compareFunc (some key) ((freshNode tree key data).nodes (holder frames)).key = .lt ↔ side = .left)) ∧
      (∀ frame outer, frames = frame :: outer → frame.side = side) := by
    cases frames with
    | nil => exact ⟨.left, fun real => absurd rfl real, fun _ _ equal => by simp at equal⟩
    | cons frame outer => exact ⟨frame.side, fun _ => turned frame outer rfl, fun _ _ equal => by rw [(List.cons.inj equal).1]⟩
  have nodes := hang_nodes (freshNode tree key data) key tree.next (holder frames) side apart sideIs
  have hungRep : Represents (hang (freshNode tree key data) key tree.next (holder frames)) (join .left true .nil tree.next .nil)
      frames := by
    refine hang_represents tree _ frames tree.next repFrames rfl (hang_next _ _ _ _) (hang_root _ _ _ _) ?_ ?_ ?_
    · have real : tree.next ≠ nilId := Ne.symm (Nat.ne_of_lt rep.fresh)
      exact ⟨real, by simp [nodes], by simp [nodes, RBNode.child], by simp [nodes, RBNode.child, Side.other], by simp [nodes]⟩
    · rintro frame outer rfl
      have real : holder (frame :: outer) ≠ nilId := repFrames.up.1.real
      rw [frameSide frame outer rfl]
      exact (((nodes frame.label).trans (if_neg apart)).trans (if_pos ⟨rfl, real⟩)).trans (by
        rw [unchanged _ apart]; rfl)
    · intro id notNode onHolder
      rw [nodes, if_neg notNode, if_neg (fun both => both.2 (both.1 ▸ onHolder both.1)), unchanged id notNode]
  have keptEntries : ∀ id, ((hang (freshNode tree key data) key tree.next (holder frames)).nodes id).key =
        ((freshNode tree key data).nodes id).key ∧
      ((hang (freshNode tree key data) key tree.next (holder frames)).nodes id).data = ((freshNode tree key data).nodes id).data := by
    intro id
    rw [nodes]
    by_cases atNode : id = tree.next
    · simp [atNode]
    · by_cases atHolder : id = holder frames ∧ holder frames ≠ nilId
      · simp [atHolder.1, atHolder.2, apart]
      · simp [atNode, atHolder]
  have fuel : frames.length + 2 ≤ (hang (freshNode tree key data) key tree.next (holder frames)).next := by
    have size := frames_le_labels (.nil) frames
    rw [plugged] at size
    rw [hang_next]
    show frames.length + 2 ≤ tree.next + 1
    have small : frames.length < tree.next := lt_of_le_of_lt (by simpa [labels] using size) bound
    exact Nat.succ_le_succ small
  obtain ⟨next, whole', total', finished, repNext, wholeOk, labelsNext, keptNext⟩ :=
    insert_fixup_spec _ _ .left .nil .nil tree.next frames parentRed height hungRep (by cases nilOk; exact .nil)
      (by cases nilOk; exact .nil) hole fuel
  rw [labels_plug_split] at labelsNext
  refine ⟨next, whole', total', ?_, repNext, wholeOk, sameLabels, labelsNext, fun id =>
    ⟨(keptNext.key id).trans (keptEntries id).1, (keptNext.data id).trans (keptEntries id).2⟩⟩
  have started : insert tree key data = (insertNode (freshNode tree key data) key tree.next).map fun tree' => (tree', tree.next) := rfl
  rw [started, insert_node_eq (freshNode tree key data) key tree.next (top whole) (holder frames) rep.root reached, finished,
    Option.map_some]

theorem insert_any (tree : RBTree K V) (whole : ColorTree NodeId) (total : Nat) (key : K) (data : V)
    (rep : Represents tree whole []) (balanced : Balanced whole false total) :
    ∃ next whole' total', insert tree key data = some (next, tree.next) ∧ Represents next whole' [] ∧ Balanced whole' false total' := by
  have linked := linked_congr tree.nodes (freshNode tree key data).nodes _ _ rep.down (fresh_node_old tree whole key data rep)
  have enough : whole.height < tree.next + 1 :=
    lt_of_le_of_lt (height_le_labels whole) (Nat.lt_succ_of_lt (labels_lt_next tree whole rep))
  obtain ⟨frames, reached, plugged, turned⟩ :=
    insert_descend_ends (freshNode tree key data) key (tree.next + 1) whole [] linked (fun _ _ none => nomatch none) enough
  obtain ⟨next, whole', total', inserted, repNext, wholeOk, -⟩ :=
    insert_hung tree whole total key data rep balanced frames reached plugged turned
  exact ⟨next, whole', total', inserted, repNext, wholeOk⟩

theorem insert_spec (tree : RBTree K V) (whole : ColorTree NodeId) (total : Nat) (key : K) (data : V)
    (rep : Represents tree whole []) (balanced : Balanced whole false total) (ascending : Ascending tree whole.labels)
    (absent : ∀ id ∈ whole.labels, (tree.nodes id).key ≠ some key) :
    ∃ next whole' total' lower upper, insert tree key data = some (next, tree.next) ∧ Represents next whole' [] ∧
      Balanced whole' false total' ∧ Ascending next whole'.labels ∧ whole.labels = lower ++ upper ∧
      whole'.labels = lower ++ tree.next :: upper ∧ Stored next tree.next key data ∧
      ∀ id ∈ whole.labels, (next.nodes id).key = (tree.nodes id).key ∧ (next.nodes id).data = (tree.nodes id).data := by
  have same := fresh_node_old tree whole key data rep
  have linked := linked_congr tree.nodes (freshNode tree key data).nodes _ _ rep.down same
  have ascendingFresh := ascending_congr tree (freshNode tree key data) whole.labels ascending
    (fun id member => by rw [same id member]; exact ⟨rfl, rfl⟩)
  have enough : whole.height < tree.next + 1 :=
    lt_of_le_of_lt (height_le_labels whole) (Nat.lt_succ_of_lt (labels_lt_next tree whole rep))
  obtain ⟨frames, reached, plugged, below, above⟩ := insert_descend_spec (freshNode tree key data) key (tree.next + 1) whole [] linked
    ascendingFresh (by simp [before]) (by simp [after]) (fun id member => by rw [same id member]; exact absent id member) enough
  change plug .nil frames = whole at plugged
  have stored : Stored (freshNode tree key data) tree.next key data := by simp [freshNode, Stored]
  have turned : Turned (freshNode tree key data) key frames := by
    rintro frame outer rfl
    have inside : frame.label ∈ whole.labels := by
      rw [← plugged]
      exact (labels_plug .nil (frame :: outer)).mem_iff.mpr (by simp [outside])
    obtain ⟨parentKey, _, isKey, _⟩ := ascendingFresh.stored _ inside
    exact hang_side (freshNode tree key data) frame outer key parentKey isKey below above
  obtain ⟨next, whole', total', inserted, repNext, wholeOk, sameLabels, labelsNext, kept⟩ :=
    insert_hung tree whole total key data rep balanced frames reached plugged turned
  refine ⟨next, whole', total', before frames, after frames, inserted, repNext, wholeOk, ?_, sameLabels, labelsNext, ?_, ?_⟩
  · rw [labelsNext]
    rw [sameLabels] at ascendingFresh
    refine ascending_congr (freshNode tree key data) next _ ?_ (fun id _ => kept id)
    exact ascending_insert (freshNode tree key data) _ _ tree.next key data ascendingFresh stored below above
  · exact ⟨(kept _).1.trans stored.1, (kept _).2.trans stored.2⟩
  · intro id member
    exact ⟨(kept id).1.trans (by rw [same id member]), (kept id).2.trans (by rw [same id member])⟩

end RingServer.RBTree
