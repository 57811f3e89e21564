import RingServer.Types.RBTreeMap

set_option autoImplicit false

namespace RingServer.RBTree

open Library Library.ColorTree

variable {K V : Type}

def extremeFrom (side : Side) (tree : RBTree K V) : Nat → NodeId → Option NodeId
  | 0, _ => none
  | fuel + 1, x =>
      if (tree.nodes x).child side = some nilId then some x
      else ((tree.nodes x).child side).bind (extremeFrom side tree fuel)

-- Minimum for the left side and Maximum for the right one. The sentinel and null give null.
def extreme (side : Side) (tree : RBTree K V) (node : Option NodeId) : Option (Option NodeId) :=
  match node with
  | none => some none
  | some x => if x = nilId then some none else (extremeFrom side tree tree.next x).map some

def maximum (tree : RBTree K V) (node : Option NodeId) : Option (Option NodeId) := extreme .right tree node

-- The loop of Successor for the right side, and of Predecessor for the left one.
def climb (side : Side) (tree : RBTree K V) : Nat → NodeId → Option NodeId → Option (Option NodeId)
  | 0, _, _ => none
  | fuel + 1, x, y =>
      match y with
      | none => some none
      | some y =>
          if y ≠ nilId ∧ (tree.nodes y).child side = some x then climb side tree fuel y (tree.nodes y).parent
          else some (some y)

def neighbour (side : Side) (tree : RBTree K V) (x : NodeId) : Option (Option NodeId) :=
  if x = nilId then some none
  else if (tree.nodes x).child side ≠ some nilId then extreme side.other tree ((tree.nodes x).child side)
  else climb side tree tree.next x (tree.nodes x).parent

def successor (tree : RBTree K V) (x : NodeId) : Option (Option NodeId) := neighbour .right tree x

def predecessor (tree : RBTree K V) (x : NodeId) : Option (Option NodeId) := neighbour .left tree x

def walk (step : NodeId → Option (Option NodeId)) : Nat → Option NodeId → Option (List NodeId)
  | 0, _ => none
  | _ + 1, none => some []
  | fuel + 1, some x =>
      if x = nilId then some []
      else (step x).bind fun next => (walk step fuel next).map (x :: ·)

def findData [LinearOrder K] (tree : RBTree K V) (key : K) : Option (Option V) :=
  (find tree key).map fun node => node.bind fun node => (tree.nodes node).data

def remove [LinearOrder K] (tree : RBTree K V) (key : K) : Option (RBTree K V × Option NodeId) := do
  let node ← find tree key
  match node with
  | some found => (delete tree found).map fun tree => (tree, some found)
  | none => some (tree, none)

def towards (side : Side) (tree : ColorTree NodeId) : List NodeId :=
  match side with
  | .right => tree.labels
  | .left => tree.labels.reverse

def beyond (side : Side) : List (Frame NodeId) → List NodeId
  | [] => []
  | frame :: outer => if frame.side = side then beyond side outer else frame.label :: (towards side frame.sibling ++ beyond side outer)

theorem towards_join (side : Side) (red : Bool) (near far : ColorTree NodeId) (id : NodeId) :
    towards side (join side red near id far) = towards side far ++ id :: towards side near := by
  cases side with
  | left => simp [towards, join, labels]
  | right => simp [towards, join, labels]

theorem towards_join_other (side : Side) (red : Bool) (near far : ColorTree NodeId) (id : NodeId) :
    towards side (join side.other red near id far) = towards side near ++ id :: towards side far := by
  cases side with
  | left => simp [towards, join, labels, Side.other]
  | right => simp [towards, join, labels, Side.other]

theorem towards_plug (side : Side) (focus : ColorTree NodeId) (frames : List (Frame NodeId)) :
    ∃ behind, towards side (plug focus frames) = behind ++ (towards side focus ++ beyond side frames) := by
  induction frames generalizing focus with
  | nil => exact ⟨[], by simp [plug, beyond]⟩
  | cons frame outer ih =>
      obtain ⟨frameSide, red, label, sibling⟩ := frame
      obtain ⟨behind, outside⟩ := ih (join frameSide red focus label sibling)
      rw [plug, outside]
      by_cases same : frameSide = side
      · refine ⟨behind ++ (towards side sibling ++ [label]), ?_⟩
        rw [beyond, if_pos same, ← same, towards_join]
        simp
      · have other : frameSide = side.other := by
          revert same
          cases frameSide <;> cases side <;> decide
        refine ⟨behind, ?_⟩
        rw [beyond, if_neg same, other, towards_join_other]
        simp

theorem minimum_from_extreme (tree : RBTree K V) (fuel : Nat) (x : NodeId) : minimumFrom tree fuel x = extremeFrom .left tree fuel x := by
  induction fuel generalizing x with
  | zero => rfl
  | succ fuel ih =>
      rw [minimumFrom, extremeFrom]
      simp only [RBNode.child, ih]
      rfl

theorem node_joined (side : Side) (red : Bool) (left right : ColorTree NodeId) (id : NodeId) :
    ∃ near far, ColorTree.node red left id right = join side red near id far ∧
      (ColorTree.node red left id right).height = max near.height far.height + 1 := by
  cases side with
  | left => exact ⟨left, right, rfl, rfl⟩
  | right => exact ⟨right, left, rfl, congrArg (· + 1) (max_comm _ _)⟩

theorem extreme_from_spec (side : Side) (tree : RBTree K V) (fuel : Nat) (parent : NodeId) (part : ColorTree NodeId)
    (linked : Linked tree.nodes parent part) (present : part ≠ .nil) (enough : part.height ≤ fuel) :
    ∃ id rest, extremeFrom side.other tree fuel (top part) = some id ∧ towards side part = id :: rest := by
  induction fuel generalizing parent part with
  | zero =>
      cases part with
      | nil => exact absurd rfl present
      | node red left id right => exact absurd enough (Nat.not_succ_le_zero _)
  | succ fuel ih =>
      cases part with
      | nil => exact absurd rfl present
      | node red left id right =>
          obtain ⟨near, far, isJoin, height⟩ := node_joined side.other red left right id
          rw [isJoin] at linked
          rw [height] at enough
          obtain ⟨cell, nearOk, _⟩ := (linked_join _ _ _ _ _ _ _).mp linked
          rw [isJoin, top_join, towards_join_other, extremeFrom, cell.near]
          cases near with
          | nil => exact ⟨id, towards side far, if_pos rfl, by cases side <;> rfl⟩
          | node nearRed nearLeft nearId nearRight =>
              obtain ⟨first, rest, found, order⟩ := ih id (.node nearRed nearLeft nearId nearRight) nearOk (by simp)
                (by omega)
              have real : nearId ≠ nilId := nearOk.1.real
              have notNil : ¬ some nearId = some nilId := fun same => real (Option.some.inj same)
              refine ⟨first, rest ++ id :: towards side far, ?_, by rw [order, List.cons_append]⟩
              rw [top_node, if_neg notNil, Option.bind_some]
              exact found

theorem sibling_apart (tree : RBTree K V) (focus : ColorTree NodeId) (frame : Frame NodeId) (outer : List (Frame NodeId))
    (rep : Represents tree focus (frame :: outer)) (present : focus ≠ .nil) : top frame.sibling ≠ top focus := by
  intro equal
  have real : top focus ≠ nilId := by
    cases focus with
    | nil => exact absurd rfl present
    | node red left id right => exact rep.down.1.real
  have inFocus := top_mem focus real
  have inSibling := top_mem frame.sibling (equal ▸ real)
  rw [equal] at inSibling
  exact (List.nodup_append.mp rep.distinct).2.2 _ inFocus _ (List.mem_cons_of_mem _ (List.mem_append_left _ inSibling)) rfl

theorem climb_spec (side : Side) (tree : RBTree K V) (fuel : Nat) (focus : ColorTree NodeId) (frames : List (Frame NodeId))
    (rep : Represents tree focus frames) (present : focus ≠ .nil) (enough : frames.length < fuel) :
    climb side tree fuel (top focus) (some (holder frames)) = some (some ((beyond side frames).head?.getD nilId)) := by
  induction frames generalizing fuel focus with
  | nil =>
      obtain ⟨rest, rfl⟩ : ∃ rest, fuel = rest + 1 := ⟨fuel - 1, by omega⟩
      rw [holder, climb, beyond]
      exact if_neg fun both => both.1 rfl
  | cons frame outer ih =>
      obtain ⟨rest, rfl⟩ : ∃ rest, fuel = rest + 1 := ⟨fuel - 1, by omega⟩
      obtain ⟨cell, _, _⟩ := rep.up
      have outward := represents_outward tree focus frame outer rep
      have joined : join frame.side frame.red focus frame.label frame.sibling ≠ .nil := by
        cases frame.side <;> simp [join]
      have climbed := ih rest (join frame.side frame.red focus frame.label frame.sibling) outward joined
        (Nat.lt_of_succ_lt_succ enough)
      rw [top_join] at climbed
      rw [holder, climb]
      by_cases same : frame.side = side
      · have child : (tree.nodes frame.label).child side = some (top focus) := same ▸ cell.near
        rw [if_pos ⟨cell.real, child⟩, cell.parent, climbed, beyond, if_pos same]
      · have other : side = frame.side.other := by
          revert same
          cases frame.side <;> cases side <;> decide
        have child : (tree.nodes frame.label).child side = some (top frame.sibling) := other ▸ cell.far
        have apart : (tree.nodes frame.label).child side ≠ some (top focus) := by
          rw [child]
          exact fun equal => sibling_apart tree focus frame outer rep present (Option.some.inj equal)
        rw [if_neg fun both => apart both.2, beyond, if_neg same]
        rfl

theorem neighbour_spec (side : Side) (tree : RBTree K V) (whole : ColorTree NodeId) (rep : Represents tree whole [])
    (first rest : List NodeId) (id : NodeId) (order : towards side whole = first ++ id :: rest) :
    neighbour side tree id = some (some (rest.head?.getD nilId)) := by
  have bound := labels_lt_next tree whole rep
  have inside : id ∈ whole.labels := by
    have member : id ∈ towards side whole := by rw [order]; exact List.mem_append_right _ List.mem_cons_self
    cases side with
    | left => exact List.mem_reverse.mp member
    | right => exact member
  obtain ⟨red, left, right, frames, plugged⟩ := exists_plug whole id inside
  have focused : Represents tree (.node red left id right) frames := represents_unplug tree _ frames (plugged ▸ rep)
  have size := frames_le_labels (.node red left id right) frames
  have low := height_le_labels (.node red left id right)
  obtain ⟨near, far, isJoin, height⟩ := node_joined side red left right id
  obtain ⟨behind, placed⟩ := towards_plug side (.node red left id right) frames
  rw [plugged] at size
  rw [height] at low
  rw [plugged, isJoin, towards_join, order] at placed
  have distinct : (first ++ id :: rest).Nodup := by
    have labels : (towards side whole).Nodup := by
      have nodup : whole.labels.Nodup := by simpa [outside] using rep.distinct
      cases side with
      | left => exact List.nodup_reverse.mpr nodup
      | right => exact nodup
    rwa [order] at labels
  have isRest : rest = towards side near ++ beyond side frames := by
    have regrouped : first ++ id :: rest = (behind ++ towards side far) ++ id :: (towards side near ++ beyond side frames) := by
      rw [placed]
      simp only [List.append_assoc, List.cons_append]
    have notBefore : id ∉ behind ++ towards side far := by
      rw [regrouped] at distinct
      exact fun isMember => (List.nodup_append.mp distinct).2.2 id isMember id List.mem_cons_self rfl
    have notBehind : id ∉ towards side near ++ beyond side frames := by
      rw [regrouped] at distinct
      exact (List.nodup_cons.mp (List.nodup_append.mp distinct).2.1).1
    exact ((List.append_cons_inj_of_notMem notBefore notBehind).mp regrouped.symm).2.2.symm
  have down := focused.down
  rw [isJoin] at down
  obtain ⟨cell, nearOk, _⟩ := (linked_join _ _ _ _ _ _ _).mp down
  rw [neighbour, if_neg cell.real, cell.near, isRest]
  cases near with
  | nil =>
      have climbed := climb_spec side tree tree.next _ frames focused (by simp) (by omega)
      have none : towards side .nil = [] := by cases side <;> rfl
      rw [top_nil, if_neg fun other => other rfl, cell.parent, none, List.nil_append]
      exact climbed
  | node nearRed nearLeft nearId nearRight =>
      obtain ⟨next, more, found, sorted⟩ := extreme_from_spec side tree tree.next id (.node nearRed nearLeft nearId nearRight) nearOk
        (by simp) (by omega)
      have real : nearId ≠ nilId := nearOk.1.real
      rw [top_node, if_pos fun same => real (Option.some.inj same), extreme, if_neg real, sorted]
      exact congrArg (Option.map some) found

theorem walk_spec (side : Side) (tree : RBTree K V) (whole : ColorTree NodeId) (rep : Represents tree whole [])
    (fuel : Nat) (first rest : List NodeId) (order : towards side whole = first ++ rest) (enough : rest.length < fuel) :
    walk (neighbour side tree) fuel (some (rest.head?.getD nilId)) = some rest := by
  induction rest generalizing first fuel with
  | nil =>
      obtain ⟨fuel, rfl⟩ : ∃ less, fuel = less + 1 := ⟨fuel - 1, by omega⟩
      rfl
  | cons id rest ih =>
      obtain ⟨fuel, rfl⟩ : ∃ less, fuel = less + 1 := ⟨fuel - 1, by omega⟩
      have real : id ≠ nilId := by
        intro same
        have absent := linked_real _ _ _ rep.down
        have member : id ∈ towards side whole := by rw [order]; exact List.mem_append_right _ List.mem_cons_self
        rw [same] at member
        cases side with
        | left => exact absent (List.mem_reverse.mp member)
        | right => exact absent member
      have onward := ih fuel (first ++ [id]) (by rw [order, List.append_assoc, List.singleton_append]) (Nat.lt_of_succ_lt_succ enough)
      rw [List.head?_cons, Option.getD_some, walk, if_neg real, neighbour_spec side tree whole rep first rest id order, Option.bind_some,
        onward]
      rfl

theorem extreme_spec (side : Side) (tree : RBTree K V) (whole : ColorTree NodeId) (rep : Represents tree whole []) :
    extreme side.other tree tree.root = some (towards side whole).head? := by
  have root : tree.root = some (top whole) := rep.root
  have bound := labels_lt_next tree whole rep
  have low := height_le_labels whole
  rw [root]
  cases whole with
  | nil => cases side <;> rfl
  | node red left id right =>
      obtain ⟨first, rest, found, order⟩ := extreme_from_spec side tree tree.next _ (.node red left id right) rep.down (by simp) (by omega)
      rw [order, top_node, extreme, if_neg rep.down.1.real]
      exact congrArg (Option.map some) found

theorem walk_all (side : Side) (tree : RBTree K V) (whole : ColorTree NodeId) (rep : Represents tree whole []) :
    (extreme side.other tree tree.root).bind (walk (neighbour side tree) (tree.next + 1)) = some (towards side whole) := by
  have bound := labels_lt_next tree whole rep
  have size : (towards side whole).length = whole.labels.length := by
    cases side with
    | left => exact List.length_reverse
    | right => rfl
  have walked := walk_spec side tree whole rep (tree.next + 1) [] (towards side whole) rfl (by omega)
  rw [extreme_spec side tree whole rep, Option.bind_some]
  cases order : towards side whole with
  | nil => rfl
  | cons id rest => rwa [order] at walked

theorem minimum_extreme (tree : RBTree K V) (node : Option NodeId) : minimum tree node = (extreme .left tree node).join := by
  cases node with
  | none => rfl
  | some x =>
      rw [minimum, extreme, Option.bind_eq_bind, Option.bind_some, minimum_from_extreme]
      by_cases sentinel : x = nilId
      · rw [if_pos sentinel, if_pos sentinel]
        rfl
      · rw [if_neg sentinel, if_neg sentinel]
        cases extremeFrom .left tree tree.next x <;> rfl

section

variable [LinearOrder K] (s : Session K V) (reach : Reachable s)

include reach

theorem find_data_spec (key : K) : findData s.tree key = some (s.contents key) := by
  obtain ⟨whole, index, _⟩ := reachable_sound s reach
  rcases index_find s.tree whole s.contents key index with ⟨missing, absent⟩ | ⟨id, data, present, _, stored, holds⟩
  · rw [findData, missing, absent]
    rfl
  · rw [findData, present, holds]
    exact congrArg some stored.2

theorem remove_spec (key : K) : ∃ next node, remove s.tree key = some (next, node) ∧ (node = none ↔ s.contents key = none) ∧
    Reachable ⟨next, s.found.filter (some · ≠ node), assign s.contents key none⟩ := by
  obtain ⟨whole, index, _⟩ := reachable_sound s reach
  rcases index_find s.tree whole s.contents key index with ⟨missing, absent⟩ | ⟨id, data, present, inside, stored, holds⟩
  · have same : assign s.contents key none = s.contents := by
      funext other
      by_cases isKey : other = key
      · rw [isKey, assign_self, absent]
      · exact assign_other _ _ _ _ isKey
    refine ⟨s.tree, none, ?_, ⟨fun _ => absent, fun _ => rfl⟩, ?_⟩
    · rw [remove, missing, Option.bind_eq_bind, Option.bind_some]
    · have all : s.found.filter (some · ≠ none) = s.found := List.filter_eq_self.mpr fun node _ => rfl
      rwa [same, all]
  · obtain ⟨next, _, deleted, _⟩ := index_delete s.tree whole s.contents id key index inside stored.1
    have held := Reachable.find s key (some id) reach present
    have reached := Reachable.delete _ id key next held List.mem_cons_self stored.1 deleted
    refine ⟨next, some id, ?_, ⟨fun same => (nomatch same), fun absent => ?_⟩, ?_⟩
    · rw [remove, present, Option.bind_eq_bind, Option.bind_some]
      exact congrArg (Option.map fun tree => (tree, some id)) deleted
    · rw [holds] at absent
      exact nomatch absent
    · have rest : (id :: s.found).filter (· ≠ id) = s.found.filter (some · ≠ some id) := by
        rw [List.filter_cons_of_neg (by simp)]
        exact List.filter_congr fun node _ => by simp
      rwa [Option.toList_some, List.singleton_append, rest] at reached

-- Minimum and Successor meet the nodes of Traverse in its order, Maximum and Predecessor
-- in the other, and both end at the sentinel.
theorem tree_walks : ∃ ids, traverse s.tree = some ids ∧
    minimum s.tree s.tree.root = ids.head? ∧ maximum s.tree s.tree.root = some ids.getLast? ∧
    walk (successor s.tree) (s.tree.next + 1) (minimum s.tree s.tree.root) = some ids ∧
    (maximum s.tree s.tree.root).bind (walk (predecessor s.tree) (s.tree.next + 1)) = some ids.reverse ∧
    (∀ first id rest, ids = first ++ id :: rest → successor s.tree id = some (some (rest.head?.getD nilId)) ∧
      predecessor s.tree id = some (some (first.getLast?.getD nilId))) ∧
    (∀ key, findData s.tree key = some (s.contents key)) ∧
    ∀ key, ∃ next node, remove s.tree key = some (next, node) ∧ (node = none ↔ s.contents key = none) ∧
      Reachable ⟨next, s.found.filter (some · ≠ node), assign s.contents key none⟩ := by
  obtain ⟨whole, index, _⟩ := reachable_sound s reach
  have rep := index.rep
  have first := extreme_spec .right s.tree whole rep
  have least : minimum s.tree s.tree.root = whole.labels.head? := by
    rw [minimum_extreme]
    exact congrArg Option.join first
  have ascending := walk_all .right s.tree whole rep
  rw [first, Option.bind_some] at ascending
  refine ⟨whole.labels, index_traverse s.tree whole s.contents index, least, ?_, by rw [least]; exact ascending,
    walk_all .left s.tree whole rep, fun first id rest order => ⟨?_, ?_⟩, find_data_spec s reach, remove_spec s reach⟩
  · have last := extreme_spec .left s.tree whole rep
    rwa [towards, List.head?_reverse] at last
  · exact neighbour_spec .right s.tree whole rep first rest id order
  · have back : towards .left whole = rest.reverse ++ id :: first.reverse := by
      rw [towards, order, List.reverse_append, List.reverse_cons, List.append_assoc, List.singleton_append]
    have found := neighbour_spec .left s.tree whole rep rest.reverse first.reverse id back
    rwa [List.head?_reverse] at found

end

theorem tree_walks_root_deleted : minimum rootDeleted.tree rootDeleted.tree.root = some 1 ∧
    maximum rootDeleted.tree rootDeleted.tree.root = some (some 5) ∧ successor rootDeleted.tree 1 = some (some 3) ∧
    predecessor rootDeleted.tree 5 = some (some 4) ∧ findData rootDeleted.tree 2 = some none ∧
    findData rootDeleted.tree 4 = some (some 40) ∧ ∃ next, remove rootDeleted.tree 4 = some (next, some 4) := by
  obtain ⟨ids, traversed, least, most, _, _, neighbours, data, removes⟩ := tree_walks rootDeleted root_deleted_reachable
  have order : traverse rootDeleted.tree = some [1, 3, 4, 5] := by decide +kernel
  obtain rfl : ids = [1, 3, 4, 5] := Option.some.inj (traversed.symm.trans order)
  obtain ⟨next, node, removed, _⟩ := removes 4
  have isNode : (remove rootDeleted.tree 4).map Prod.snd = some (some 4) := by decide +kernel
  rw [removed, Option.map_some, Option.some.injEq] at isNode
  exact ⟨least, most, (neighbours [] 1 [3, 4, 5] rfl).1, (neighbours [1, 3, 4] 5 [] rfl).2, data 2, data 4, next, isNode ▸ removed⟩

end RingServer.RBTree
