import RingServer.Types.RBTreeUnlink

set_option autoImplicit false

namespace RingServer.RBTree

open Library Library.ColorTree

variable {K V : Type} [LinearOrder K]

def assign (contents : K → Option V) (key : K) (value : Option V) : K → Option V :=
  fun other => if other = key then value else contents other

@[simp] theorem assign_self (contents : K → Option V) (key : K) (value : Option V) : assign contents key value key = value :=
  if_pos rfl

theorem assign_other (contents : K → Option V) (key other : K) (value : Option V) (different : other ≠ key) :
    assign contents key value other = contents other := if_neg different

structure Index (tree : RBTree K V) (whole : ColorTree NodeId) (contents : K → Option V) : Prop where
  rep : Represents tree whole []
  balanced : ∃ total, Balanced whole false total
  ascending : Ascending tree whole.labels
  holds : ∀ key data, contents key = some data ↔ ∃ id ∈ whole.labels, Stored tree id key data

theorem index_create : Index (create : RBTree K V) .nil fun _ => none := by
  refine ⟨⟨rfl, trivial, trivial, by simp [labels, outside], by simp [labels, outside], by simp [create, nilId], rfl, rfl, rfl⟩,
    ⟨0, .nil⟩, ⟨by simp [labels], by simp [labels]⟩, by simp [labels]⟩

theorem index_stored (tree : RBTree K V) (whole : ColorTree NodeId) (contents : K → Option V) (id : NodeId)
    (index : Index tree whole contents) (member : id ∈ whole.labels) :
    ∃ key data, Stored tree id key data ∧ contents key = some data := by
  obtain ⟨key, data, stored⟩ := index.ascending.stored id member
  exact ⟨key, data, stored, (index.holds key data).mpr ⟨id, member, stored⟩⟩

theorem index_find (tree : RBTree K V) (whole : ColorTree NodeId) (contents : K → Option V) (key : K)
    (index : Index tree whole contents) :
    (find tree key = some none ∧ contents key = none) ∨
      ∃ id data, find tree key = some (some id) ∧ id ∈ whole.labels ∧ Stored tree id key data ∧ contents key = some data := by
  have enough := lt_of_le_of_lt (height_le_labels whole) (labels_lt_next tree whole index.rep)
  obtain ⟨found, result, present, absent⟩ := find_from_spec tree key tree.next _ whole index.rep.down index.ascending enough
  have root : tree.root = some (top whole) := index.rep.root
  have started : find tree key = some found := by
    simp only [find, root, Option.bind_eq_bind, Option.bind_some, result]
  cases found with
  | none =>
      refine Or.inl ⟨started, ?_⟩
      cases isKey : contents key with
      | none => rfl
      | some data =>
          obtain ⟨id, member, stored⟩ := (index.holds key data).mp isKey
          exact absurd stored.1 (absent rfl id member)
  | some id =>
      obtain ⟨member, isKey⟩ := present id rfl
      obtain ⟨key', data, stored, holds⟩ := index_stored tree whole contents id index member
      have same : key' = key := Option.some.inj (stored.1.symm.trans isKey)
      subst same
      exact Or.inr ⟨id, data, started, member, stored, holds⟩

theorem index_traverse (tree : RBTree K V) (whole : ColorTree NodeId) (contents : K → Option V)
    (index : Index tree whole contents) : traverse tree = some whole.labels := by
  have enough := lt_of_le_of_lt (height_le_labels whole) (labels_lt_next tree whole index.rep)
  have root : tree.root = some (top whole) := index.rep.root
  rw [traverse, root]
  exact traverse_node_spec tree tree.next _ whole index.rep.down enough

theorem index_insert (tree : RBTree K V) (whole : ColorTree NodeId) (contents : K → Option V) (key : K) (data : V)
    (index : Index tree whole contents) (absent : contents key = none) :
    ∃ next whole', insert tree key data = some (next, tree.next) ∧
      Index next whole' (assign contents key (some data)) ∧ whole'.labels.Perm (tree.next :: whole.labels) ∧
      Stored next tree.next key data := by
  obtain ⟨total, balanced⟩ := index.balanced
  have missing : ∀ id ∈ whole.labels, (tree.nodes id).key ≠ some key := by
    intro id member isKey
    obtain ⟨key', data', stored, holds⟩ := index_stored tree whole contents id index member
    have same : key' = key := Option.some.inj (stored.1.symm.trans isKey)
    rw [same, absent] at holds
    simp at holds
  obtain ⟨next, whole', total', lower, upper, inserted, rep, balanced', ascending, before, after, stored, kept⟩ :=
    insert_spec tree whole total key data index.rep balanced index.ascending missing
  refine ⟨next, whole', inserted, ⟨rep, ⟨total', balanced'⟩, ascending, ?_⟩, by rw [before, after]; exact List.perm_middle,
    stored⟩
  have members : ∀ id, id ∈ whole'.labels ↔ id = tree.next ∨ id ∈ whole.labels := by
    intro id
    rw [before, after]
    simp only [List.mem_append, List.mem_cons]
    tauto
  intro other value
  by_cases same : other = key
  · subst same
    simp only [assign_self, Option.some.injEq]
    constructor
    · rintro rfl
      exact ⟨tree.next, (members _).mpr (Or.inl rfl), stored⟩
    · rintro ⟨id, member, keyIs, dataIs⟩
      rcases (members id).mp member with rfl | old
      · exact Option.some.inj (stored.2.symm.trans dataIs)
      · exact absurd ((kept id old).1.symm.trans keyIs) (missing id old)
  · rw [assign_other _ _ _ _ same, index.holds]
    constructor
    · rintro ⟨id, member, keyIs, dataIs⟩
      exact ⟨id, (members id).mpr (Or.inr member), (kept id member).1.trans keyIs, (kept id member).2.trans dataIs⟩
    · rintro ⟨id, member, keyIs, dataIs⟩
      rcases (members id).mp member with rfl | old
      · exact absurd (Option.some.inj (stored.1.symm.trans keyIs)).symm same
      · exact ⟨id, old, (kept id old).1.symm.trans keyIs, (kept id old).2.symm.trans dataIs⟩

theorem index_delete (tree : RBTree K V) (whole : ColorTree NodeId) (contents : K → Option V) (id : NodeId) (key : K)
    (index : Index tree whole contents) (member : id ∈ whole.labels) (isKey : (tree.nodes id).key = some key) :
    ∃ next whole', delete tree id = some next ∧ Index next whole' (assign contents key none) ∧
      whole.labels.Perm (id :: whole'.labels) := by
  obtain ⟨total, balanced⟩ := index.balanced
  obtain ⟨next, whole', total', lower, upper, deleted, rep, balanced', before, after, entries⟩ :=
    delete_spec tree whole total id index.rep balanced member
  have distinct : whole.labels.Nodup := (represents_nodup tree whole [] index.rep).1
  rw [before] at distinct
  have apart : ∀ other, other ∈ lower ++ upper → other ≠ id := by
    rintro other inside rfl
    exact (List.nodup_cons.mp (List.perm_middle.nodup_iff.mp distinct)).1 inside
  have ascending := index.ascending
  rw [before] at ascending
  have sublist : (lower ++ upper).Sublist (lower ++ id :: upper) := List.Sublist.append_left (List.sublist_cons_self id upper) lower
  have kept : Ascending tree (lower ++ upper) :=
    ⟨fun other inside => ascending.stored other (sublist.subset inside), ascending.sorted.sublist sublist⟩
  refine ⟨next, whole', deleted, ⟨rep, ⟨total', balanced'⟩, ?_, ?_⟩, by rw [before, after]; exact List.perm_middle⟩
  · rw [after]
    exact ascending_congr tree next _ kept (fun other _ => ⟨entries.key other, entries.data other⟩)
  · intro other value
    have members : ∀ node, node ∈ whole'.labels ↔ node ∈ whole.labels ∧ node ≠ id := by
      intro node
      rw [after, before]
      simp only [List.mem_append, List.mem_cons]
      constructor
      · intro inside
        exact ⟨by tauto, apart node (List.mem_append.mpr inside)⟩
      · rintro ⟨inside, different⟩
        tauto
    by_cases same : other = key
    · subst same
      simp only [assign_self, reduceCtorEq, false_iff]
      rintro ⟨node, inside, keyIs, _⟩
      obtain ⟨inWhole, different⟩ := (members node).mp inside
      exact different (ascending_unique tree whole.labels node id other index.ascending inWhole member
        ((entries.key node).symm.trans keyIs) isKey)
    · rw [assign_other _ _ _ _ same, index.holds]
      constructor
      · rintro ⟨node, inside, keyIs, dataIs⟩
        have different : node ≠ id := by
          rintro rfl
          exact same (Option.some.inj (keyIs.symm.trans isKey))
        exact ⟨node, (members node).mpr ⟨inside, different⟩, (entries.key node).trans keyIs, (entries.data node).trans dataIs⟩
      · rintro ⟨node, inside, keyIs, dataIs⟩
        exact ⟨node, ((members node).mp inside).1, (entries.key node).symm.trans keyIs, (entries.data node).symm.trans dataIs⟩

structure SameLinks (old new : RBTree K V) : Prop where
  root : new.root = old.root
  next : new.next = old.next
  isRed : ∀ id, (new.nodes id).isRed = (old.nodes id).isRed
  left : ∀ id, (new.nodes id).left = (old.nodes id).left
  right : ∀ id, (new.nodes id).right = (old.nodes id).right
  parent : ∀ id, (new.nodes id).parent = (old.nodes id).parent

omit [LinearOrder K] in
theorem linked_links (old new : RBTree K V) (parent : NodeId) (part : ColorTree NodeId) (links : SameLinks old new)
    (linked : Linked old.nodes parent part) : Linked new.nodes parent part := by
  induction part generalizing parent with
  | nil => trivial
  | node red left id right leftIh rightIh =>
      obtain ⟨⟨real, isRed, near, far, isParent⟩, leftOk, rightOk⟩ := linked
      exact ⟨⟨real, (links.isRed id).trans isRed, (links.left id).trans near, (links.right id).trans far,
        (links.parent id).trans isParent⟩, leftIh id leftOk, rightIh id rightOk⟩

omit [LinearOrder K] in
theorem set_data_links (tree : RBTree K V) (id : NodeId) (data : V) : SameLinks tree (tree.setData id data) := by
  refine ⟨rfl, rfl, fun other => ?_, fun other => ?_, fun other => ?_, fun other => ?_⟩
  all_goals by_cases same : other = id <;> simp [setData, write_nodes, same]

theorem index_set_data (tree : RBTree K V) (whole : ColorTree NodeId) (contents : K → Option V) (id : NodeId) (key : K)
    (data : V) (index : Index tree whole contents) (member : id ∈ whole.labels) (isKey : (tree.nodes id).key = some key) :
    Index (tree.setData id data) whole (assign contents key (some data)) := by
  have links := set_data_links tree id data
  have keys : ∀ other, ((tree.setData id data).nodes other).key = (tree.nodes other).key := by
    intro other
    by_cases same : other = id <;> simp [setData, write_nodes, same]
  have here : ((tree.setData id data).nodes id).data = some data := by simp [setData]
  have elsewhere : ∀ other, other ≠ id → ((tree.setData id data).nodes other).data = (tree.nodes other).data :=
    fun other different => congrArg RBNode.data (write_elsewhere tree id other _ different)
  refine ⟨⟨index.rep.root, linked_links tree _ _ whole links index.rep.down, trivial, index.rep.distinct, index.rep.allocated,
    index.rep.fresh, ?_⟩, index.balanced, ⟨fun other inside => ?_, ?_⟩, ?_⟩
  · rw [links.isRed, links.left, links.right]
    exact index.rep.sentinel
  · obtain ⟨otherKey, otherData, stored⟩ := index.ascending.stored other inside
    by_cases same : other = id
    · subst same
      exact ⟨otherKey, data, (keys other).trans stored.1, here⟩
    · exact ⟨otherKey, otherData, (keys other).trans stored.1, (elsewhere other same).trans stored.2⟩
  · refine index.ascending.sorted.imp fun {a b} ordered => ?_
    rw [keys, keys]
    exact ordered
  · intro other value
    by_cases same : other = key
    · subst same
      simp only [assign_self, Option.some.injEq]
      constructor
      · rintro rfl
        exact ⟨id, member, (keys id).trans isKey, here⟩
      · rintro ⟨node, inside, keyIs, dataIs⟩
        have atId := ascending_unique tree whole.labels node id other index.ascending inside member
          ((keys node).symm.trans keyIs) isKey
        subst atId
        exact Option.some.inj (here.symm.trans dataIs)
    · rw [assign_other _ _ _ _ same, index.holds]
      constructor
      · rintro ⟨node, inside, keyIs, dataIs⟩
        have different : node ≠ id := by
          rintro rfl
          exact same (Option.some.inj (keyIs.symm.trans isKey))
        exact ⟨node, inside, (keys node).trans keyIs, (elsewhere node different).trans dataIs⟩
      · rintro ⟨node, inside, keyIs, dataIs⟩
        have different : node ≠ id := by
          rintro rfl
          exact same (Option.some.inj (((keys node).symm.trans keyIs).symm.trans isKey))
        exact ⟨node, inside, (keys node).symm.trans keyIs, (elsewhere node different).symm.trans dataIs⟩

-- A client of the tree: found holds the nodes that Find has returned and that
-- have not been deleted since, contents the finite map of the same operations.
structure Session (K V : Type) where
  tree : RBTree K V
  found : List NodeId
  contents : K → Option V

inductive Reachable : Session K V → Prop where
  | start : Reachable ⟨create, [], fun _ => none⟩
  | find (s : Session K V) (key : K) (result : Option NodeId) (reach : Reachable s)
      (done : find s.tree key = some result) : Reachable { s with found := result.toList ++ s.found }
  | insert (s : Session K V) (key : K) (data : V) (next : RBTree K V) (node : NodeId) (reach : Reachable s)
      (missing : RBTree.find s.tree key = some none) (done : RBTree.insert s.tree key data = some (next, node)) :
      Reachable ⟨next, s.found, assign s.contents key (some data)⟩
  | delete (s : Session K V) (node : NodeId) (key : K) (next : RBTree K V) (reach : Reachable s) (held : node ∈ s.found)
      (isKey : (s.tree.nodes node).key = some key) (done : RBTree.delete s.tree node = some next) :
      Reachable ⟨next, s.found.filter (· ≠ node), assign s.contents key none⟩

structure Sound (s : Session K V) (whole : ColorTree NodeId) : Prop where
  index : Index s.tree whole s.contents
  held : ∀ id ∈ s.found, id ∈ whole.labels

theorem reachable_sound (s : Session K V) (reach : Reachable s) : ∃ whole, Sound s whole := by
  induction reach with
  | start => exact ⟨.nil, index_create, by simp⟩
  | find s key result reach done ih =>
      obtain ⟨whole, index, held⟩ := ih
      refine ⟨whole, index, fun id member => ?_⟩
      rcases List.mem_append.mp member with fresh | old
      · rcases index_find s.tree whole s.contents key index with ⟨missing, _⟩ | ⟨node, data, present, inside, _, _⟩
        · rw [Option.some.inj (done.symm.trans missing)] at fresh
          simp at fresh
        · rw [Option.some.inj (done.symm.trans present)] at fresh
          simp only [Option.toList_some, List.mem_singleton] at fresh
          exact fresh ▸ inside
      · exact held id old
  | insert s key data next node reach missing done ih =>
      obtain ⟨whole, index, held⟩ := ih
      have absent : s.contents key = none := by
        rcases index_find s.tree whole s.contents key index with ⟨_, absent⟩ | ⟨id, value, present, _, _, _⟩
        · exact absent
        · simp [missing] at present
      obtain ⟨next', whole', inserted, index', order, _⟩ := index_insert s.tree whole s.contents key data index absent
      have same := Option.some.inj (done.symm.trans inserted)
      simp only [Prod.mk.injEq] at same
      obtain ⟨rfl, rfl⟩ := same
      exact ⟨whole', index', fun id member => order.mem_iff.mpr (List.mem_cons_of_mem _ (held id member))⟩
  | delete s node key next reach inFound isKey done ih =>
      obtain ⟨whole, index, held⟩ := ih
      obtain ⟨next', whole', deleted, index', order⟩ :=
        index_delete s.tree whole s.contents node key index (held node inFound) isKey
      obtain rfl := Option.some.inj (done.symm.trans deleted)
      refine ⟨whole', index', fun id member => ?_⟩
      simp only [List.mem_filter, decide_eq_true_eq] at member
      rcases List.mem_cons.mp (order.mem_iff.mp (held id member.1)) with same | inside
      · exact absurd same member.2
      · exact inside

omit [LinearOrder K] in
theorem entries_from (tree : RBTree K V) (ids : List NodeId) (stored : ∀ id ∈ ids, ∃ key data, Stored tree id key data) :
    ∃ entries : List (K × V), List.Forall₂ (fun id entry => Stored tree id entry.1 entry.2) ids entries := by
  induction ids with
  | nil => exact ⟨[], .nil⟩
  | cons id rest ih =>
      obtain ⟨key, data, isStored⟩ := stored id (by simp)
      obtain ⟨entries, others⟩ := ih (fun other member => stored other (List.mem_cons_of_mem _ member))
      exact ⟨(key, data) :: entries, .cons isStored others⟩

omit [LinearOrder K] in
theorem entries_member (tree : RBTree K V) (ids : List NodeId) (entries : List (K × V)) (key : K) (data : V)
    (stored : List.Forall₂ (fun id entry => Stored tree id entry.1 entry.2) ids entries) :
    (key, data) ∈ entries ↔ ∃ id ∈ ids, Stored tree id key data := by
  induction stored with
  | nil => simp
  | @cons id entry ids entries isStored others ih =>
      obtain ⟨key', data'⟩ := entry
      rw [List.mem_cons, ih, Prod.mk.injEq]
      constructor
      · rintro (⟨rfl, rfl⟩ | ⟨node, member, isNode⟩)
        · exact ⟨id, by simp, isStored⟩
        · exact ⟨node, List.mem_cons_of_mem _ member, isNode⟩
      · rintro ⟨node, member, isNode⟩
        rcases List.mem_cons.mp member with rfl | inside
        · exact Or.inl ⟨Option.some.inj (isNode.1.symm.trans isStored.1), Option.some.inj (isNode.2.symm.trans isStored.2)⟩
        · exact Or.inr ⟨node, inside, isNode⟩

theorem entries_sorted (tree : RBTree K V) (ids : List NodeId) (entries : List (K × V)) (ascending : Ascending tree ids)
    (stored : List.Forall₂ (fun id entry => Stored tree id entry.1 entry.2) ids entries) :
    (entries.map Prod.fst).Pairwise (· < ·) := by
  induction stored with
  | nil => exact .nil
  | @cons id entry ids entries isStored others ih =>
      obtain ⟨key, data, isKey, _, restOk, _, above⟩ := ascending_node tree [] ids id ascending
      refine List.pairwise_cons.mpr ⟨fun other member => ?_, ih restOk⟩
      obtain ⟨⟨other, value⟩, inside, rfl⟩ := List.mem_map.mp member
      obtain ⟨node, nodeIn, isNode⟩ := (entries_member tree ids entries _ _ others).mp inside
      have same : key = entry.1 := Option.some.inj (isKey.1.symm.trans isStored.1)
      exact same ▸ above node nodeIn other isNode.1

omit [LinearOrder K] in
theorem entries_data (tree : RBTree K V) (ids : List NodeId) (entries : List (K × V))
    (stored : List.Forall₂ (fun id entry => Stored tree id entry.1 entry.2) ids entries) :
    ids.map (fun id => (tree.nodes id).key) = (entries.map Prod.fst).map some ∧
      ids.mapM (fun id => (tree.nodes id).data) = some (entries.map Prod.snd) := by
  induction stored with
  | nil => exact ⟨rfl, rfl⟩
  | cons isStored others ih =>
      rw [List.map_cons, List.map_cons, List.map_cons, List.map_cons, List.mapM_cons, isStored.1, isStored.2, ih.1, ih.2]
      exact ⟨rfl, rfl⟩

theorem index_entries (tree : RBTree K V) (whole : ColorTree NodeId) (contents : K → Option V) (index : Index tree whole contents) :
    ∃ entries : List (K × V), whole.labels.map (fun id => (tree.nodes id).key) = (entries.map Prod.fst).map some ∧
      whole.labels.mapM (fun id => (tree.nodes id).data) = some (entries.map Prod.snd) ∧
      (entries.map Prod.fst).Pairwise (· < ·) ∧ ∀ key data, (key, data) ∈ entries ↔ contents key = some data := by
  obtain ⟨entries, stored⟩ := entries_from tree whole.labels index.ascending.stored
  obtain ⟨keys, data⟩ := entries_data tree whole.labels entries stored
  refine ⟨entries, keys, data, entries_sorted tree whole.labels entries index.ascending stored, fun key value => ?_⟩
  rw [entries_member tree whole.labels entries key value stored, index.holds]

theorem tree_session_correct (s : Session K V) (reach : Reachable s) :
    ∃ (whole : ColorTree NodeId) (keys : List K),
      Represents s.tree whole [] ∧ (∃ total, Balanced whole false total) ∧
      traverse s.tree = some whole.labels ∧
      whole.labels.map (fun id => (s.tree.nodes id).key) = keys.map some ∧
      keys.Pairwise (· < ·) ∧ (∀ key, key ∈ keys ↔ (s.contents key).isSome) ∧
      whole.height ≤ 2 * Nat.log 2 (keys.length + 1) ∧
      (∀ key, ∃ result, find s.tree key = some result ∧
        (result.bind fun id => (s.tree.nodes id).data) = s.contents key) ∧
      (∀ key data, find s.tree key = some none → ∃ next node, insert s.tree key data = some (next, node)) ∧
      ∀ node ∈ s.found, ∃ key next, (s.tree.nodes node).key = some key ∧ delete s.tree node = some next := by
  obtain ⟨whole, index, held⟩ := reachable_sound s reach
  obtain ⟨entries, mapped, _, sorted, members⟩ := index_entries s.tree whole s.contents index
  have domain : ∀ key, key ∈ entries.map Prod.fst ↔ (s.contents key).isSome := by
    intro key
    simp [Option.isSome_iff_exists, ← members]
  let keys := entries.map Prod.fst
  obtain ⟨total, balanced⟩ := index.balanced
  have size : keys.length = whole.labels.length := by
    simpa [keys] using (congrArg List.length mapped).symm
  refine ⟨whole, keys, index.rep, ⟨total, balanced⟩, index_traverse s.tree whole s.contents index, mapped, sorted, domain,
    size ▸ black_root_height whole total balanced, fun key => ?_, fun key data missing => ?_, fun node member => ?_⟩
  · rcases index_find s.tree whole s.contents key index with ⟨missing, absent⟩ | ⟨id, data, present, _, isStored, holds⟩
    · exact ⟨none, missing, absent.symm⟩
    · exact ⟨some id, present, isStored.2.trans holds.symm⟩
  · have absent : s.contents key = none := by
      rcases index_find s.tree whole s.contents key index with ⟨_, absent⟩ | ⟨id, value, present, _, _, _⟩
      · exact absent
      · simp [missing] at present
    obtain ⟨next, _, inserted, _⟩ := index_insert s.tree whole s.contents key data index absent
    exact ⟨next, _, inserted⟩
  · obtain ⟨key, data, isStored, _⟩ := index_stored s.tree whole s.contents node index (held node member)
    obtain ⟨next, _, deleted, _⟩ := index_delete s.tree whole s.contents node key index (held node member) isStored.1
    exact ⟨key, next, isStored.1, deleted⟩

def enterAll (s : Session K V) : List (K × V) → Session K V
  | [] => s
  | entry :: rest =>
      enterAll ⟨((RBTree.insert s.tree entry.1 entry.2).map Prod.fst).getD s.tree, s.found, assign s.contents entry.1 (some entry.2)⟩ rest

theorem reachable_entered (entries : List (K × V)) (s : Session K V) (reach : Reachable s) (distinct : (entries.map Prod.fst).Nodup)
    (absent : ∀ entry ∈ entries, s.contents entry.1 = none) : Reachable (enterAll s entries) := by
  induction entries generalizing s with
  | nil => exact reach
  | cons entry rest ih =>
      rw [List.map_cons, List.nodup_cons] at distinct
      obtain ⟨whole, index, _⟩ := reachable_sound s reach
      have fresh := absent entry List.mem_cons_self
      have missing : RBTree.find s.tree entry.1 = some none := by
        rcases index_find s.tree whole s.contents entry.1 index with ⟨missing, _⟩ | ⟨id, data, _, _, _, holds⟩
        · exact missing
        · rw [fresh] at holds
          cases holds
      obtain ⟨next, _, inserted, _⟩ := index_insert s.tree whole s.contents entry.1 entry.2 index fresh
      have reached := Reachable.insert s entry.1 entry.2 next _ reach missing inserted
      rw [enterAll, inserted]
      refine ih _ reached distinct.2 fun other member => ?_
      have apart : other.1 ≠ entry.1 := fun same => distinct.1 (same ▸ List.mem_map_of_mem member)
      exact (assign_other _ _ _ _ apart).trans (absent other (List.mem_cons_of_mem _ member))

def fiveEntries : Session Nat Nat :=
  enterAll ⟨create, [], fun _ => none⟩ [(1, 10), (2, 20), (3, 30), (4, 40), (5, 50)]

example : ((fiveEntries.tree.nodes 2).left, (fiveEntries.tree.nodes 2).right) = (some 1, some 4) := by decide +kernel

theorem five_entries_reachable : Reachable fiveEntries := by
  refine reachable_entered _ ⟨create, [], fun _ => none⟩ .start (by decide) fun _ _ => rfl

-- The key at the root, whose node has two children, is found and deleted.
def rootDeleted : Session Nat Nat where
  tree := (RBTree.delete fiveEntries.tree 2).getD fiveEntries.tree
  found := []
  contents := assign fiveEntries.contents 2 none

theorem root_deleted_reachable : Reachable rootDeleted := by
  have present : RBTree.find fiveEntries.tree 2 = some (some 2) := by decide +kernel
  have isKey : (fiveEntries.tree.nodes 2).key = some 2 := by decide +kernel
  have held := Reachable.find fiveEntries 2 (some 2) five_entries_reachable present
  obtain ⟨whole, index, labels⟩ := reachable_sound _ held
  obtain ⟨next, _, deleted, _⟩ := index_delete fiveEntries.tree whole fiveEntries.contents 2 2 index (labels 2 List.mem_cons_self) isKey
  have reached := Reachable.delete _ 2 2 next held List.mem_cons_self isKey deleted
  have isRoot : rootDeleted = ⟨next, [], assign fiveEntries.contents 2 none⟩ := by
    rw [rootDeleted, deleted]
    rfl
  rw [isRoot]
  exact reached

theorem tree_session_correct_root_deleted : ∃ (whole : ColorTree NodeId) (keys : List Nat), Represents rootDeleted.tree whole [] ∧
    (∃ total, Balanced whole false total) ∧ traverse rootDeleted.tree = some whole.labels ∧
    whole.labels.map (fun id => (rootDeleted.tree.nodes id).key) = keys.map some ∧ keys.Pairwise (· < ·) ∧
    (∀ key, key ∈ keys ↔ (rootDeleted.contents key).isSome) ∧ whole.height ≤ 2 * Nat.log 2 (keys.length + 1) := by
  obtain ⟨whole, keys, rep, balanced, order, mapped, sorted, domain, height, _⟩ :=
    tree_session_correct rootDeleted root_deleted_reachable
  exact ⟨whole, keys, rep, balanced, order, mapped, sorted, domain, height⟩

end RingServer.RBTree
