import Mathlib.Logic.Function.Basic
import Mathlib.Order.Lattice
import RingServer.Library.ColorTree

set_option autoImplicit false

namespace RingServer

open Library

-- References are identities of allocated nodes, null is none and the sentinel
-- _nil is the node with identity 0. Every operation returns none exactly where
-- the code throws (a null dereference, or a rotation without its child).
abbrev NodeId := Nat

def nilId : NodeId := 0

structure RBNode (K V : Type) where
  key : Option K
  data : Option V
  isRed : Bool
  left : Option NodeId
  right : Option NodeId
  parent : Option NodeId

def RBNode.child {K V : Type} (node : RBNode K V) : Side → Option NodeId
  | .left => node.left
  | .right => node.right

def RBNode.setChild {K V : Type} (node : RBNode K V) (child : Option NodeId) : Side → RBNode K V
  | .left => { node with left := child }
  | .right => { node with right := child }

structure RBTree (K V : Type) where
  nodes : NodeId → RBNode K V
  next : NodeId
  root : Option NodeId

namespace RBTree

variable {K V : Type}

def create : RBTree K V where
  nodes := fun _ => ⟨none, none, false, some nilId, some nilId, none⟩
  next := 1
  root := some nilId

def write (tree : RBTree K V) (id : NodeId) (node : RBNode K V) : RBTree K V :=
  { tree with nodes := Function.update tree.nodes id node }

def setRed (tree : RBTree K V) (id : NodeId) (red : Bool) : RBTree K V :=
  tree.write id { tree.nodes id with isRed := red }

def setParent (tree : RBTree K V) (id : NodeId) (parent : Option NodeId) : RBTree K V :=
  tree.write id { tree.nodes id with parent := parent }

def setChild (tree : RBTree K V) (id : NodeId) (child : Option NodeId) (side : Side) : RBTree K V :=
  tree.write id ((tree.nodes id).setChild child side)

def setData (tree : RBTree K V) (id : NodeId) (data : V) : RBTree K V :=
  tree.write id { tree.nodes id with data := some data }

-- node?.IsRed == true
def redRef (tree : RBTree K V) : Option NodeId → Bool
  | none => false
  | some id => (tree.nodes id).isRed

-- LeftRotate is rotate .left and RightRotate is rotate .right.
def rotate (side : Side) (tree : RBTree K V) (x : NodeId) : Option (RBTree K V) :=
  if (tree.nodes x).child side.other = some nilId then none
  else do
    let y ← (tree.nodes x).child side.other
    let tree := tree.setChild x ((tree.nodes y).child side) side.other
    let middle ← (tree.nodes y).child side
    let tree := if middle ≠ nilId then tree.setParent middle (some x) else tree
    let parent ← (tree.nodes x).parent
    let tree := tree.setParent y (some parent)
    let tree :=
      if parent = nilId then { tree with root := some y }
      else if (tree.nodes parent).child side = some x then tree.setChild parent (some y) side
      else tree.setChild parent (some y) side.other
    let tree := tree.setChild y (some x) side
    some (tree.setParent x (some y))

def leftRotate (tree : RBTree K V) (x : NodeId) : Option (RBTree K V) := rotate .left tree x

def rightRotate (tree : RBTree K V) (x : NodeId) : Option (RBTree K V) := rotate .right tree x

-- The loop body of InsertFixup when the parent of z is the given child of its
-- own parent; the two halves of the source differ only in the side.
def insertFixupSide (side : Side) (tree : RBTree K V) (z : NodeId) : Option (RBTree K V × NodeId) := do
  let parent ← (tree.nodes z).parent
  let uncle := (tree.nodes parent).parent.bind fun grand => (tree.nodes grand).child side.other
  if tree.redRef uncle then
    let y ← uncle
    let grand ← (tree.nodes parent).parent
    let tree := ((tree.setRed parent false).setRed y false).setRed grand true
    some (tree, grand)
  else
    let (tree, z) ←
      if (tree.nodes parent).child side.other = some z then
        (rotate side tree parent).map fun tree => (tree, parent)
      else some (tree, z)
    match (tree.nodes z).parent with
    | none => some (tree, z)
    | some parent =>
        let tree := tree.setRed parent false
        match (tree.nodes parent).parent with
        | none => some (tree, z)
        | some grand =>
            (rotate side.other (tree.setRed grand true) grand).map fun tree => (tree, z)

def insertFixup : Nat → RBTree K V → NodeId → Option (RBTree K V)
  | 0, _, _ => none
  | fuel + 1, tree, z =>
      if tree.redRef (tree.nodes z).parent then do
        let parent ← (tree.nodes z).parent
        let side := if (tree.nodes parent).parent.bind (fun grand => (tree.nodes grand).left) = some parent
          then Side.left else Side.right
        let (tree, z) ← insertFixupSide side tree z
        insertFixup fuel tree z
      else
        match tree.root with
        | none => some tree
        | some root => some (tree.setRed root false)

variable [LinearOrder K]

def compareFunc : Option K → Option K → Ordering
  | none, none => .eq
  | none, some _ => .lt
  | some _, none => .gt
  | some a, some b => compare a b

-- The while loops walk one level down the tree for each unit of fuel.
def insertDescend (tree : RBTree K V) (key : K) : Nat → NodeId → NodeId → Option NodeId
  | 0, _, _ => none
  | fuel + 1, x, y =>
      if x = nilId then some y
      else if compareFunc (some key) (tree.nodes x).key = .lt then do
        insertDescend tree key fuel (← (tree.nodes x).left) x
      else do
        insertDescend tree key fuel (← (tree.nodes x).right) x

def insertNode (tree : RBTree K V) (key : K) (node : NodeId) : Option (RBTree K V) := do
  let root ← tree.root
  let y ← insertDescend tree key tree.next root nilId
  let tree := tree.setParent node (some y)
  let tree :=
    if y = nilId then { tree with root := some node }
    else if compareFunc (some key) (tree.nodes y).key = .lt then tree.setChild y (some node) .left
    else tree.setChild y (some node) .right
  let tree := (tree.setChild node (some nilId) .left).setChild node (some nilId) .right
  insertFixup tree.next (tree.setRed node true) node

def insert (tree : RBTree K V) (key : K) (data : V) : Option (RBTree K V × NodeId) :=
  let node := tree.next
  let tree := { tree with next := tree.next + 1 }.write node ⟨some key, some data, true, none, none, none⟩
  (insertNode tree key node).map fun tree => (tree, node)

def findFrom (tree : RBTree K V) (key : K) : Nat → NodeId → Option (Option NodeId)
  | 0, _ => none
  | fuel + 1, x =>
      if x = nilId then some none
      else match compareFunc (some key) (tree.nodes x).key with
        | .eq => some (some x)
        | .lt => do findFrom tree key fuel (← (tree.nodes x).left)
        | .gt => do findFrom tree key fuel (← (tree.nodes x).right)

def find (tree : RBTree K V) (key : K) : Option (Option NodeId) := do
  findFrom tree key tree.next (← tree.root)

omit [LinearOrder K]

def minimumFrom (tree : RBTree K V) : Nat → NodeId → Option NodeId
  | 0, _ => none
  | fuel + 1, x =>
      if (tree.nodes x).left = some nilId then some x
      else do minimumFrom tree fuel (← (tree.nodes x).left)

def minimum (tree : RBTree K V) (node : Option NodeId) : Option NodeId := do
  let x ← node
  if x = nilId then none else minimumFrom tree tree.next x

def transplant (tree : RBTree K V) (u v : NodeId) : Option (RBTree K V) := do
  let parent ← (tree.nodes u).parent
  let tree :=
    if parent = nilId then { tree with root := some v }
    else if (tree.nodes parent).left = some u then tree.setChild parent (some v) .left
    else tree.setChild parent (some v) .right
  some (tree.setParent v (tree.nodes u).parent)

-- The loop body of DeleteFixup when x is the given child of its parent: first a
-- red sibling is rotated above x, then a red near nephew takes its place, and
-- last the red far nephew ends the loop.
def redSibling (side : Side) (tree : RBTree K V) (x : NodeId) : Option (RBTree K V × Option NodeId) := do
  let parent ← (tree.nodes x).parent
  let w := (tree.nodes parent).child side.other
  if tree.redRef w then do
    let sibling ← w
    let tree ← rotate side ((tree.setRed sibling false).setRed parent true) parent
    let parent ← (tree.nodes x).parent
    some (tree, (tree.nodes parent).child side.other)
  else some (tree, w)

def nearNephew (side : Side) (tree : RBTree K V) (x : NodeId) (w : Option NodeId) :
    Option (RBTree K V × Option NodeId) := do
  let near := w.bind fun w => (tree.nodes w).child side
  let tree := near.elim tree fun near => tree.setRed near false
  let tree := w.elim tree fun w => tree.setRed w true
  let tree ← w.elim (some tree) fun w => rotate side.other tree w
  let parent ← (tree.nodes x).parent
  some (tree, (tree.nodes parent).child side.other)

def farNephew (side : Side) (tree : RBTree K V) (x : NodeId) (w : Option NodeId) : Option (RBTree K V × NodeId) := do
  let parent ← (tree.nodes x).parent
  let tree := w.elim tree fun w => tree.setRed w (tree.nodes parent).isRed
  let tree := tree.setRed parent false
  let far := w.bind fun w => (tree.nodes w).child side.other
  let tree := far.elim tree fun far => tree.setRed far false
  let tree ← rotate side tree parent
  let root ← tree.root
  some (tree, root)

def deleteNephews (side : Side) (tree : RBTree K V) (x : NodeId) (w : Option NodeId) : Option (RBTree K V × NodeId) := do
  let near := w.bind fun w => (tree.nodes w).child side
  let far := w.bind fun w => (tree.nodes w).child side.other
  if !tree.redRef near && !tree.redRef far then
    let tree := w.elim tree fun w => tree.setRed w true
    let parent ← (tree.nodes x).parent
    some (tree, parent)
  else
    let (tree, w) ← if !tree.redRef far then nearNephew side tree x w else some (tree, w)
    farNephew side tree x w

def deleteFixupSide (side : Side) (tree : RBTree K V) (x : NodeId) : Option (RBTree K V × NodeId) := do
  let (tree, w) ← redSibling side tree x
  deleteNephews side tree x w

def deleteFixup : Nat → RBTree K V → NodeId → Option (RBTree K V)
  | 0, _, _ => none
  | fuel + 1, tree, x =>
      if tree.root ≠ some x ∧ (tree.nodes x).isRed = false then do
        let side := if (tree.nodes x).parent.bind (fun parent => (tree.nodes parent).left) = some x
          then Side.left else Side.right
        let (tree, x) ← deleteFixupSide side tree x
        deleteFixup fuel tree x
      else some (tree.setRed x false)

-- Delete with two children: y, the minimum to the right of z, leaves its place
-- to its right child x and then takes the place of z.
def vacate (tree : RBTree K V) (z y x : NodeId) : Option (RBTree K V) :=
  if (tree.nodes y).parent = some z then some (tree.setParent x (some y))
  else do
    let tree ← transplant tree y x
    let tree := tree.setChild y (tree.nodes z).right .right
    let right ← (tree.nodes y).right
    some (tree.setParent right (some y))

def takePlace (tree : RBTree K V) (z y : NodeId) : Option (RBTree K V) := do
  let tree ← transplant tree z y
  let tree := tree.setChild y (tree.nodes z).left .left
  let left ← (tree.nodes y).left
  let tree := tree.setParent left (some y)
  some (tree.setRed y (tree.nodes z).isRed)

def delete (tree : RBTree K V) (z : NodeId) : Option (RBTree K V) := do
  let left ← (tree.nodes z).left
  let right ← (tree.nodes z).right
  if left = nilId then
    let next ← transplant tree z right
    if (tree.nodes z).isRed then some next else deleteFixup next.next next right
  else if right = nilId then
    let next ← transplant tree z left
    if (tree.nodes z).isRed then some next else deleteFixup next.next next left
  else
    let y ← minimum tree (some right)
    let yOriginalRed := (tree.nodes y).isRed
    let x ← (tree.nodes y).right
    let next ← vacate tree z y x
    let next ← takePlace next z y
    if yOriginalRed then some next else deleteFixup next.next next x

def traverseNode (tree : RBTree K V) : Nat → Option NodeId → Option (List NodeId)
  | 0, _ => none
  | _ + 1, none => some []
  | fuel + 1, some node =>
      if node = nilId then some []
      else do
        let left ← traverseNode tree fuel (tree.nodes node).left
        let right ← traverseNode tree fuel (tree.nodes node).right
        some (left ++ node :: right)

-- The nodes on which Traverse calls its action, in the order of the calls.
def traverse (tree : RBTree K V) : Option (List NodeId) := traverseNode tree tree.next tree.root

def destroy (tree : RBTree K V) : RBTree K V := { tree with root := some nilId }

end RBTree

end RingServer
