import StyleTree.Text.Lowercase
import StyleTree.Tree

/-!
# Ancestors

The chain of nodes around a position, from the parent out to the root, and what is found in it. Read
the other way it is the path that leads down to the position, from child to child.
-/

namespace StyleTree.Tree

/-- The parents met in at most `bound` steps up. -/
def climb (t : Tree) : Nat → NodeId → List NodeId
  | 0, _ => []
  | bound + 1, n =>
    match t.parent? n with
    | some p => p :: t.climb bound p
    | none => []

/-- The nodes around `n`, nearest first. A chain of parents holds no node twice, so it is whole. -/
def ancestors (t : Tree) (n : NodeId) : List NodeId :=
  t.climb t.size n

/-- Going from `n` to the parent again and again passes these nodes, until there is no parent. -/
inductive Ascends (t : Tree) : NodeId → List NodeId → Prop where
  | top {n : NodeId} (orphan : t.parent? n = none) : Ascends t n []
  | up {n p : NodeId} {ps : List NodeId} (parent : t.parent? n = some p) (rest : Ascends t p ps) :
      Ascends t n (p :: ps)

/-- The ancestor at a depth; the parent has depth 0. -/
def ancestor? (t : Tree) (n : NodeId) (depth : Nat) : Option NodeId :=
  (t.ancestors n)[depth]?

def hasKindIn (t : Tree) (kinds : List Kind) (n : NodeId) : Bool :=
  kinds.any (t.isKind n)

/-- The nearest ancestor whose kind is one of the given. -/
def nearest? (t : Tree) (n : NodeId) (kinds : List Kind) : Option NodeId :=
  (t.ancestors n).find? (t.hasKindIn kinds)

def nearestDepth? (t : Tree) (n : NodeId) (kinds : List Kind) : Option Nat :=
  (t.ancestors n).findIdx? (t.hasKindIn kinds)

/-- Step from `n` to one of its own children. -/
def descend? (t : Tree) (n child : NodeId) : Option NodeId :=
  if t.parent? child = some n then some child else none

/-- The property of the nearest declaration around `n`, lower-cased, when it has one. -/
def enclosingProperty? (t : Tree) (n : NodeId) : Option String :=
  match (t.nearest? n [.declaration]).bind t.prop? with
  | some prop => if prop.isEmpty then none else some (Text.lowercase prop)
  | none => none

/-- Descend from `n` into one id after the other, each of which has to be a child of the last. -/
def descendAlong? (t : Tree) (n : NodeId) (path : List NodeId) : Option NodeId :=
  path.foldlM t.descend? n

/-- Go from `n` to the child at one place after the other. -/
def childAlong? (t : Tree) (n : NodeId) (places : List Nat) : Option NodeId :=
  places.foldlM t.child? n

/-- The ancestors of `n` from the root down and `n` itself, without the root. -/
def pathTo (t : Tree) (n : NodeId) : List NodeId :=
  ((t.ancestors n).reverse ++ [n]).tail

end StyleTree.Tree
