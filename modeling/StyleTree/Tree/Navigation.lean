import StyleTree.Tree.Ancestors

/-!
# Navigation by handles

A handle is an id that is taken on trust. Its slots are read without a look at the bounds, and a
cursor on an id that is no node falls back on the root. A read outside of the arena is an error
here, apart from the answer that there is no such node, so that a run of steps tells the two apart.
-/

namespace StyleTree

/-- A slot was read that the arena does not have. -/
structure OutOfBounds where
  node : NodeId
  deriving DecidableEq, Repr

/-- How the first handles are got. -/
inductive Start where
  /-- The root, or a new cursor. -/
  | root
  /-- The node with any id, or a cursor put there. -/
  | get (n : NodeId)
  /-- The walk over the tree. -/
  | walk
  deriving DecidableEq, Repr

/-- A step from a handle, or from the cursor on it, to other handles. -/
inductive Step where
  | children
  | child (i : Nat)
  | value
  | group
  | parent
  /-- The node under the cursor. -/
  | node
  | ancestors
  | ancestor (depth : Nat)
  | nearest (kinds : List Kind)
  | descend (child : NodeId)
  deriving DecidableEq, Repr

namespace Tree

def slot {α : Type} (slots : Array α) (n : NodeId) : Except OutOfBounds α :=
  match slots[n]? with
  | some x => .ok x
  | none => .error ⟨n⟩

/-- The node in the slot of a handle. -/
def readNode (t : Tree) (n : NodeId) : Except OutOfBounds Node :=
  slot t.arena.nodes n

/-- The parent in the slot of a handle. -/
def readParent (t : Tree) (n : NodeId) : Except OutOfBounds (Option NodeId) :=
  slot t.links n

/-- The node under a cursor: the one it was put on, or else the root. -/
def underCursor (t : Tree) (n : NodeId) : NodeId :=
  if t.has n then n else t.root

/-- The handles read in at most `bound` steps up. -/
def readAncestors (t : Tree) : Nat → NodeId → Except OutOfBounds (List NodeId)
  | 0, _ => .ok []
  | bound + 1, n => do
    match ← t.readParent n with
    | some p => return p :: (← t.readAncestors bound p)
    | none => return []

/-- The handles read in at most `bound` visits, with the children of each put on the stack. -/
def readWalk (t : Tree) : Nat → List NodeId → Except OutOfBounds (List NodeId)
  | 0, _ => .ok []
  | _ + 1, [] => .ok []
  | bound + 1, n :: stack => do
    let x ← t.readNode n
    return n :: (← t.readWalk bound (x.children ++ stack))

/-- The first of some handles whose node is of one of the given kinds. -/
def readFirst (t : Tree) (kinds : List Kind) : List NodeId → Except OutOfBounds (Option NodeId)
  | [] => .ok none
  | n :: ns => do
    let x ← t.readNode n
    if x.kind ∈ kinds then return some n else t.readFirst kinds ns

def start (t : Tree) : Start → Except OutOfBounds (List NodeId)
  | .root => .ok [t.root]
  | .get n => .ok (if t.has n then [n] else [])
  | .walk => t.readWalk t.size [t.root]

/-- The handles that a step gives, one for each target. -/
def follow (t : Tree) (n : NodeId) : Step → Except OutOfBounds (List NodeId)
  | .children => return (← t.readNode n).children
  | .child i => return (← t.readNode n).children[i]?.toList
  | .value => return (← t.readNode n).value?.toList
  | .group => return (← t.readNode n).group?.toList
  | .parent => return (← t.readParent n).toList
  | .node => return [t.underCursor n]
  | .ancestors => t.readAncestors t.size (t.underCursor n)
  | .ancestor depth => return (← t.readAncestors t.size (t.underCursor n))[depth]?.toList
  | .nearest kinds => do
    let ancestors ← t.readAncestors t.size (t.underCursor n)
    return (← t.readFirst kinds ancestors).toList
  | .descend child => do
    if t.has child then
      return if (← t.readParent child) = some n then [child] else []
    else return []

/-- The handles after a run of steps, each step taken from every handle there is. -/
def navigate (t : Tree) : List Step → List NodeId → Except OutOfBounds (List NodeId)
  | [], ns => .ok ns
  | step :: steps, ns => do
    let next ← ns.mapM (t.follow · step)
    t.navigate steps next.flatten

/-- What a step leads to, looked up with care. -/
def targets (t : Tree) (n : NodeId) : Step → List NodeId
  | .children => t.children n
  | .child i => (t.child? n i).toList
  | .value => (t.value? n).toList
  | .group => (t.group? n).toList
  | .parent => (t.parent? n).toList
  | .node => [n]
  | .ancestors => t.ancestors n
  | .ancestor depth => (t.ancestor? n depth).toList
  | .nearest kinds => (t.nearest? n kinds).toList
  | .descend child => (t.descend? n child).toList

/-- What a run of steps leads to, where each step goes on from all the targets of the last. -/
def targetsAlong (t : Tree) (steps : List Step) (ns : List NodeId) : List NodeId :=
  steps.foldl (fun ns step => ns.flatMap (t.targets · step)) ns

end Tree

namespace Arena

/-- The node is of one of the given kinds. -/
def HasKindIn (a : Arena) (kinds : List Kind) (n : NodeId) : Prop :=
  ∃ x, a.node? n = some x ∧ x.kind ∈ kinds

/-- `m` is above `n`, and `depth` nodes are between the two. -/
inductive Above (a : Arena) (m : NodeId) : Nat → NodeId → Prop where
  | parent {n : NodeId} (child : n ∈ a.children m) : Above a m 0 n
  | up {depth : Nat} {p n : NodeId} (above : Above a m depth p) (child : n ∈ a.children p) :
      Above a m (depth + 1) n

end Arena

namespace Step

/-- `m` is a target of the step from `n`, by what the nodes of the arena name as their children. -/
def Seeks (a : Arena) (n m : NodeId) : Step → Prop
  | .children => m ∈ a.children n
  | .child i => (a.children n)[i]? = some m
  | .value => ∃ prop raw, a.node? n = some (.declaration prop (some m) raw)
  | .group => a.node? n = some (.valueRoot (some m)) ∨ a.node? n = some (.valueValue (some m))
  | .parent => n ∈ a.children m
  | .node => m = n
  | .ancestors => ∃ depth, a.Above m depth n
  | .ancestor depth => a.Above m depth n
  | .nearest kinds =>
    ∃ depth, a.Above m depth n ∧ a.HasKindIn kinds m ∧
      ∀ nearer < depth, ∀ k, a.Above k nearer n → ¬ a.HasKindIn kinds k
  | .descend c => m = c ∧ c ∈ a.children n

end Step

end StyleTree
