import StyleTree.Node

/-!
# Arenas

An arena holds nodes in the order of their creation, and a node's id is its place in that order.
Nothing is promised about the ids of children: a node may name children that do not exist, or that
another node has too. The sweep from a root is there twice: as the visits of a bounded run, and as a
machine that stops when nothing is left to visit.
-/

namespace StyleTree

/-- Nodes in the order of their creation. -/
structure Arena where
  nodes : Array Node
  deriving DecidableEq, Repr

namespace Arena

def empty : Arena :=
  ⟨#[]⟩

def size (a : Arena) : Nat :=
  a.nodes.size

def node? (a : Arena) (n : NodeId) : Option Node :=
  a.nodes[n]?

/-- The ids that a node names as its children. -/
def children (a : Arena) (n : NodeId) : List NodeId :=
  match a.node? n with
  | some x => x.children
  | none => []

/-- Add a node; gives its id. -/
def push (a : Arena) (x : Node) : Arena × NodeId :=
  (⟨a.nodes.push x⟩, a.size)

/-- Add the two nodes that wrap a group as a parsed value; gives the id of the outer one. -/
def pushValue (a : Arena) (group : NodeId) : Arena × NodeId :=
  let (a, inner) := a.push (.valueValue (some group))
  a.push (.valueRoot (some inner))

/-- Every reference from a parent to a child, by parent and then by position. -/
def edges (a : Arena) : List (NodeId × NodeId) :=
  a.nodes.toList.zipIdx.flatMap fun (x, parent) => x.children.map (parent, ·)

/--
Visit at most `bound` nodes: the top of the stack is visited and the nodes after it take its place.
Gives the visited nodes in order, and the stack that is left.
-/
def visit (after : NodeId → List NodeId) : Nat → List NodeId → List NodeId × List NodeId
  | 0, stack => ([], stack)
  | _ + 1, [] => ([], [])
  | bound + 1, n :: stack =>
    let (visited, left) := visit after bound (after n ++ stack)
    (n :: visited, left)

/-- The nodes met from `root` on, in depth-first pre-order. -/
def walk (a : Arena) (root : NodeId) : List NodeId :=
  (visit a.children a.size [root]).1

/-- The children of a node, last child first. -/
def backwards (a : Arena) (n : NodeId) : List NodeId :=
  (a.children n).reverse

/-- The nodes met from `root` on, last child first. -/
def sweep (a : Arena) (root : NodeId) : List NodeId :=
  (visit a.backwards a.size [root]).1

/-- For each id, whether the sweep from `root` meets it. -/
def reached (a : Arena) (root : NodeId) : Array Bool :=
  (a.sweep root).foldl (fun marks n => marks.setIfInBounds n true) (Array.replicate a.size false)

/-- The first node that the sweep from `root` does not meet. -/
def firstUnreached? (a : Arena) (root : NodeId) : Option NodeId :=
  (a.reached root).toList.findIdx? (! ·)

/-- `b` has the nodes of `a` under the same ids, and maybe more. -/
structure Extends (a b : Arena) : Prop where
  size_le : a.size ≤ b.size
  node?_eq : ∀ n < a.size, b.node? n = a.node? n

/-- A new node makes the arena larger by one. -/
@[simp] theorem size_push (a : Arena) (x : Node) : (a.push x).1.size = a.size + 1 := by
  simp [push, size]

/-- The id of a new node is the number of the nodes before it. -/
@[simp] theorem snd_push (a : Arena) (x : Node) : (a.push x).2 = a.size := rfl

/-- A new node is under its id, and under every other id stands what stood there. -/
theorem node?_push (a : Arena) (x : Node) (n : NodeId) :
    (a.push x).1.node? n = if n = a.size then some x else a.node? n :=
  Array.getElem?_push

/-- The id of a node is smaller than the number of nodes. -/
theorem node?_eq_some_lt {a : Arena} {n : NodeId} {x : Node} (h : a.node? n = some x) :
    n < a.size :=
  (Array.getElem?_eq_some_iff.mp h).1

/-- An arena extends itself. -/
theorem Extends.refl (a : Arena) : a.Extends a :=
  ⟨Nat.le_refl _, fun _ _ => rfl⟩

/-- What extends an extension extends the arena too. -/
theorem Extends.trans {a b c : Arena} (ab : a.Extends b) (bc : b.Extends c) : a.Extends c where
  size_le := Nat.le_trans ab.size_le bc.size_le
  node?_eq n lt := by rw [bc.node?_eq n (Nat.lt_of_lt_of_le lt ab.size_le), ab.node?_eq n lt]

/-- An arena is extended by a new node. -/
theorem extends_push (a : Arena) (x : Node) : a.Extends (a.push x).1 where
  size_le := by simp
  node?_eq n lt := by rw [node?_push, if_neg (Nat.ne_of_lt lt)]

/-- In an extension the nodes that were there have the same children. -/
theorem Extends.children_eq {a b : Arena} {n : NodeId} (grows : a.Extends b) (lt : n < a.size) :
    b.children n = a.children n := by
  simp only [children, grows.node?_eq n lt]

/-- The edges lead from each node to its children. -/
theorem mem_edges {a : Arena} {p c : NodeId} : (p, c) ∈ a.edges ↔ c ∈ a.children p := by
  simp only [edges, List.mem_flatMap, List.mem_map, Prod.exists, Prod.mk.injEq]
  constructor
  · rintro ⟨x, p, mem, c, child, rfl, rfl⟩
    have at_p : a.node? p = some x := by
      simpa [node?] using List.mem_zipIdx_iff_getElem?.mp mem
    simpa [children, at_p] using child
  · intro child
    simp only [children] at child
    split at child
    · rename_i x at_p
      refine ⟨x, p, List.mem_zipIdx_iff_getElem?.mpr ?_, c, child, rfl, rfl⟩
      simpa [node?] using at_p
    · cases child

end Arena

/--
Where a sweep stands that nothing bounds, and that visits the top of its stack as long as there is
one: the marks that are set, and the stack, its top first.
-/
structure Sweep where
  marks : Array Bool
  stack : List NodeId
  deriving DecidableEq, Repr

namespace Sweep

/-- The sweep from `root` before its first visit. -/
def start (a : Arena) (root : NodeId) : Sweep :=
  ⟨Array.replicate a.size false, [root]⟩

/--
Visit the node on top of the stack: it is marked, and its children take its place, the last one on
top. There is no visit when the stack is empty, and none to a node that has no mark to set or is not
in the arena.
-/
def visit? (a : Arena) (s : Sweep) : Option (NodeId × Sweep) :=
  match s.stack with
  | [] => none
  | n :: stack =>
    if n < s.marks.size ∧ n < a.size then
      some (n, ⟨s.marks.setIfInBounds n true, a.backwards n ++ stack⟩)
    else none

/-- The sweep gets from one state to another by visiting these nodes, in this order. -/
inductive Visits (a : Arena) : Sweep → List NodeId → Sweep → Prop where
  | none (s : Sweep) : Visits a s [] s
  | next {s s' s'' : Sweep} {n : NodeId} {ns : List NodeId} (visit : s.visit? a = some (n, s'))
      (rest : Visits a s' ns s'') : Visits a s (n :: ns) s''

end Sweep

end StyleTree
