import StyleTree.Tree

/-!
# Rooted trees

What it means for an arena to be one tree, said of its references alone: they lead to nodes, they
repeat no node, they spare the root, and paths of them lead from the root to every node.

Which of its defects an arena is refused for is said the same way. A root that does not exist comes
before all others. Then come the references in order, by the node that makes them and then by
position, and the first one decides that leads nowhere or repeats another. A root that is a child
comes after these, and the first node that no path leads to is the last.
-/

namespace StyleTree

namespace Arena

/-- Every child that a node names, with repetitions. -/
def references (a : Arena) : List NodeId :=
  a.nodes.toList.flatMap Node.children

/-- A path of references leads from `start` to a node. -/
inductive Reaches (a : Arena) (start : NodeId) : NodeId → Prop where
  | start : Reaches a start start
  | child {p c : NodeId} (path : Reaches a start p) (child : c ∈ a.children p) :
      Reaches a start c

/-- Every reference leads to a node, none is made twice, and none leads to the root. -/
structure Branches (a : Arena) (root : NodeId) : Prop where
  root_lt : root < a.size
  references_lt : ∀ c ∈ a.references, c < a.size
  references_nodup : a.references.Nodup
  root_free : root ∉ a.references

/-- The arena is one tree with the given root. -/
structure IsRooted (a : Arena) (root : NodeId) : Prop extends a.Branches root where
  reaches : ∀ n < a.size, a.Reaches root n

/-- The references are where the edges lead. -/
theorem map_snd_edges (a : Arena) : a.edges.map (·.2) = a.references := by
  have targets (xs : List Node) (i : Nat) :
      (xs.zipIdx i).flatMap (fun p => p.1.children) = xs.flatMap Node.children := by
    rw [← List.flatMap_map, List.zipIdx_map_fst]
  simpa [edges, references, List.map_flatMap, Function.comp_def] using targets a.nodes.toList 0

/-- What some node names as its child is referred to. -/
theorem mem_references {a : Arena} {c : NodeId} :
    c ∈ a.references ↔ ∃ p, c ∈ a.children p := by
  simp [← map_snd_edges, ← mem_edges]

end Arena

/-- The arena refers to `n` after the references `earlier`, which lead to different nodes. -/
structure Arena.RefersAfter (a : Arena) (earlier : List NodeId) (n : NodeId) : Prop where
  begins : earlier ++ [n] <+: a.references
  earlier_lt : ∀ c ∈ earlier, c < a.size
  earlier_nodup : earlier.Nodup

/-- The defect is the first of an arena with the given root. -/
inductive Defect.IsFirst (a : Arena) (root : NodeId) : Defect → Prop where
  | unknownRoot (ge : a.size ≤ root) : IsFirst a root (.unknownNode root)
  | unknownChild {earlier : List NodeId} {n : NodeId} (root_lt : root < a.size)
      (refers : a.RefersAfter earlier n) (ge : a.size ≤ n) : IsFirst a root (.unknownNode n)
  | repeatedChild {earlier : List NodeId} {n : NodeId} (root_lt : root < a.size)
      (refers : a.RefersAfter earlier n) (mem : n ∈ earlier) : IsFirst a root (.multipleParents n)
  | rootChild (root_lt : root < a.size) (references_lt : ∀ c ∈ a.references, c < a.size)
      (references_nodup : a.references.Nodup) (mem : root ∈ a.references) :
      IsFirst a root (.rootHasParent root)
  | unreached {n : NodeId} (branches : a.Branches root) (lt : n < a.size)
      (unreached : ¬ a.Reaches root n) (reached : ∀ m < n, a.Reaches root m) :
      IsFirst a root (.unreachable n)

end StyleTree
