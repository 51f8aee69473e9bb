import StyleTree.Node.Label
import StyleTree.Rose
import StyleTree.Tree.Rooted

/-!
# Unfolding trees

The nested tree that is met when the children of a node are followed down: once as ids, and once as
what the nodes say. Where the ids of a subtree follow one another, they are a block, and the blocks
of siblings may stand side by side.
-/

namespace StyleTree

mutual

/-- The nested tree of ids has the children that the arena names, at every place. -/
def Rose.Follows (a : Arena) : Rose NodeId → Prop
  | .node n rs => a.children n = rs.map Rose.label ∧ Rose.FollowAll a rs

/-- So have all of these. -/
def Rose.FollowAll (a : Arena) : List (Rose NodeId) → Prop
  | [] => True
  | r :: rs => r.Follows a ∧ Rose.FollowAll a rs

end

namespace Arena

/-- Following the children of `n` down gives the nested tree of ids. -/
def Unfolds (a : Arena) (n : NodeId) (r : Rose NodeId) : Prop :=
  r.label = n ∧ r.Follows a

/-- What a node says by itself. -/
def label? (a : Arena) (n : NodeId) : Option Label :=
  (a.node? n).map Node.label

/-- Following the children of `n` down gives the nested tree of labels. -/
def ReadsAs (a : Arena) (n : NodeId) (r : Rose Label) : Prop :=
  ∃ ids, a.Unfolds n ids ∧ ids.map a.label? = r.map some

/-- The nested tree of ids meets every node of the arena once. -/
def Covers (a : Arena) (ids : Rose NodeId) : Prop :=
  ids.preorder.Perm (List.range a.size)

/-- The node `n` and all that is below it are the ids from `low` up to `n`. -/
structure Block (a : Arena) (low n : NodeId) : Prop where
  low_le : low ≤ n
  reaches_iff : ∀ m, a.Reaches n m ↔ low ≤ m ∧ m ≤ n

/-- The blocks of these nodes, one after the other, are the ids from `low` to before `high`. -/
inductive Tiles (a : Arena) : NodeId → List NodeId → NodeId → Prop where
  | nil (low : NodeId) : Tiles a low [] low
  | cons {low n high : NodeId} {ns : List NodeId} (block : a.Block low n)
      (rest : Tiles a (n + 1) ns high) : Tiles a low (n :: ns) high

end Arena

namespace Tree

/-- The walk meets `n` before it meets `m`. -/
def Precedes (t : Tree) (n m : NodeId) : Prop :=
  [n, m].Sublist t.walk

end Tree

end StyleTree
