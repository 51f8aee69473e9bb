import StyleTree.Arena

/-!
# Checked trees

An arena is one rooted tree when every reference leads to a node, no node is referred to twice, the
root is referred to by none, and the sweep from the root meets every node. A tree is an arena that
passed these checks, together with the parent links found on the way.
-/

namespace StyleTree

/-- What keeps an arena from being a tree. -/
inductive Defect where
  /-- A node that does not exist is the root or a child. -/
  | unknownNode (node : NodeId)
  /-- A node is a child twice. -/
  | multipleParents (node : NodeId)
  /-- The root is a child. -/
  | rootHasParent (root : NodeId)
  /-- No path leads from the root to a node. -/
  | unreachable (node : NodeId)
  deriving DecidableEq, Repr

namespace Defect

def message : Defect → String
  | .unknownNode n => "Node " ++ NodeId.label n ++ " is referenced but was never created"
  | .multipleParents n => "Node " ++ NodeId.label n ++ " is a child of more than one parent"
  | .rootHasParent n => "Root node " ++ NodeId.label n ++ " is itself a child of another node"
  | .unreachable n => "Node " ++ NodeId.label n ++ " is not reachable from the root"

end Defect

/-- The parent of each node, as far as it is known. -/
abbrev ParentLinks := Array (Option NodeId)

namespace ParentLinks

/-- Note that `edge` leads from a parent to a child, unless the child is unknown or has a parent. -/
def link (links : ParentLinks) (edge : NodeId × NodeId) : Except Defect ParentLinks :=
  match links[edge.2]? with
  | none => .error (.unknownNode edge.2)
  | some (some _) => .error (.multipleParents edge.2)
  | some none => .ok (links.setIfInBounds edge.2 (some edge.1))

end ParentLinks

namespace Arena

/-- The parent of each node, or the first reference that is wrong. -/
def parentLinks (a : Arena) : Except Defect ParentLinks :=
  a.edges.foldlM ParentLinks.link (Array.replicate a.size none)

end Arena

/-- An arena that passed the checks for one root. -/
structure Tree where
  arena : Arena
  root : NodeId
  links : ParentLinks
  root_lt : root < arena.size
  links_eq : arena.parentLinks = .ok links
  root_free : links[root]? = some none
  all_reached : arena.firstUnreached? root = none

namespace Arena

/-- The tree with the given root, or the first defect of the arena. -/
def finish (a : Arena) (root : NodeId) : Except Defect Tree :=
  if root_lt : root < a.size then
    match links_eq : a.parentLinks with
    | .error defect => .error defect
    | .ok links =>
      if root_free : links[root]? = some none then
        match all_reached : a.firstUnreached? root with
        | some n => .error (.unreachable n)
        | none => .ok ⟨a, root, links, root_lt, links_eq, root_free, all_reached⟩
      else .error (.rootHasParent root)
  else .error (.unknownNode root)

/-- A tree that an arena gives holds that arena and the root that was asked for. -/
theorem eq_of_finish {a : Arena} {root : NodeId} {t : Tree} (h : a.finish root = .ok t) :
    t.arena = a ∧ t.root = root := by
  unfold finish at h
  split at h
  · split at h
    · cases h
    · split at h
      · split at h
        · cases h
        · cases h
          exact ⟨rfl, rfl⟩
      · cases h
  · cases h

end Arena

namespace Tree

def size (t : Tree) : Nat :=
  t.arena.size

def node? (t : Tree) (n : NodeId) : Option Node :=
  t.arena.node? n

/-- The nodes of a tree are those of the arena that it was made from. -/
theorem node?_of_finish {a : Arena} {root : NodeId} {t : Tree} (h : a.finish root = .ok t)
    (n : NodeId) : t.node? n = a.node? n := by
  rw [node?, (Arena.eq_of_finish h).1]

def has (t : Tree) (n : NodeId) : Bool :=
  (t.node? n).isSome

def kind? (t : Tree) (n : NodeId) : Option Kind :=
  (t.node? n).map Node.kind

def isKind (t : Tree) (n : NodeId) (kind : Kind) : Bool :=
  t.kind? n == some kind

def parent? (t : Tree) (n : NodeId) : Option NodeId :=
  t.links[n]?.join

def children (t : Tree) (n : NodeId) : List NodeId :=
  t.arena.children n

def child? (t : Tree) (n : NodeId) (i : Nat) : Option NodeId :=
  (t.children n)[i]?

-- What a node says of itself. An id that is no node is answered like a field that is not there.

def value? (t : Tree) (n : NodeId) : Option NodeId :=
  (t.node? n).bind Node.value?

def group? (t : Tree) (n : NodeId) : Option NodeId :=
  (t.node? n).bind Node.group?

def prop? (t : Tree) (n : NodeId) : Option String :=
  (t.node? n).bind Node.prop?

def name? (t : Tree) (n : NodeId) : Option String :=
  (t.node? n).bind Node.name?

def text? (t : Tree) (n : NodeId) : Option String :=
  (t.node? n).bind Node.text?

def selector? (t : Tree) (n : NodeId) : Option Selector :=
  (t.node? n).bind Node.selector?

def rawSelector? (t : Tree) (n : NodeId) : Option String :=
  (t.node? n).bind Node.rawSelector?

def rawParams? (t : Tree) (n : NodeId) : Option String :=
  (t.node? n).bind Node.rawParams?

def isGroup (t : Tree) (n : NodeId) : Bool :=
  (t.node? n).any Node.isGroup

/-- Every node, in depth-first pre-order from the root. -/
def walk (t : Tree) : List NodeId :=
  t.arena.walk t.root

/-- A tree is what its own arena and root give. -/
theorem finish_arena (t : Tree) : t.arena.finish t.root = .ok t := by
  unfold Arena.finish
  rw [dif_pos t.root_lt]
  split
  · rename_i defect fails
    rw [t.links_eq] at fails
    cases fails
  · rename_i links succeeds
    rw [t.links_eq] at succeeds
    cases succeeds
    rw [dif_pos t.root_free]
    split
    · rename_i n found
      rw [t.all_reached] at found
      cases found
    · rfl

end Tree

end StyleTree
