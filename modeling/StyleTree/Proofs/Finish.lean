import StyleTree.Proofs.Linking
import StyleTree.Proofs.Search

/-!
# The arenas that are trees

The checks of `finish` are made one edge and one node at a time. Together they accept exactly the
arenas that are one rooted tree: linking finds the references that lead nowhere or are made twice,
the root's own link tells whether it is a child, and the sweep finds what no path leads to. A cycle
needs no check of its own. On it every node is the child of the one before, so a path from the root
could enter it only by a second reference.
-/

namespace StyleTree

namespace Tree

/-- The references of a tree branch from its root. -/
lemma branches (t : Tree) : t.arena.Branches t.root := by
  obtain ⟨lt, nodup⟩ := Arena.exists_parentLinks.mp ⟨t.links, t.links_eq⟩
  obtain ⟨_, free⟩ := (Arena.parentLinks_eq_none t.links_eq).mp t.root_free
  exact ⟨t.root_lt, lt, nodup, free⟩

/-- What passed the checks is one rooted tree. -/
lemma isRooted (t : Tree) : t.arena.IsRooted t.root :=
  ⟨t.branches, (Arena.firstUnreached?_eq_none t.branches).mp t.all_reached⟩

end Tree

namespace Arena

variable {a : Arena} {root : NodeId}

/-- An arena that is one tree is accepted. -/
lemma IsRooted.exists_finish (rooted : a.IsRooted root) : ∃ t, a.finish root = .ok t := by
  obtain ⟨links, links_eq⟩ :=
    exists_parentLinks.mpr ⟨rooted.references_lt, rooted.references_nodup⟩
  have root_free : links[root]? = some none :=
    (parentLinks_eq_none links_eq).mpr ⟨rooted.root_lt, rooted.root_free⟩
  have all_reached : a.firstUnreached? root = none :=
    (firstUnreached?_eq_none rooted.toBranches).mpr rooted.reaches
  let t : Tree := ⟨a, root, links, rooted.root_lt, links_eq, root_free, all_reached⟩
  exact ⟨t, t.finish_arena⟩

/-- An arena gives a tree exactly when it is one rooted tree, and a defect in all other cases. -/
theorem finish_accepts_iff (a : Arena) (root : NodeId) :
    ((∃ t, a.finish root = .ok t) ↔ a.IsRooted root) ∧
      ((∃ defect, a.finish root = .error defect) ↔ ¬ a.IsRooted root) := by
  have accepts : (∃ t, a.finish root = .ok t) ↔ a.IsRooted root := by
    refine ⟨?_, ?_⟩
    · intro h
      obtain ⟨t, h⟩ := h
      obtain ⟨rfl, rfl⟩ := eq_of_finish h
      exact t.isRooted
    · exact IsRooted.exists_finish
  refine ⟨accepts, ?_⟩
  rw [← accepts]
  cases a.finish root <;> simp

/-- Two nodes that are each other's child are never met, and the first of them is the defect. -/
example : (Arena.mk #[.commaGroup [1], .commaGroup [0], .root []]).finish 2 =
    .error (.unreachable 0) := rfl

end Arena

end StyleTree
