import StyleTree.Proofs.Finish
import StyleTree.Tree.Ancestors

/-!
# Parents, children and ancestors

A tree holds one relation twice, as links to parents and as lists of children. Both tell the same
(`parent?_eq_some`), and only the root is left without a parent (`parent?_eq_none`). A path of
references from the root, read backwards, is then a chain of parents, so going up ends, and it ends
at the root (`exists_ascends`). Because going up is a function of the node, a chain that came back
to a node would have to be shorter than itself (`Ascends.nodup`).
-/

namespace StyleTree

namespace Node

variable {x : Node} {m : NodeId}

/-- The value of a node is one of its children. -/
lemma mem_children_of_value? (h : x.value? = some m) : m ∈ x.children := by
  cases x <;> simp_all [value?, children]

/-- The group of a node is one of its children. -/
lemma mem_children_of_group? (h : x.group? = some m) : m ∈ x.children := by
  cases x <;> simp_all [group?, children]

end Node

namespace Tree

variable {t : Tree} {n m p c : NodeId} {ps qs : List NodeId}

/-- A tree has the ids below its size. -/
lemma has_iff : t.has n = true ↔ n < t.size := by
  unfold has node? size Arena.node? Arena.size
  simp

/-- A child has its parent as parent, and nothing else is a child. -/
lemma parent?_eq_some : t.parent? c = some p ↔ c ∈ t.children p := by
  rw [parent?, Option.join_eq_some_iff, Arena.parentLinks_eq_some t.links_eq, children]

/-- A parent is a node. -/
lemma lt_of_parent? (h : t.parent? c = some p) : p < t.size :=
  Arena.lt_of_mem_children (parent?_eq_some.mp h)

/-- The root has no parent. -/
lemma parent?_root (t : Tree) : t.parent? t.root = none := by
  cases h : t.parent? t.root with
  | none => rfl
  | some p => exact absurd (parent?_eq_some.mp h) t.branches.root_not_child

/-- Of the nodes, only the root has no parent. -/
lemma parent?_eq_none (lt : n < t.size) : t.parent? n = none ↔ n = t.root := by
  refine ⟨?_, ?_⟩
  · intro orphan
    cases t.isRooted.reaches n lt with
    | start => rfl
    | @child p _ _ child =>
      rw [parent?_eq_some.mpr child] at orphan
      cases orphan
  · intro at_root
    rw [at_root]
    exact t.parent?_root

/-- What is of a kind is a node of this kind. -/
lemma exists_of_isKind {kind : Kind} (isKind : t.isKind n kind) :
    ∃ x, t.node? n = some x ∧ x.kind = kind := by
  rw [Tree.isKind, beq_iff_eq] at isKind
  exact Option.map_eq_some_iff.mp isKind

/-- The children in a tree are those that the node names. -/
lemma children_eq {x : Node} (found : t.node? n = some x) : t.children n = x.children := by
  rw [children, Arena.children, show t.arena.node? n = some x from found]

/-- In a tree the value of a node is one of its children. -/
lemma mem_children_of_value? (h : t.value? n = some m) : m ∈ t.children n := by
  obtain ⟨x, found, value⟩ := Option.bind_eq_some_iff.mp h
  rw [children_eq found]
  exact Node.mem_children_of_value? value

/-- In a tree the group of a node is one of its children. -/
lemma mem_children_of_group? (h : t.group? n = some m) : m ∈ t.children n := by
  obtain ⟨x, found, group⟩ := Option.bind_eq_some_iff.mp h
  rw [children_eq found]
  exact Node.mem_children_of_group? group

/-- A child at some place is one of the children. -/
lemma mem_children_of_child? (h : ∃ i, t.child? n i = some m) : m ∈ t.children n := by
  obtain ⟨i, child⟩ := h
  exact List.mem_of_getElem? child

/-- A child stands at one place among the children of its parent. -/
lemma existsUnique_child? (h : c ∈ t.children p) : ∃! i, t.child? p i = some c := by
  obtain ⟨i, found⟩ := List.mem_iff_getElem?.mp h
  refine ⟨i, found, ?_⟩
  intro j other
  obtain ⟨lt, _⟩ := List.getElem?_eq_some_iff.mp other
  have nodup : (t.children p).Nodup := t.branches.children_nodup p
  exact (List.getElem?_inj lt nodup).mp (other.trans found.symm)

namespace Ascends

/-- There is one way up from a node. -/
lemma unique (up : t.Ascends n ps) (up' : t.Ascends n qs) : ps = qs := by
  induction up generalizing qs with
  | top orphan =>
    cases up' with
    | top => rfl
    | up parent _ =>
      rw [orphan] at parent
      cases parent
  | up parent _ ih =>
    cases up' with
    | top orphan =>
      rw [orphan] at parent
      cases parent
    | up parent' rest =>
      rw [parent] at parent'
      cases parent'
      rw [ih rest]

/-- The way up from a node above is shorter. -/
lemma shorter (up : t.Ascends n ps) (mem : m ∈ ps) :
    ∃ qs, t.Ascends m qs ∧ qs.length < ps.length := by
  induction up with
  | top => cases mem
  | @up n p ps _ rest ih =>
    rcases List.mem_cons.mp mem with rfl | above
    · exact ⟨ps, rest, Nat.lt_succ_self _⟩
    · obtain ⟨qs, up, lt⟩ := ih above
      exact ⟨qs, up, Nat.lt_succ_of_lt lt⟩

/-- The way up from a node does not come back to it. -/
lemma not_mem (up : t.Ascends n ps) : n ∉ ps := by
  intro mem
  -- the way up from its second visit would be the same, and shorter
  obtain ⟨qs, up', lt⟩ := up.shorter mem
  rw [up.unique up'] at lt
  exact Nat.lt_irrefl _ lt

/-- The way up passes no node twice. -/
lemma nodup (up : t.Ascends n ps) : ps.Nodup := by
  induction up with
  | top => exact List.nodup_nil
  | up _ rest ih => exact List.nodup_cons.mpr ⟨rest.not_mem, ih⟩

/-- The way up passes nodes only. -/
lemma lt_size (up : t.Ascends n ps) : ∀ m ∈ ps, m < t.size := by
  induction up with
  | top => simp
  | up parent _ ih => exact List.forall_mem_cons.mpr ⟨lt_of_parent? parent, ih⟩

/-- The way up takes no more steps than there are nodes. -/
lemma length_le (up : t.Ascends n ps) : ps.length ≤ t.size :=
  Arena.length_le_size up.nodup up.lt_size

/-- The way up from a node that has a parent ends at the root. -/
lemma getLast? (up : t.Ascends n ps) (lt : n < t.size) (ne : n ≠ t.root) :
    ps.getLast? = some t.root := by
  induction up with
  | top orphan => exact absurd ((parent?_eq_none lt).mp orphan) ne
  | @up n p ps parent rest ih =>
    have lt_p := lt_of_parent? parent
    by_cases at_root : p = t.root
    · -- the root is the last step, because it has no parent
      subst at_root
      obtain rfl := rest.unique (.top t.parent?_root)
      rfl
    · have last := ih lt_p at_root
      rw [List.getLast?_cons, last]
      rfl

/-- Climbing often enough finds the way up. -/
lemma climb_eq {bound : Nat} (up : t.Ascends n ps) (le : ps.length ≤ bound) :
    t.climb bound n = ps := by
  induction up generalizing bound with
  | top orphan =>
    cases bound with
    | zero => rfl
    | succ bound => simp [climb, orphan]
  | up parent _ ih =>
    cases bound with
    | zero => cases le
    | succ bound => simp [climb, parent, ih (Nat.le_of_succ_le_succ le)]

end Ascends

/-- A path of references from the root is a way up, read backwards. -/
lemma exists_ascends (path : t.arena.Reaches t.root n) : ∃ ps, t.Ascends n ps := by
  induction path with
  | start => exact ⟨[], .top t.parent?_root⟩
  | @child p c _ child ih =>
    obtain ⟨ps, up⟩ := ih
    exact ⟨p :: ps, .up (parent?_eq_some.mpr child) up⟩

/-- The ancestors of a node are the whole way up. -/
lemma ascends_ancestors (lt : n < t.size) : t.Ascends n (t.ancestors n) := by
  obtain ⟨ps, up⟩ := exists_ascends (t.isRooted.reaches n lt)
  rw [ancestors, up.climb_eq up.length_le]
  exact up

end Tree

/--
The tree that an arena gives holds the nodes of the arena. Its links are the inverse of its lists
of children, a child stands at one place, and every step down is undone by the step up. The root is
the one node without a parent, and from every other node the ancestors lead to it without
repetition.
-/
theorem Arena.finish_links {a : Arena} {root : NodeId} {t : Tree} (h : a.finish root = .ok t) :
    (t.size = a.nodes.size ∧ ∀ n, t.node? n = a.nodes[n]?) ∧
      (∀ p c, t.parent? c = some p ↔ c ∈ t.children p) ∧
      (∀ p c, c ∈ t.children p → ∃! i, t.child? p i = some c) ∧
      (∀ n m,
        (t.value? n = some m ∨ t.group? n = some m ∨ (∃ i, t.child? n i = some m) ∨
          m ∈ t.children n) →
        t.parent? m = some n) ∧
      (t.has root ∧ ∀ n, t.has n → (t.parent? n = none ↔ n = root)) ∧
      ∀ n, t.has n →
        t.Ascends n (t.ancestors n) ∧ (t.ancestors n).Nodup ∧ n ∉ t.ancestors n ∧
          (n ≠ root → (t.ancestors n).getLast? = some root) := by
  obtain ⟨rfl, rfl⟩ := eq_of_finish h
  refine ⟨⟨rfl, fun n => rfl⟩, fun p c => Tree.parent?_eq_some, fun p c => Tree.existsUnique_child?,
    ?_, ⟨Tree.has_iff.mpr t.root_lt, ?_⟩, ?_⟩
  · intro n m step
    apply Tree.parent?_eq_some.mpr
    rcases step with value | group | child | mem
    · exact Tree.mem_children_of_value? value
    · exact Tree.mem_children_of_group? group
    · exact Tree.mem_children_of_child? child
    · exact mem
  · intro n has
    exact Tree.parent?_eq_none (Tree.has_iff.mp has)
  · intro n has
    have lt := Tree.has_iff.mp has
    have up := Tree.ascends_ancestors lt
    exact ⟨up, up.nodup, up.not_mem, up.getLast? lt⟩

/-- A tree whose nodes come before their children, and its children out of order. -/
theorem Arena.finish_links_crossed :
    ∃ t, (Arena.mk #[.commaGroup [2, 1], .word "a" "", .valueValue (some 3), .colon]).finish 0 =
        .ok t ∧
      t.size = 4 ∧ t.parent? 3 = some 2 ∧ (∃! i, t.child? 0 i = some 1) ∧
      (t.ancestors 3).Nodup ∧ (t.ancestors 3).getLast? = some 0 := by
  obtain ⟨t, h⟩ : ∃ t,
      (Arena.mk #[.commaGroup [2, 1], .word "a" "", .valueValue (some 3), .colon]).finish 0 =
        .ok t := ⟨_, rfl⟩
  obtain ⟨⟨size, _⟩, parents, places, _, _, up⟩ := Arena.finish_links h
  obtain ⟨arena, _⟩ := eq_of_finish h
  have inner : 3 ∈ t.children 2 := by
    rw [Tree.children, arena]
    decide
  have outer : 1 ∈ t.children 0 := by
    rw [Tree.children, arena]
    decide
  have has : t.has 3 := by
    rw [Tree.has_iff, size]
    decide
  obtain ⟨_, nodup, _, last⟩ := up 3 has
  exact ⟨t, h, size, (parents 2 3).mpr inner, places 0 1 outer, nodup, last (by decide)⟩

end StyleTree
