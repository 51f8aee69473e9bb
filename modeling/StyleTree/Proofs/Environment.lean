import StyleTree.Context.Environment
import StyleTree.Proofs.Ancestry

/-!
# The pass from the root

The questions of context search upwards, from a node through its ancestors. A pass from the root
down answers them without a search. The ancestors of a child are its parent and the ancestors of
the parent (`ancestors_child`), so each step down changes what is nearest at most to the node that
is left (`nearest?_child`). By induction along the path, the environment in which the pass meets a
node holds what the searches from the node find (`meets_iff`).
-/

namespace StyleTree

namespace Tree

variable {t : Tree} {n p c : NodeId} {i : Nat}

/-- The parent of a child is the node that it was looked up in. -/
lemma parent?_child (child : t.child? p i = some c) : t.parent? c = some p :=
  parent?_eq_some.mpr (List.mem_of_getElem? child)

/-- The root has no ancestors. -/
lemma ancestors_root (t : Tree) : t.ancestors t.root = [] :=
  (ascends_ancestors t.root_lt).unique (.top t.parent?_root)

/-- The ancestors of a child are its parent and the ancestors of its parent. -/
lemma ancestors_child (parent : t.parent? c = some p) : t.ancestors c = p :: t.ancestors p := by
  have lt_c : c < t.size := t.branches.child_lt (parent?_eq_some.mp parent)
  have lt_p : p < t.size := lt_of_parent? parent
  exact (ascends_ancestors lt_c).unique (.up parent (ascends_ancestors lt_p))

/-- The ancestor at depth zero is the parent. -/
lemma ancestor?_zero (lt : n < t.size) : t.ancestor? n 0 = t.parent? n := by
  cases parent : t.parent? n with
  | none =>
    obtain rfl := (parent?_eq_none lt).mp parent
    rw [ancestor?, ancestors_root, List.getElem?_nil]
  | some p => rw [ancestor?, ancestors_child parent, List.getElem?_cons_zero]

/-- The ancestor at depth one is the parent of the parent. -/
lemma ancestor?_one (parent : t.parent? c = some p) : t.ancestor? c 1 = t.parent? p := by
  rw [← ancestor?_zero (lt_of_parent? parent), ancestor?, ancestors_child parent,
    List.getElem?_cons_succ, ancestor?]

/-- Around the root there is no node of any kind. -/
lemma nearest?_root (t : Tree) (kinds : List Kind) : t.nearest? t.root kinds = none := by
  rw [nearest?, ancestors_root, List.find?_nil]

/-- What is nearest to a child is its parent, or what is nearest to the parent. -/
lemma nearest?_child (parent : t.parent? c = some p) (kind : Kind) :
    t.nearest? c [kind] = if t.isKind p kind then some p else t.nearest? p [kind] := by
  have test : t.hasKindIn [kind] p = t.isKind p kind := by
    rw [hasKindIn, List.any_cons, List.any_nil, Bool.or_false]
  rw [nearest?, ancestors_child parent, List.find?_cons, test]
  cases t.isKind p kind <;> rfl

/-- The root is nobody's last child. -/
lemma isLastSibling_root (t : Tree) : t.isLastSibling t.root t.root = false := by
  rw [isLastSibling, t.parent?_root]
  rfl

/-- A child is the last sibling when its place is the last one. -/
lemma isLastSibling_child (child : t.child? p i = some c) :
    t.isLastSibling c c = (i + 1 == (t.children p).length) := by
  obtain ⟨lt, found⟩ := List.getElem?_eq_some_iff.mp child
  have nodup : (t.children p).Nodup := t.branches.children_nodup p
  have last : (t.children p).getLast? = some c ↔ i + 1 = (t.children p).length := by
    rw [List.getLast?_eq_getElem?, ← show (t.children p)[i]? = some c from child]
    refine ⟨?_, ?_⟩
    · intro same
      have place := (List.getElem?_inj lt nodup).mp same.symm
      omega
    · intro full
      rw [← full, Nat.add_sub_cancel]
  rw [isLastSibling, parent?_child child, Option.any_some, Bool.eq_iff_iff, beq_iff_eq, beq_iff_eq]
  exact last

end Tree

namespace Environment

variable {t : Tree} {n p c : NodeId} {i : Nat} {env : Environment}

/-- What the searches from `n` upwards find. -/
def around (t : Tree) (n : NodeId) : Environment where
  parent := t.parent? n
  grandparent := t.ancestor? n 1
  declaration := t.nearest? n [.declaration]
  atRule := t.nearest? n [.atRule]
  rule := t.nearest? n [.rule]
  function := t.nearest? n [.function]
  isLast := t.isLastSibling n n

/-- The environment of the root is that in which nothing is around. -/
lemma around_root (t : Tree) : around t t.root = top := by
  have grandparent : t.ancestor? t.root 1 = none := by
    rw [Tree.ancestor?, t.ancestors_root, List.getElem?_nil]
  simp only [around, t.parent?_root, grandparent, t.nearest?_root, t.isLastSibling_root, top]

/-- A step down turns what the searches from a node find into what those from its child find. -/
lemma around_child (child : t.child? p i = some c) :
    around t c = (around t p).below t p (i + 1 == (t.children p).length) := by
  have parent := Tree.parent?_child child
  simp only [around, below, parent, Tree.ancestor?_one parent, Tree.nearest?_child parent,
    Tree.isLastSibling_child child]

/-- The pass meets each node in one environment, that of the searches from the node. -/
lemma meets_iff (lt : n < t.size) : t.Meets n env ↔ env = around t n := by
  refine ⟨?_, ?_⟩
  · intro meets
    induction meets with
    | root => exact (around_root t).symm
    | @child p c env i _ child ih =>
      rw [around_child child, ih (Arena.lt_of_mem_children (List.mem_of_getElem? child))]
  · rintro rfl
    have path := t.isRooted.reaches n lt
    induction path with
    | start =>
      rw [around_root]
      exact .root
    | @child p c _ child ih =>
      obtain ⟨i, place⟩ := List.mem_iff_getElem?.mp child
      rw [around_child (show t.child? p i = some c from place)]
      exact .child (ih (Arena.lt_of_mem_children child)) place

end Environment

/--
The pass from the root of a tree down meets every node in exactly one environment, and what the
environment and the node tell without a search is what each question of context finds.
-/
theorem Tree.context_eq_environment (t : Tree) {n : NodeId} (has : t.has n) :
    ∃ env, (∀ env', t.Meets n env' ↔ env' = env) ∧
      t.enclosingProperty? n = env.property? t ∧
      (∀ name, t.insideFunction n name = env.insideFunction t name) ∧
      (∀ name, t.insideAtRule n name = env.insideAtRule t name) ∧
      t.insideIcssBlock n = env.insideIcssBlock t ∧
      t.isImportUrl n = env.isImportUrl t n ∧
      (∀ word, t.isKeyframePosition n word = env.isKeyframePosition t word) ∧
      t.isMapEntry n = env.isMapEntry t n ∧
      t.isLastSibling n n = env.isLast := by
  -- each answer is read off the searches from the node, which the environment holds
  refine ⟨.around t n, ?_, rfl, ?_, ?_, rfl, rfl, ?_, rfl, rfl⟩
  · intro env'
    exact Environment.meets_iff (has_iff.mp has)
  · intro name
    rfl
  · intro name
    rfl
  · intro word
    rfl

/-- A declaration in the value of another, around a function in a function. -/
theorem Tree.context_eq_environment_shadowed :
    ∃ t, (Arena.mk #[.word "a" "", .function "g" [0], .function "f" [1],
          .assignment "b" 2, .assignment "$c" 3]).finish 4 = .ok t ∧
      t.has 0 ∧ ∃ env, t.Meets 0 env ∧ t.enclosingProperty? 0 = env.property? t ∧
        (∀ name, t.insideFunction 0 name = env.insideFunction t name) ∧
        t.isLastSibling 0 0 = env.isLast := by
  obtain ⟨t, h⟩ : ∃ t, (Arena.mk #[.word "a" "", .function "g" [0], .function "f" [1],
      .assignment "b" 2, .assignment "$c" 3]).finish 4 = .ok t := ⟨_, rfl⟩
  have has : t.has 0 := by
    rw [has, node?, (Arena.eq_of_finish h).1]
    rfl
  obtain ⟨env, meets, property, function, _, _, _, _, _, last⟩ := t.context_eq_environment has
  exact ⟨t, h, has, env, (meets env).mpr rfl, property, function, last⟩

end StyleTree
