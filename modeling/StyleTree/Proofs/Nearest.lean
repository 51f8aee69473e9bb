import Mathlib.Order.Bounds.Basic
import StyleTree.Proofs.Navigation

/-!
# The nearest ancestor

Three searches go up from a node: for the ancestor at a depth, for the nearest one of some kinds,
and for the depth of that one. All of them pass the same ancestors in the same order. The ancestors
of an ancestor are those that come after it (`Ascends.drop`), so depths add up
(`ancestor?_ancestor?`), and each ancestor is the parent of the one before (`ancestor?_succ`). The
depth of the nearest ancestor is the least at which the kind is right (`nearestDepth?_eq_some`). Of
two lists of kinds together it is the smaller of two depths (`findIdx?_hasKindIn_append`), and the
order of a list does not matter (`hasKindIn_congr`).
-/

namespace StyleTree

namespace Tree

variable {t : Tree} {n p : NodeId} {depth : Nat} {kinds ks ls : List Kind} {ns ps : List NodeId}

/-- The way up from an ancestor is the rest of the way up. -/
lemma Ascends.drop (up : t.Ascends n ps) (above : ps[depth]? = some p) :
    t.Ascends p (ps.drop (depth + 1)) := by
  induction up generalizing depth with
  | top =>
    rw [List.getElem?_nil] at above
    cases above
  | @up n q ps _ rest ih =>
    cases depth with
    | zero =>
      rw [List.getElem?_cons_zero] at above
      cases above
      exact rest
    | succ depth =>
      rw [List.getElem?_cons_succ] at above
      exact ih above

/-- Depths add up. -/
lemma ancestor?_ancestor? (lt : n < t.size) (above : t.ancestor? n depth = some p) (further : Nat) :
    t.ancestor? p further = t.ancestor? n (depth + 1 + further) := by
  have lt_p : p < t.size := ancestors_lt lt p (List.mem_of_getElem? above)
  have rest := (ascends_ancestors lt).drop above
  rw [ancestor?, ancestor?, (ascends_ancestors lt_p).unique rest, List.getElem?_drop]

/-- Each ancestor is the parent of the one before. -/
lemma ancestor?_succ (lt : n < t.size) (depth : Nat) :
    t.ancestor? n (depth + 1) = (t.ancestor? n depth).bind t.parent? := by
  cases above : t.ancestor? n depth with
  | none =>
    have ends : (t.ancestors n).length ≤ depth := List.getElem?_eq_none_iff.mp above
    exact List.getElem?_eq_none_iff.mpr (Nat.le_succ_of_le ends)
  | some p =>
    have lt_p : p < t.size := ancestors_lt lt p (List.mem_of_getElem? above)
    rw [Option.bind_some, ← ancestor?_zero lt_p, ancestor?_ancestor? lt above]

/-- The depth of the nearest ancestor is the least at which an ancestor is of the right kind. -/
lemma nearestDepth?_eq_some :
    t.nearestDepth? n kinds = some depth ↔
      IsLeast {d | ∃ p, t.ancestor? n d = some p ∧ t.arena.HasKindIn kinds p} depth := by
  rw [nearestDepth?, List.findIdx?_eq_some_iff_getElem]
  refine ⟨?_, ?_⟩
  · intro h
    obtain ⟨lt, kind, first⟩ := h
    refine ⟨⟨_, List.getElem?_eq_getElem lt, hasKindIn_iff.mp kind⟩, ?_⟩
    intro d other
    obtain ⟨p, above, kind'⟩ := other
    obtain ⟨lt', rfl⟩ := List.getElem?_eq_some_iff.mp above
    by_contra nearer
    exact first d (Nat.lt_of_not_le nearer) (hasKindIn_iff.mpr kind')
  · intro h
    obtain ⟨⟨p, above, kind⟩, least⟩ := h
    obtain ⟨lt, rfl⟩ := List.getElem?_eq_some_iff.mp above
    refine ⟨lt, hasKindIn_iff.mpr kind, ?_⟩
    intro d nearer kind'
    have le := least ⟨_, List.getElem?_eq_getElem (Nat.lt_trans nearer lt), hasKindIn_iff.mp kind'⟩
    exact Nat.not_lt_of_le le nearer

/-- The first node of either of two lists of kinds comes where the first of one of them does. -/
lemma findIdx?_hasKindIn_append :
    ns.findIdx? (t.hasKindIn (ks ++ ls)) =
      (ns.findIdx? (t.hasKindIn ks)).merge min (ns.findIdx? (t.hasKindIn ls)) := by
  induction ns with
  | nil => rfl
  | cons n ns ih =>
    have either : t.hasKindIn (ks ++ ls) n = (t.hasKindIn ks n || t.hasKindIn ls n) :=
      List.any_append
    rw [List.findIdx?_cons, List.findIdx?_cons, List.findIdx?_cons, ih, either]
    cases t.hasKindIn ks n with
    | true => cases t.hasKindIn ls n <;> cases ns.findIdx? (t.hasKindIn ls) <;> simp
    | false =>
      cases t.hasKindIn ls n with
      | true => cases ns.findIdx? (t.hasKindIn ks) <;> simp
      | false =>
        cases ns.findIdx? (t.hasKindIn ks) <;> cases ns.findIdx? (t.hasKindIn ls) <;> simp

/-- The order of the kinds does not matter, nor does it matter whether one is repeated. -/
lemma hasKindIn_congr (same : ∀ kind, kind ∈ ks ↔ kind ∈ ls) :
    t.hasKindIn ks = t.hasKindIn ls := by
  funext n
  rw [Bool.eq_iff_iff, hasKindIn_iff, hasKindIn_iff]
  simp only [Arena.HasKindIn, same]

end Tree

/--
The searches upwards from a node agree. The ancestors are passed one parent after the other and come
to an end, and no ancestor has a depth from their number on. The nearest ancestor of some kinds is
the one at the depth that is found, which is the least depth with an ancestor of these kinds. Of two
lists of kinds together this depth is the smaller of the two, and lists of the same kinds have the
same. From an ancestor on, depths count on from its own.
-/
theorem Arena.finish_searches {a : Arena} {root : NodeId} {t : Tree} (h : a.finish root = .ok t)
    {n : NodeId} (lt : n < a.nodes.size) (ks ls : List Kind) :
    (t.ancestor? n 0 = t.parent? n ∧
        ∀ d, t.ancestor? n (d + 1) = (t.ancestor? n d).bind t.parent?) ∧
      (t.Ascends n (t.ancestors n) ∧
        ∀ d, t.ancestor? n d = none ↔ (t.ancestors n).length ≤ d) ∧
      (t.nearest? n ks = (t.nearestDepth? n ks).bind (t.ancestor? n) ∧
        (t.nearest? n ks = none ↔ t.nearestDepth? n ks = none)) ∧
      (∀ d, t.nearestDepth? n ks = some d ↔
        IsLeast {e | ∃ p, t.ancestor? n e = some p ∧ a.HasKindIn ks p} d) ∧
      t.nearestDepth? n (ks ++ ls) = (t.nearestDepth? n ks).merge min (t.nearestDepth? n ls) ∧
      ((∀ kind, kind ∈ ks ↔ kind ∈ ls) → t.nearestDepth? n ks = t.nearestDepth? n ls) ∧
      ∀ d p, t.ancestor? n d = some p → ∀ e, t.ancestor? p e = t.ancestor? n (d + 1 + e) := by
  obtain ⟨rfl, rfl⟩ := eq_of_finish h
  refine ⟨⟨Tree.ancestor?_zero lt, Tree.ancestor?_succ lt⟩, ⟨Tree.ascends_ancestors lt, ?_⟩,
    ⟨?_, ?_⟩, ?_, ?_, ?_, ?_⟩
  · intro d
    exact List.getElem?_eq_none_iff
  · exact List.find?_eq_bind_findIdx?_getElem?
  · rw [Tree.nearest?, Tree.nearestDepth?, List.find?_eq_none, List.findIdx?_eq_none_iff]
    simp only [Bool.not_eq_true]
  · intro d
    exact Tree.nearestDepth?_eq_some
  · exact Tree.findIdx?_hasKindIn_append
  · intro same
    rw [Tree.nearestDepth?, Tree.nearestDepth?, Tree.hasKindIn_congr same]
  · intro d p above e
    exact Tree.ancestor?_ancestor? lt above e

/-- The nearest group or value around a colon is the value that it is in, in whatever order. -/
theorem Arena.finish_searches_crossed :
    ∃ t, (Arena.mk #[.commaGroup [2, 1], .word "a" "", .valueValue (some 3), .colon]).finish 0 =
        .ok t ∧
      3 < 4 ∧ t.nearestDepth? 3 [.commaGroup, .valueValue] = some 0 ∧
      t.nearest? 3 [.commaGroup, .valueValue] = some 2 ∧
      t.nearestDepth? 3 [.valueValue, .commaGroup, .valueValue] = some 0 ∧
      t.ancestor? 3 0 = some 2 ∧ t.ancestor? 2 0 = t.ancestor? 3 1 := by
  obtain ⟨t, h⟩ : ∃ t,
      (Arena.mk #[.commaGroup [2, 1], .word "a" "", .valueValue (some 3), .colon]).finish 0 =
        .ok t := ⟨_, rfl⟩
  have lt : 3 < 4 := by decide
  obtain ⟨⟨first, _⟩, _, ⟨nearest, _⟩, least, _, congr, add⟩ :=
    Arena.finish_searches h lt [.commaGroup, .valueValue] [.valueValue, .commaGroup, .valueValue]
  have child : 3 ∈ t.children 2 := by
    rw [Tree.children, (eq_of_finish h).1]
    decide
  have above : t.ancestor? 3 0 = some 2 := first.trans (Tree.parent?_eq_some.mpr child)
  have depth : t.nearestDepth? 3 [.commaGroup, .valueValue] = some 0 := by
    refine (least 0).mpr ⟨⟨2, above, _, rfl, by decide⟩, ?_⟩
    intro d _
    exact Nat.zero_le d
  have same : ∀ kind : Kind,
      kind ∈ [.commaGroup, .valueValue] ↔ kind ∈ [.valueValue, .commaGroup, .valueValue] := by
    intro kind
    cases kind <;> decide
  refine ⟨t, h, lt, depth, ?_, (congr same).symm.trans depth, above, add 0 2 above 0⟩
  rw [nearest, depth]
  exact above

end StyleTree
