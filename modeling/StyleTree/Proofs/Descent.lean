import Mathlib.Data.List.Chain
import StyleTree.Proofs.Navigation

/-!
# Descending from the root

A descent looks at the parent of the next node and never at a list of children. Both tell the same,
so it succeeds along the chains of children (`descendAlong?_eq_some`). Read backwards, such a chain
from the root is the way up from the node that it ends at (`ascends_iff_isChain`), and of that there
is only one. So one path leads to each node, and the ancestors of the node are what it passes. A run
of descents by handles ends where the descent along their ids does (`start_root_descend`).
-/

namespace StyleTree

namespace Tree

variable {t : Tree} {n m : NodeId} {ps path : List NodeId}

/-- A descent goes into a child and then on along the rest of the path. -/
lemma descendAlong?_cons {c : NodeId} :
    t.descendAlong? n (c :: path) = some m ↔
      c ∈ t.children n ∧ t.descendAlong? c path = some m := by
  rw [descendAlong?, List.foldlM_cons, Option.bind_eq_bind, Option.bind_eq_some_iff]
  simp only [descend?_eq_some, and_assoc, exists_eq_left, descendAlong?]

/-- A descent succeeds along a chain of children, and ends where the chain does. -/
lemma descendAlong?_eq_some :
    t.descendAlong? n path = some m ↔
      (n :: path).IsChain (fun p c => c ∈ t.children p) ∧ (n :: path).getLast? = some m := by
  induction path generalizing n with
  | nil => simp [descendAlong?]
  | cons c path ih =>
    rw [descendAlong?_cons, ih, List.isChain_cons_cons, List.getLast?_cons_cons, and_assoc]

/-- The way up from a node is a chain of children read backwards, and ends at the root. -/
lemma ascends_iff_isChain (lt : n < t.size) :
    t.Ascends n ps ↔
      (n :: ps).IsChain (fun c p => c ∈ t.children p) ∧ (n :: ps).getLast? = some t.root := by
  induction ps generalizing n with
  | nil =>
    rw [List.getLast?_singleton, Option.some_inj, ← parent?_eq_none lt]
    refine ⟨?_, fun h => .top h.2⟩
    intro up
    cases up with
    | top orphan => exact ⟨.singleton n, orphan⟩
  | cons p ps ih =>
    rw [List.isChain_cons_cons, List.getLast?_cons_cons, and_assoc, ← parent?_eq_some]
    refine ⟨?_, ?_⟩
    · intro up
      cases up with
      | up parent rest => exact ⟨parent, (ih (lt_of_parent? parent)).mp rest⟩
    · intro h
      obtain ⟨parent, chain⟩ := h
      exact .up parent ((ih (lt_of_parent? parent)).mpr chain)

/-- The path of a node, with the root in front, is its ancestors from the root down and the node. -/
lemma root_cons_pathTo (lt : n < t.size) :
    t.root :: t.pathTo n = (t.ancestors n).reverse ++ [n] := by
  obtain ⟨_, last⟩ := (ascends_iff_isChain lt).mp (ascends_ancestors lt)
  rw [← List.head?_reverse, List.reverse_cons] at last
  obtain ⟨path, split⟩ := List.head?_eq_some_iff.mp last
  rw [pathTo, split, List.tail_cons]

/-- One path leads from the root to a node. -/
lemma descendAlong?_root (lt : n < t.size) :
    t.descendAlong? t.root path = some n ↔ path = t.pathTo n := by
  have backwards : path = t.pathTo n ↔ (t.root :: path).reverse = n :: t.ancestors n := by
    rw [← List.cons_inj_right t.root, root_cons_pathTo lt, ← List.reverse_inj,
      List.reverse_append, List.reverse_reverse]
    rfl
  rw [backwards, descendAlong?_eq_some]
  refine ⟨?_, ?_⟩
  · intro h
    obtain ⟨chain, last⟩ := h
    -- read backwards, the path is a way up, and so it is the only one
    rw [← List.head?_reverse] at last
    obtain ⟨ps, split⟩ := List.head?_eq_some_iff.mp last
    have up : t.Ascends n ps := by
      rw [ascends_iff_isChain lt, ← split, List.isChain_reverse, List.getLast?_reverse]
      exact ⟨chain, rfl⟩
    rw [split, up.unique (ascends_ancestors lt)]
  · intro split
    obtain ⟨chain, _⟩ := (ascends_iff_isChain lt).mp (ascends_ancestors lt)
    rw [← split, List.isChain_reverse] at chain
    rw [← List.head?_reverse, split]
    exact ⟨chain, rfl⟩

/-- Steps from no node lead nowhere. -/
lemma targetsAlong_nil (steps : List Step) : t.targetsAlong steps [] = [] := by
  induction steps with
  | nil => rfl
  | cons step steps ih => exact ih

/-- Steps down a path lead to where a descent along it ends, and nowhere when it fails. -/
lemma targetsAlong_descend (n : NodeId) (path : List NodeId) :
    t.targetsAlong (path.map .descend) [n] = (t.descendAlong? n path).toList := by
  induction path generalizing n with
  | nil => rfl
  | cons c path ih =>
    have first : [n].flatMap (t.targets · (.descend c)) = (t.descend? n c).toList := by
      rw [List.flatMap_singleton, targets]
    rw [List.map_cons, targetsAlong, List.foldl_cons, first, ← targetsAlong, descendAlong?,
      List.foldlM_cons]
    cases t.descend? n c with
    | none => exact targetsAlong_nil _
    | some m => exact ih m

/-- A run of descents from the root ends where the descent along their ids does. -/
lemma start_root_descend (t : Tree) (path : List NodeId) :
    (t.start .root >>= t.navigate (path.map .descend)) =
      .ok (t.descendAlong? t.root path).toList := by
  rw [← targetsAlong_descend, ← navigate_eq _ (List.forall_mem_singleton.mpr t.root_lt)]
  rfl

/-- Steps that come after others go on from where these end. -/
lemma navigate_append {steps steps' : List Step} {ns : List NodeId} :
    t.navigate (steps ++ steps') ns = (t.navigate steps ns >>= t.navigate steps') := by
  induction steps generalizing ns with
  | nil => rfl
  | cons step steps ih => simp only [List.cons_append, navigate, ih, bind_assoc]

/-- The handle of a node is the node. -/
lemma start_get (lt : n < t.size) : t.start (.get n) = .ok [n] := by
  rw [start, if_pos (has_iff.mpr lt)]

end Tree

/--
A descent from the root succeeds exactly along the chains of children. To each node exactly one
path leads, which is its ancestors from the root down and the node itself, without the root. A run
of descents by handles ends where the descent along their ids does. So a cursor that came down the
path of a node and one that was put on the node at once are on that very node, and all further steps
from the two lead to the same handles.
-/
theorem Arena.finish_descents {a : Arena} {root : NodeId} {t : Tree} (h : a.finish root = .ok t) :
    (∀ path, (∃ n, t.descendAlong? root path = some n) ↔
        (root :: path).IsChain (fun p c => c ∈ a.children p)) ∧
      (∀ n < a.nodes.size, ∀ path, t.descendAlong? root path = some n ↔ path = t.pathTo n) ∧
      (∀ path, (t.start .root >>= t.navigate (path.map .descend)) =
        .ok (t.descendAlong? root path).toList) ∧
      ∀ n < a.nodes.size,
        (t.start .root >>= t.navigate ((t.pathTo n).map .descend)) = .ok [n] ∧
          t.start (.get n) = .ok [n] ∧ t.underCursor n = n ∧
          ∀ steps, (t.start .root >>= t.navigate ((t.pathTo n).map .descend ++ steps)) =
            (t.start (.get n) >>= t.navigate steps) := by
  obtain ⟨rfl, rfl⟩ := eq_of_finish h
  refine ⟨?_, ?_, t.start_root_descend, ?_⟩
  · intro path
    simp only [Tree.descendAlong?_eq_some, exists_and_left]
    exact and_iff_left ⟨_, List.getLast?_eq_some_getLast (List.cons_ne_nil _ _)⟩
  · intro n lt path
    exact Tree.descendAlong?_root lt
  · intro n lt
    have ends : t.descendAlong? t.root (t.pathTo n) = some n :=
      (Tree.descendAlong?_root lt).mpr rfl
    have down : (t.start .root >>= t.navigate ((t.pathTo n).map .descend)) = .ok [n] := by
      rw [t.start_root_descend, ends, Option.toList_some]
    refine ⟨down, Tree.start_get lt, Tree.underCursor_eq lt, ?_⟩
    intro steps
    have further : (t.start .root >>= t.navigate ((t.pathTo n).map .descend ++ steps)) =
        ((t.start .root >>= t.navigate ((t.pathTo n).map .descend)) >>= t.navigate steps) := by
      rw [bind_assoc]
      exact Tree.navigate_append
    rw [further, down, Tree.start_get lt]

/-- A grandchild of the root is reached by way of its parent, and not at once. -/
theorem Arena.finish_descents_crossed :
    ∃ t, (Arena.mk #[.commaGroup [2, 1], .word "a" "", .valueValue (some 3), .colon]).finish 0 =
        .ok t ∧
      (¬ ∃ n, t.descendAlong? 0 [3] = some n) ∧ t.pathTo 3 = [2, 3] ∧
      (t.start .root >>= t.navigate [.descend 2, .descend 3]) = .ok [3] ∧
      (t.start .root >>= t.navigate [.descend 2, .descend 3, .parent]) =
        (t.start (.get 3) >>= t.navigate [.parent]) := by
  obtain ⟨t, h⟩ : ∃ t,
      (Arena.mk #[.commaGroup [2, 1], .word "a" "", .valueValue (some 3), .colon]).finish 0 =
        .ok t := ⟨_, rfl⟩
  obtain ⟨chains, paths, _, placed⟩ := Arena.finish_descents h
  have descent : t.descendAlong? 0 [2, 3] = some 3 := by
    simp only [Tree.descendAlong?_eq_some, Tree.children, (eq_of_finish h).1]
    decide
  have path : [2, 3] = t.pathTo 3 := (paths 3 (by decide) [2, 3]).mp descent
  obtain ⟨ends, _, _, answers⟩ := placed 3 (by decide)
  have further := answers [.parent]
  rw [← path] at ends further
  exact ⟨t, h, (chains [3]).not.mpr (by decide), path.symm, ends, further⟩

end StyleTree
