import Mathlib.Data.List.Nodup
import Mathlib.Data.List.Perm.Subperm
import StyleTree.Tree.Rooted

/-!
# Searching an arena without marks

The search from the root keeps a stack and looks at no mark before it visits a node, so on an
arbitrary arena it could go on for ever. It does not when no reference is made twice and none leads
to the root: then the nodes that were visited and those on the stack are all different
(`Frontier.visit`), the stack is empty after as many visits as there are nodes (`visit_left`), and
the visited nodes are those that a path from the root leads to (`mem_visit`). Cycles away from the
root do no harm, because the search never comes near them.
-/

namespace StyleTree.Arena

variable {a : Arena} {root : NodeId} {seen stack : List NodeId}

/-- Different nodes of an arena are no more than its nodes. -/
lemma length_le_size {ns : List NodeId} (nodup : ns.Nodup) (lt : ∀ n ∈ ns, n < a.size) :
    ns.length ≤ a.size := by
  have sub : ns ⊆ List.range a.size := fun n mem => List.mem_range.mpr (lt n mem)
  simpa using (nodup.subperm sub).length_le

/-- What has children is a node. -/
lemma lt_of_mem_children {p c : NodeId} (child : c ∈ a.children p) : p < a.size := by
  unfold children at child
  cases found : a.node? p with
  | none => simp [found] at child
  | some x => exact node?_eq_some_lt found

namespace Branches

/-- A node is a child of one node only. -/
lemma parent_unique (br : a.Branches root) {p q c : NodeId}
    (cp : c ∈ a.children p) (cq : c ∈ a.children q) : p = q := by
  have nodup : (a.edges.map Prod.snd).Nodup := by
    rw [map_snd_edges]
    exact br.references_nodup
  have same := List.inj_on_of_nodup_map nodup (mem_edges.mpr cp) (mem_edges.mpr cq) rfl
  exact congrArg Prod.fst same

/-- A node has no child twice. -/
lemma children_nodup (br : a.Branches root) (p : NodeId) : (a.children p).Nodup := by
  unfold children
  cases found : a.node? p with
  | none => exact List.nodup_nil
  | some x =>
    have mem : x ∈ a.nodes.toList := Array.mem_toList_iff.mpr (Array.mem_of_getElem? found)
    exact (List.nodup_flatMap.mp br.references_nodup).1 x mem

/-- In an arena of one root children are nodes. -/
lemma child_lt (br : a.Branches root) {p c : NodeId} (child : c ∈ a.children p) : c < a.size :=
  br.references_lt c (mem_references.mpr ⟨p, child⟩)

/-- In an arena of one root the root is no child. -/
lemma root_not_child (br : a.Branches root) {p : NodeId} : root ∉ a.children p :=
  fun child => br.root_free (mem_references.mpr ⟨p, child⟩)

end Branches

/--
Where a search stands: no node was seen or is on the stack twice, these nodes are the root and the
children of the nodes seen, and a path from the root leads to each.
-/
structure Frontier (a : Arena) (root : NodeId) (seen stack : List NodeId) : Prop where
  nodup : (seen ++ stack).Nodup
  mem_iff : ∀ n, n ∈ seen ++ stack ↔ n = root ∨ ∃ p ∈ seen, n ∈ a.children p
  reaches : ∀ n ∈ seen ++ stack, a.Reaches root n

namespace Frontier

/-- Before the first visit the root is on the stack, and nothing was seen. -/
lemma start : a.Frontier root [] [root] where
  nodup := List.nodup_singleton root
  mem_iff := by simp
  reaches := by
    intro n mem
    obtain rfl : n = root := by simpa using mem
    exact .start

/-- The children of the node on top of the stack are new. -/
lemma fresh {n c : NodeId} (br : a.Branches root) (fr : a.Frontier root seen (n :: stack))
    (child : c ∈ a.children n) : c ∉ seen ++ n :: stack := by
  intro old
  rcases (fr.mem_iff c).mp old with rfl | ⟨p, visited, other⟩
  · exact br.root_not_child child
  · -- only the node on top can have put its child there, and it was not visited before
    obtain rfl := br.parent_unique other child
    have disjoint := List.nodup_append.mp fr.nodup
    exact disjoint.2.2 p visited p (List.mem_cons_self ..) rfl

/-- Visiting the node on top of the stack keeps the frontier, in whatever order its children go. -/
lemma step {n : NodeId} {cs : List NodeId} (br : a.Branches root)
    (perm : cs.Perm (a.children n)) (fr : a.Frontier root seen (n :: stack)) :
    a.Frontier root (n :: seen) (cs ++ stack) := by
  -- up to order, the children are all that is new
  have moved : (n :: seen ++ (cs ++ stack)).Perm (cs ++ (seen ++ n :: stack)) := by
    have front : (n :: seen ++ (cs ++ stack)).Perm (cs ++ (n :: seen ++ stack)) := by
      rw [← List.append_assoc, ← List.append_assoc]
      exact List.perm_append_comm.append_right stack
    exact front.trans (List.perm_middle.symm.append_left cs)
  refine ⟨?_, ?_, ?_⟩
  · rw [moved.nodup_iff, List.nodup_append']
    refine ⟨perm.nodup_iff.mpr (br.children_nodup n), fr.nodup, ?_⟩
    intro c mem
    exact fr.fresh br (perm.mem_iff.mp mem)
  · intro m
    rw [moved.mem_iff, List.mem_append, fr.mem_iff, perm.mem_iff]
    simp only [List.exists_mem_cons_iff]
    tauto
  · intro m mem
    rcases List.mem_append.mp (moved.mem_iff.mp mem) with child | old
    · have top : a.Reaches root n := fr.reaches n (by simp)
      exact .child top (perm.mem_iff.mp child)
    · exact fr.reaches m old

/-- Visits keep what was seen and what is on the stack apart, and complete. -/
lemma visit {after : NodeId → List NodeId} (br : a.Branches root)
    (perm : ∀ n, (after n).Perm (a.children n)) (fr : a.Frontier root seen stack) (bound : Nat) :
    a.Frontier root ((visit after bound stack).1.reverse ++ seen) (visit after bound stack).2 := by
  induction bound generalizing seen stack with
  | zero => exact fr
  | succ bound ih =>
    cases stack with
    | nil => exact fr
    | cons n stack =>
      have rest := ih (fr.step br (perm n))
      simpa [Arena.visit] using rest

/-- A search comes near nodes of the arena only. -/
lemma lt_size (br : a.Branches root) (fr : a.Frontier root seen stack) :
    ∀ n ∈ seen ++ stack, n < a.size := by
  intro n mem
  rcases (fr.mem_iff n).mp mem with rfl | ⟨p, _, child⟩
  · exact br.root_lt
  · exact br.child_lt child

/-- There are no more nodes seen and on the stack than there are nodes. -/
lemma length_le (br : a.Branches root) (fr : a.Frontier root seen stack) :
    seen.length + stack.length ≤ a.size := by
  simpa using length_le_size fr.nodup (fr.lt_size br)

/-- When the stack is empty, all that a path from the root leads to was seen. -/
lemma mem_of_reaches {n : NodeId} (fr : a.Frontier root seen []) (path : a.Reaches root n) :
    n ∈ seen := by
  have mem_iff : ∀ n, n ∈ seen ↔ n = root ∨ ∃ p ∈ seen, n ∈ a.children p := by
    simpa using fr.mem_iff
  induction path with
  | start => exact (mem_iff root).mpr (.inl rfl)
  | @child p c _ child ih => exact (mem_iff c).mpr (.inr ⟨p, ih, child⟩)

end Frontier

/-- A search stops early only because its stack is empty. -/
lemma visit_left_or_length (after : NodeId → List NodeId) (bound : Nat) (stack : List NodeId) :
    (visit after bound stack).2 = [] ∨ (visit after bound stack).1.length = bound := by
  induction bound generalizing stack with
  | zero => exact .inr rfl
  | succ bound ih =>
    cases stack with
    | nil => exact .inl rfl
    | cons n stack => simpa [visit] using ih (after n ++ stack)

section Exhausted

variable {after : NodeId → List NodeId} (br : a.Branches root)
  (perm : ∀ n, (after n).Perm (a.children n))

include br perm

/-- A search from the root leaves no node on its stack. -/
lemma visit_left : (visit after a.size [root]).2 = [] := by
  have fr := Frontier.start.visit br perm a.size
  have le := fr.length_le br
  rcases visit_left_or_length after a.size [root] with empty | full
  · exact empty
  · -- with every node visited there is none left for the stack
    simp only [List.append_nil, List.length_reverse, full] at le
    exact List.eq_nil_of_length_eq_zero (by omega)

/-- A search from the root visits what a path leads to, and nothing else. -/
lemma mem_visit {n : NodeId} : n ∈ (visit after a.size [root]).1 ↔ a.Reaches root n := by
  have fr := Frontier.start.visit br perm a.size
  rw [visit_left br perm, List.append_nil] at fr
  refine ⟨?_, ?_⟩
  · intro mem
    exact fr.reaches n (by simpa using mem)
  · intro path
    simpa using fr.mem_of_reaches path

end Exhausted

/-- The marks after a search are those before it and the nodes that it visited. -/
lemma getElem?_mark {ns : List NodeId} {marks : Array Bool} {n : NodeId} :
    (ns.foldl (fun marks n => marks.setIfInBounds n true) marks)[n]? = some true ↔
      marks[n]? = some true ∨ n < marks.size ∧ n ∈ ns := by
  induction ns generalizing marks with
  | nil => simp
  | cons m ns ih =>
    rw [List.foldl_cons, ih, Array.getElem?_setIfInBounds, Array.size_setIfInBounds, List.mem_cons]
    by_cases same : m = n
    · subst same
      by_cases lt : m < marks.size <;> simp [lt]
    · simp [same, Ne.symm same]

/-- A search sets marks, and adds none. -/
lemma size_mark {ns : List NodeId} {marks : Array Bool} :
    (ns.foldl (fun marks n => marks.setIfInBounds n true) marks).size = marks.size := by
  induction ns generalizing marks with
  | nil => rfl
  | cons n ns ih => rw [List.foldl_cons, ih, Array.size_setIfInBounds]

/-- A node is marked exactly when it exists and the sweep meets it. -/
lemma reached_iff {n : NodeId} :
    (a.reached root)[n]? = some true ↔ n < a.size ∧ n ∈ a.sweep root := by
  rw [reached, getElem?_mark]
  simp [Array.getElem?_replicate]

/-- There are as many marks as there are nodes. -/
lemma size_reached (a : Arena) (root : NodeId) : (a.reached root).size = a.size := by
  rw [reached, size_mark, Array.size_replicate]

/-- The mark of a node tells whether a path leads to it. -/
lemma getElem_reached {n : NodeId} (br : a.Branches root)
    (lt : n < (a.reached root).toList.length) :
    (a.reached root).toList[n] = true ↔ a.Reaches root n := by
  have perm (n : NodeId) : (a.backwards n).Perm (a.children n) := List.reverse_perm _
  have lt' : n < (a.reached root).size := lt
  have mark : (a.reached root)[n]? = some true ↔ n < a.size ∧ n ∈ a.sweep root := reached_iff
  rw [Array.getElem?_eq_getElem lt', Option.some.injEq, ← a.size_reached root,
    and_iff_right lt'] at mark
  rw [Array.getElem_toList, mark]
  exact mem_visit br perm

/-- The sweep finds nothing missing exactly when a path leads from the root to every node. -/
lemma firstUnreached?_eq_none (br : a.Branches root) :
    a.firstUnreached? root = none ↔ ∀ n < a.size, a.Reaches root n := by
  have length : (a.reached root).toList.length = a.size := a.size_reached root
  rw [firstUnreached?, List.findIdx?_eq_none_iff, List.forall_mem_iff_forall_getElem]
  refine ⟨?_, ?_⟩
  · intro marked n lt
    have lt' : n < (a.reached root).toList.length := length ▸ lt
    apply (getElem_reached br lt').mp
    simpa using marked n lt'
  · intro paths n lt
    rw [(getElem_reached br lt).mpr (paths n (length ▸ lt))]
    rfl

/-- What the sweep finds missing is the first node that no path from the root leads to. -/
lemma firstUnreached?_eq_some {n : NodeId} (br : a.Branches root) :
    a.firstUnreached? root = some n ↔
      n < a.size ∧ ¬ a.Reaches root n ∧ ∀ m < n, a.Reaches root m := by
  have length : (a.reached root).toList.length = a.size := a.size_reached root
  rw [firstUnreached?, List.findIdx?_eq_some_iff_getElem]
  refine ⟨?_, ?_⟩
  · rintro ⟨lt, unmarked, first⟩
    refine ⟨length ▸ lt, ?_, ?_⟩
    · intro path
      rw [(getElem_reached br lt).mpr path] at unmarked
      cases unmarked
    · intro m lt_m
      apply (getElem_reached br (Nat.lt_trans lt_m lt)).mp
      simpa using first m lt_m
  · rintro ⟨lt, unreached, reached⟩
    refine ⟨length ▸ lt, ?_, ?_⟩
    · rw [Bool.not_eq_true', Bool.eq_false_iff, Ne, getElem_reached br]
      exact unreached
    · intro m lt_m
      rw [(getElem_reached br _).mpr (reached m lt_m)]
      exact Bool.false_ne_true

end StyleTree.Arena
