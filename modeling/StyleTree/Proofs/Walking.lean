import StyleTree.Proofs.Ancestry
import StyleTree.Proofs.Unfolding

/-!
# The walk

The walk keeps no marks and no parents, only a stack. Whatever a search has visited when its stack
runs empty is the pre-order of nested trees that stood on the stack at the start
(`exists_roses_of_visit`), by induction on the number of visits: the children of the node on top are
on the stack when it is visited, so their nested trees come back as the first ones and make one tree
with it. On a tree the stack does run empty, so the walk is the pre-order of one nested tree, and
what stands before what in it is read off that tree.
-/

namespace StyleTree

namespace Rose

variable {a : Arena} {r : Rose NodeId} {rs : List (Rose NodeId)} {n m : NodeId}

/-- At each node of a nested tree stands a nested tree of its own. -/
lemma Follows.exists_subtree (fr : r.Follows a) (mem : n ∈ r.preorder) :
    ∃ s, a.Unfolds n s ∧ s.preorder.Sublist r.preorder := by
  induction r using Rose.rec
    (motive_2 := fun rs => FollowAll a rs → n ∈ preorderAll rs →
      ∃ s, a.Unfolds n s ∧ s.preorder.Sublist (preorderAll rs)) with
  | node top rs ih =>
    rcases List.mem_cons.mp mem with rfl | below
    · exact ⟨.node n rs, ⟨rfl, fr⟩, List.Sublist.refl _⟩
    · obtain ⟨s, unfolds, sub⟩ := ih fr.2 below
      exact ⟨s, unfolds, sub.cons top⟩
  | nil =>
    rename_i mem
    cases mem
  | cons r rs ih ihs =>
    rename_i frs mem
    rcases List.mem_append.mp mem with first | other
    · obtain ⟨s, unfolds, sub⟩ := ih frs.1 first
      exact ⟨s, unfolds, sub.trans (List.sublist_append_left _ _)⟩
    · obtain ⟨s, unfolds, sub⟩ := ihs frs.2 other
      exact ⟨s, unfolds, sub.trans (List.sublist_append_right _ _)⟩

/-- The nodes of a nested tree are those that a path from its top leads to. -/
lemma Follows.mem_preorder (fr : r.Follows a) : n ∈ r.preorder ↔ a.Reaches r.label n := by
  refine ⟨fr.reaches .start n, ?_⟩
  intro path
  -- each node on the path is the top of a subtree, in which its children come next
  induction path with
  | start =>
    obtain ⟨top, rs⟩ := r
    exact List.mem_cons_self
  | @child p c _ child ih =>
    obtain ⟨⟨_, rs⟩, ⟨rfl, children, _⟩, sub⟩ := fr.exists_subtree ih
    rw [label, children] at child
    obtain ⟨s, mem, rfl⟩ := List.mem_map.mp child
    refine sub.subset (List.mem_cons_of_mem _ ?_)
    rw [preorderAll_eq_flatMap]
    obtain ⟨top, ss⟩ := s
    exact List.mem_flatMap.mpr ⟨_, mem, List.mem_cons_self⟩

/-- Several trees follow the arena when each does. -/
lemma followAll_iff : FollowAll a rs ↔ ∀ r ∈ rs, r.Follows a := by
  induction rs with
  | nil => simp [FollowAll]
  | cons r rs ih => simp [FollowAll, ih]

/-- The nodes of one of several nested trees come before those of a later one. -/
lemma sublist_preorderAll {i j : Nat} {s : Rose NodeId} (lt : i < j) (first : rs[i]? = some r)
    (second : rs[j]? = some s) (mem : n ∈ r.preorder) (mem' : m ∈ s.preorder) :
    [n, m].Sublist (preorderAll rs) := by
  induction rs generalizing i j with
  | nil => cases first
  | cons top rs ih =>
    obtain ⟨j, rfl⟩ : ∃ k, j = k + 1 := Nat.exists_eq_add_one.mpr (Nat.zero_lt_of_lt lt)
    rw [List.getElem?_cons_succ] at second
    cases i with
    | zero =>
      obtain rfl : top = r := by simpa using first
      have later : m ∈ preorderAll rs := by
        rw [preorderAll_eq_flatMap]
        exact List.mem_flatMap.mpr ⟨s, List.mem_of_getElem? second, mem'⟩
      exact (List.singleton_sublist.mpr mem).append (List.singleton_sublist.mpr later)
    | succ i =>
      rw [List.getElem?_cons_succ] at first
      have rest : [n, m].Sublist (preorderAll rs) := ih (Nat.lt_of_succ_lt_succ lt) first second
      exact rest.trans (List.sublist_append_right _ _)

end Rose

namespace Arena

variable {a : Arena}

/-- What a search visits until its stack is empty are the nested trees of the nodes on the stack. -/
lemma exists_roses_of_visit {bound : Nat} {stack : List NodeId}
    (done : (visit a.children bound stack).2 = []) :
    ∃ rs, rs.map Rose.label = stack ∧ Rose.FollowAll a rs ∧
      (visit a.children bound stack).1 = Rose.preorderAll rs := by
  induction bound generalizing stack with
  | zero =>
    obtain rfl : stack = [] := done
    exact ⟨[], rfl, trivial, rfl⟩
  | succ bound ih =>
    cases stack with
    | nil => exact ⟨[], rfl, trivial, rfl⟩
    | cons n stack =>
      obtain ⟨rs, labels, follows, visited⟩ := @ih (a.children n ++ stack) done
      -- the first of these trees are those of the children of `n`
      obtain ⟨children, others, rfl, tops, rest⟩ := List.map_eq_append_iff.mp labels
      obtain ⟨below, beside⟩ := Rose.followAll_append.mp follows
      refine ⟨.node n children :: others, ?_, ⟨⟨tops.symm, below⟩, beside⟩, ?_⟩
      · rw [List.map_cons, rest, Rose.label]
      · rw [Rose.preorderAll_append] at visited
        simp only [visit, visited, Rose.preorderAll, Rose.preorder, List.cons_append]

/-- A search that is over stays as it is when more visits are allowed. -/
lemma visit_of_done {after : NodeId → List NodeId} {bound bound' : Nat} {stack : List NodeId}
    (done : (visit after bound stack).2 = []) (le : bound ≤ bound') :
    visit after bound' stack = visit after bound stack := by
  induction bound generalizing bound' stack with
  | zero =>
    obtain rfl : stack = [] := done
    cases bound' <;> rfl
  | succ bound ih =>
    obtain ⟨bound', rfl⟩ : ∃ k, bound' = k + 1 := Nat.exists_eq_add_one.mpr (Nat.zero_lt_of_lt le)
    cases stack with
    | nil => rfl
    | cons n stack =>
      have rest : visit after bound' (after n ++ stack) = visit after bound (after n ++ stack) :=
        ih done (Nat.le_of_succ_le_succ le)
      simp only [visit, rest]

end Arena

namespace Tree

variable {t : Tree} {n m : NodeId}

/-- The walk is over after as many visits as there are nodes. -/
lemma visit_eq_walk {bound : Nat} (le : t.size ≤ bound) :
    Arena.visit t.arena.children bound [t.root] = (t.walk, []) := by
  have done : (Arena.visit t.arena.children t.size [t.root]).2 = [] :=
    Arena.visit_left t.branches fun _ => .refl _
  rw [Arena.visit_of_done done le]
  exact Prod.ext rfl done

/-- The walk is the pre-order of the tree that is met by following the children down. -/
lemma exists_unfolds_walk (t : Tree) :
    ∃ ids, t.arena.Unfolds t.root ids ∧ t.walk = ids.preorder := by
  have ended : (Arena.visit t.arena.children t.size [t.root]).2 = [] := by
    rw [visit_eq_walk (Nat.le_refl _)]
  obtain ⟨rs, tops, follows, visited⟩ := Arena.exists_roses_of_visit ended
  obtain ⟨ids, rfl, top⟩ := List.map_eq_singleton_iff.mp tops
  refine ⟨ids, ⟨top, follows.1⟩, ?_⟩
  rw [visit_eq_walk (Nat.le_refl _)] at visited
  simpa [Rose.preorderAll] using visited

/-- The walk meets every node once. -/
lemma walk_perm (t : Tree) : t.walk.Perm (List.range t.size) := by
  have perm (n : NodeId) : (t.arena.children n).Perm (t.arena.children n) := .refl _
  have frontier := Arena.Frontier.start.visit t.branches perm t.size
  have nodup : t.walk.Nodup := by
    have all := (List.nodup_append'.mp frontier.nodup).1
    rw [List.append_nil, List.nodup_reverse] at all
    exact all
  have mem_iff (n : NodeId) : n ∈ t.walk ↔ n ∈ List.range t.size := by
    rw [List.mem_range]
    refine (Arena.mem_visit t.branches perm).trans ⟨?_, t.isRooted.reaches n⟩
    intro path
    cases path with
    | start => exact t.root_lt
    | child _ child => exact t.branches.child_lt child
  exact (List.perm_ext_iff_of_nodup nodup List.nodup_range).mpr mem_iff

/-- A node of the tree has a nested tree of its own, which the walk goes through in its order. -/
lemma exists_subtree (lt : n < t.size) :
    ∃ s, t.arena.Unfolds n s ∧ s.preorder.Sublist t.walk := by
  obtain ⟨ids, unfolds, walk⟩ := t.exists_unfolds_walk
  have met : n ∈ ids.preorder := by
    rw [← walk]
    exact t.walk_perm.mem_iff.mpr (List.mem_range.mpr lt)
  rw [walk]
  exact unfolds.2.exists_subtree met

/-- A node comes before all that is below it. -/
lemma precedes_of_reaches (lt : n < t.size) (path : t.arena.Reaches n m) (ne : m ≠ n) :
    t.Precedes n m := by
  obtain ⟨⟨_, rs⟩, ⟨rfl, follows⟩, sub⟩ := exists_subtree lt
  rcases List.mem_cons.mp (follows.mem_preorder.mpr path) with same | below
  · exact absurd same ne
  · exact ((List.singleton_sublist.mpr below).cons_cons _).trans sub

/-- All that is below one child comes before all that is below a later one. -/
lemma precedes_of_siblings {p c d k : NodeId} {i j : Nat} (lt : i < j)
    (first : t.child? p i = some c) (second : t.child? p j = some d)
    (path : t.arena.Reaches c m) (path' : t.arena.Reaches d k) : t.Precedes m k := by
  have lt_p : p < t.size := Arena.lt_of_mem_children (List.mem_of_getElem? first)
  obtain ⟨⟨top, rs⟩, ⟨same, children, follows⟩, sub⟩ := exists_subtree lt_p
  obtain rfl : top = p := same
  have below {i : Nat} {c m : NodeId} (child : t.child? top i = some c)
      (path : t.arena.Reaches c m) : ∃ r, rs[i]? = some r ∧ m ∈ r.preorder := by
    rw [child?, Tree.children, children, List.getElem?_map] at child
    obtain ⟨r, found, rfl⟩ := Option.map_eq_some_iff.mp child
    have own : r.Follows t.arena := Rose.followAll_iff.mp follows r (List.mem_of_getElem? found)
    exact ⟨r, found, own.mem_preorder.mpr path⟩
  obtain ⟨r, found, mem⟩ := below first path
  obtain ⟨s, found', mem'⟩ := below second path'
  exact ((Rose.sublist_preorderAll lt found found' mem mem').cons _).trans sub

end Tree

/--
The walk of a tree ends after as many visits as there are nodes. It is the pre-order of the nested
tree of ids that is met by following the children down from the root, and it meets every node once:
each before all that is below it, and all that is below a child before all that is below the
children after it.
-/
theorem Arena.finish_walk {a : Arena} {root : NodeId} {t : Tree} (h : a.finish root = .ok t) :
    (∀ bound ≥ a.nodes.size, Arena.visit a.children bound [root] = (t.walk, [])) ∧
      (∃ ids, a.Unfolds root ids ∧ t.walk = ids.preorder) ∧
      t.walk.Perm (List.range a.nodes.size) ∧
      (∀ n m, t.has n → a.Reaches n m → m ≠ n → t.Precedes n m) ∧
      ∀ p c d i j, t.child? p i = some c → t.child? p j = some d → i < j →
        ∀ m k, a.Reaches c m → a.Reaches d k → t.Precedes m k := by
  obtain ⟨rfl, rfl⟩ := eq_of_finish h
  refine ⟨fun bound le => Tree.visit_eq_walk le, t.exists_unfolds_walk, t.walk_perm, ?_, ?_⟩
  · intro n m has path ne
    exact Tree.precedes_of_reaches (Tree.has_iff.mp has) path ne
  · intro p c d i j first second lt m k path path'
    exact Tree.precedes_of_siblings lt first second path path'

/-- Ids that run against the order of the tree: the walk starts at the last and ends at id 0. -/
theorem Arena.finish_walk_crossed :
    ∃ t, (Arena.mk #[.colon, .valueValue (some 0), .word "a" "", .commaGroup [2, 1]]).finish 3 =
        .ok t ∧
      t.walk.Perm (List.range 4) ∧ t.Precedes 1 0 ∧ t.Precedes 2 0 := by
  obtain ⟨t, h⟩ : ∃ t,
      (Arena.mk #[.colon, .valueValue (some 0), .word "a" "", .commaGroup [2, 1]]).finish 3 =
        .ok t := ⟨_, rfl⟩
  obtain ⟨_, _, perm, below, beside⟩ := Arena.finish_walk h
  obtain ⟨arena, _⟩ := eq_of_finish h
  have has : t.has 1 := by
    rw [Tree.has, Tree.node?, arena]
    decide
  have first : t.child? 3 0 = some 2 := by
    rw [Tree.child?, Tree.children, arena]
    decide
  have second : t.child? 3 1 = some 1 := by
    rw [Tree.child?, Tree.children, arena]
    decide
  exact ⟨t, h, perm, below 1 0 has (.child .start (by decide)) (by decide),
    beside 3 2 1 0 1 first second (by decide) 2 0 .start (.child .start (by decide))⟩

end StyleTree
