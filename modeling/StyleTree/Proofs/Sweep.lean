import StyleTree.Proofs.Defects

/-!
# The end of a sweep

A sweep asks no mark before a visit, so what ends it are the references alone. Where none is made
twice and none leads to the root, the nodes that were visited and those on the stack are always
different (`Arena.Frontier`), and each visit keeps that (`HasSeen.visit`). So does every run of
visits (`HasSeen.visits`): it has no repetition, and therefore no more visits than the arena has
nodes. It never comes to a node that does not exist (`HasSeen.exists_visit`), so when no visit is
left the stack is empty, and then the marks are those of the nodes that a path from the root leads
to. A cycle away from the root is no obstacle. A cycle that the root leads to is swept without end
(`stack_ne_nil_of_cycle`), but one of its nodes is referred to twice, or it is the root.
-/

namespace StyleTree

/-- A path that goes on from its start goes on to a child. -/
lemma Arena.Reaches.eq_or_exists_child {a : Arena} {n m : NodeId} (path : a.Reaches m n) :
    m = n ∨ ∃ c ∈ a.children m, a.Reaches c n := by
  induction path with
  | start => exact .inl rfl
  | @child p c _ child ih =>
    rcases ih with rfl | ⟨first, child', rest⟩
    · exact .inr ⟨c, child, .start⟩
    · exact .inr ⟨first, child', rest.child child⟩

namespace Sweep

variable {a : Arena} {root n : NodeId} {s s' : Sweep} {seen ns : List NodeId}

/-- A visit goes to the top of the stack, which needs a mark and a place in the arena. -/
lemma visit?_eq_some :
    s.visit? a = some (n, s') ↔
      ∃ stack, s.stack = n :: stack ∧ n < s.marks.size ∧ n < a.size ∧
        s' = ⟨s.marks.setIfInBounds n true, a.backwards n ++ stack⟩ := by
  obtain ⟨marks, stack⟩ := s
  cases stack with
  | nil => simp [visit?]
  | cons top stack =>
    simp only [visit?, Option.ite_none_right_eq_some, Option.some.injEq, Prod.mk.injEq]
    refine ⟨?_, ?_⟩
    · rintro ⟨⟨marked, lt⟩, rfl, rfl⟩
      exact ⟨stack, rfl, marked, lt, rfl⟩
    · rintro ⟨_, same, marked, lt, rfl⟩
      obtain ⟨rfl, rfl⟩ := List.cons.inj same
      exact ⟨⟨marked, lt⟩, rfl, rfl⟩

/-- The sweep from `root` has visited these nodes, the last one first. -/
structure HasSeen (a : Arena) (root : NodeId) (seen : List NodeId) (s : Sweep) : Prop where
  frontier : a.Frontier root seen s.stack
  marks : s.marks =
    seen.reverse.foldl (fun marks n => marks.setIfInBounds n true) (Array.replicate a.size false)

namespace HasSeen

/-- Before its first visit a sweep has seen nothing. -/
lemma start : (start a root).HasSeen a root [] where
  frontier := .start
  marks := rfl

/-- There are as many marks as there are nodes. -/
lemma size_marks (has : s.HasSeen a root seen) : s.marks.size = a.size := by
  rw [has.marks, Arena.size_mark, Array.size_replicate]

/-- A visit adds one node to those that were seen. -/
lemma visit (br : a.Branches root) (has : s.HasSeen a root seen)
    (visit : s.visit? a = some (n, s')) : s'.HasSeen a root (n :: seen) := by
  obtain ⟨stack, top, _, _, rfl⟩ := visit?_eq_some.mp visit
  have frontier := has.frontier
  rw [top] at frontier
  refine ⟨frontier.step br (List.reverse_perm _), ?_⟩
  rw [has.marks, List.reverse_cons, List.foldl_append]
  rfl

/-- Visits one after the other add theirs. -/
lemma visits (br : a.Branches root) (has : s.HasSeen a root seen) (run : s.Visits a ns s') :
    s'.HasSeen a root (ns.reverse ++ seen) := by
  induction run generalizing seen with
  | none s => exact has
  | next first _ ih =>
    have rest := ih (has.visit br first)
    simpa using rest

/-- The top of the stack can be visited. -/
lemma exists_visit (br : a.Branches root) (has : s.HasSeen a root seen) :
    s.stack = [] ∨ ∃ n s', s.visit? a = some (n, s') := by
  cases top : s.stack with
  | nil => exact .inl rfl
  | cons n stack =>
    have lt : n < a.size := has.frontier.lt_size br n (by simp [top])
    exact .inr ⟨n, _, visit?_eq_some.mpr ⟨stack, top, has.size_marks ▸ lt, lt, rfl⟩⟩

/-- A search with a bound visits what the sweep visits. -/
lemma exists_visits (br : a.Branches root) (has : s.HasSeen a root seen) (bound : Nat) :
    ∃ s', s.Visits a (Arena.visit a.backwards bound s.stack).1 s' ∧
      s'.stack = (Arena.visit a.backwards bound s.stack).2 := by
  induction bound generalizing s seen with
  | zero => exact ⟨s, .none s, rfl⟩
  | succ bound ih =>
    rcases has.exists_visit br with ended | ⟨n, next, visit⟩
    · rw [ended]
      exact ⟨s, .none s, ended⟩
    · obtain ⟨stack, top, _, _, rfl⟩ := visit?_eq_some.mp visit
      obtain ⟨s', run, left⟩ := ih (has.visit br visit)
      rw [top]
      exact ⟨s', .next visit run, left⟩

/-- When the stack is empty, the nodes with a mark are those that a path from the root leads to. -/
lemma mark_iff (br : a.Branches root) (has : s.HasSeen a root seen) (ended : s.stack = []) :
    s.marks[n]? = some true ↔ a.Reaches root n := by
  have frontier := has.frontier
  rw [ended] at frontier
  have lt (mem : n ∈ seen) : n < a.size := frontier.lt_size br n (by simpa using mem)
  have seen_iff : n ∈ seen ↔ a.Reaches root n :=
    ⟨fun mem => frontier.reaches n (by simpa using mem), frontier.mem_of_reaches⟩
  rw [has.marks, Arena.getElem?_mark, ← seen_iff]
  simpa [Array.getElem?_replicate] using lt

end HasSeen

section Cycle

variable {c : NodeId} (child : c ∈ a.children n) (back : a.Reaches c n)

include child back

/-- A visit leaves a node on the stack that leads to the cycle, if there was one. -/
lemma leads_of_visit {m : NodeId} (visit : s.visit? a = some (m, s'))
    (leads : ∃ k ∈ s.stack, a.Reaches k n) : ∃ k ∈ s'.stack, a.Reaches k n := by
  obtain ⟨stack, top, _, _, rfl⟩ := visit?_eq_some.mp visit
  obtain ⟨k, mem, path⟩ := leads
  rw [top, List.mem_cons] at mem
  rcases mem with rfl | below
  · -- the node that is visited leads to the cycle by way of a child
    obtain ⟨next, child', path'⟩ : ∃ next ∈ a.children k, a.Reaches next n := by
      rcases path.eq_or_exists_child with rfl | below
      · exact ⟨c, child, back⟩
      · exact below
    exact ⟨next, List.mem_append_left _ (List.mem_reverse.mpr child'), path'⟩
  · exact ⟨k, List.mem_append_right _ below, path⟩

/-- A run leaves a node on the stack that leads to the cycle, if there was one. -/
lemma leads_of_visits (run : s.Visits a ns s') (leads : ∃ k ∈ s.stack, a.Reaches k n) :
    ∃ k ∈ s'.stack, a.Reaches k n := by
  induction run with
  | none s => exact leads
  | next visit _ ih => exact ih (leads_of_visit child back visit leads)

/-- Where the root leads to a cycle, no sweep comes to its end: its stack is never empty. -/
theorem stack_ne_nil_of_cycle (path : a.Reaches root n) (run : (start a root).Visits a ns s) :
    s.stack ≠ [] := by
  obtain ⟨k, mem, _⟩ := leads_of_visits child back run ⟨root, List.mem_singleton_self root, path⟩
  exact List.ne_nil_of_mem mem

end Cycle

end Sweep

namespace Arena

variable {a : Arena} {root : NodeId}

/-- The checks before the sweep leave the arenas whose references branch from the root. -/
lemma finish_sweeps_iff :
    ((∃ t, a.finish root = .ok t) ∨ ∃ n, a.finish root = .error (.unreachable n)) ↔
      a.Branches root := by
  refine ⟨?_, ?_⟩
  · rintro (⟨t, h⟩ | ⟨n, h⟩)
    · obtain ⟨rfl, rfl⟩ := eq_of_finish h
      exact t.branches
    · cases isFirst_of_finish_eq_error h with
      | unreached branches => exact branches
  · intro br
    cases found : a.firstUnreached? root with
    | none =>
      have reaches := (firstUnreached?_eq_none br).mp found
      exact .inl (IsRooted.exists_finish ⟨br, reaches⟩)
    | some n =>
      obtain ⟨lt, unreached, reached⟩ := (firstUnreached?_eq_some br).mp found
      exact .inr ⟨n, finish_eq_error_of_isFirst (.unreached br lt unreached reached)⟩

/--
An arena comes to its sweep exactly when each reference leads to a node, none is made twice, and
none leads to the root, which is a node. Then the sweep, which has no bound of its own, ends with
an empty stack, after the visits and with the marks that decide whether the arena is a tree. On the
way no node is visited twice, so there are no more visits than nodes; and as long as the stack is
not empty there is a next visit. At the end the marked nodes are those that a path from the root
leads to.
-/
theorem sweep_ends (a : Arena) (root : NodeId) :
    (((∃ t, a.finish root = .ok t) ∨ ∃ n, a.finish root = .error (.unreachable n)) ↔
        a.Branches root) ∧
      (a.Branches root →
        (∃ s, (Sweep.start a root).Visits a (a.sweep root) s ∧ s.stack = [] ∧
          s.marks = a.reached root) ∧
        ∀ ns s, (Sweep.start a root).Visits a ns s →
          ns.Nodup ∧ ns.length ≤ a.size ∧ (s.stack = [] ∨ ∃ n s', s.visit? a = some (n, s')) ∧
            (s.stack = [] →
              s.marks.size = a.size ∧ ∀ n, s.marks[n]? = some true ↔ a.Reaches root n)) := by
  refine ⟨finish_sweeps_iff, ?_⟩
  intro br
  have start : (Sweep.start a root).HasSeen a root [] := .start
  refine ⟨?_, ?_⟩
  · obtain ⟨s, run, left⟩ := start.exists_visits br a.size
    have has := start.visits br run
    refine ⟨s, run, left.trans (visit_left br fun n => List.reverse_perm _), ?_⟩
    rw [has.marks, List.append_nil, List.reverse_reverse]
    rfl
  · intro ns s run
    -- what was visited and what is on the stack are different nodes, whatever run came before
    have has := start.visits br run
    rw [List.append_nil] at has
    have nodup : ns.Nodup := List.nodup_reverse.mp (List.nodup_append.mp has.frontier.nodup).1
    have length : ns.length ≤ a.size := by
      have le := has.frontier.length_le br
      rw [List.length_reverse] at le
      omega
    refine ⟨nodup, length, has.exists_visit br, ?_⟩
    intro ended
    exact ⟨has.size_marks, fun n => has.mark_iff br ended⟩

/-- Away from the root two nodes are each other's child and one is its own; the sweep ends. -/
theorem sweep_ends_beside_cycles :
    let a : Arena := ⟨#[.commaGroup [1], .commaGroup [0], .commaGroup [2], .root [4], .colon]⟩
    a.Branches 3 ∧ a.finish 3 = .error (.unreachable 0) ∧
      ∃ s, (Sweep.start a 3).Visits a [3, 4] s ∧ s.stack = [] ∧
        s.marks = #[false, false, false, true, true] := by
  intro a
  have br : a.Branches 3 := ⟨by decide, by decide, by decide, by decide⟩
  obtain ⟨⟨s, run, ended, marks⟩, _⟩ := (sweep_ends a 3).2 br
  exact ⟨br, rfl, s, run, ended, marks⟩

end Arena

end StyleTree
