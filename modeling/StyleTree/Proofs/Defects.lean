import StyleTree.Proofs.Finish

/-!
# The defect that an arena is refused for

An arena is refused for the first of its defects, and for a real one. Linking stops at the first
edge that cannot be linked after those before it (`foldlM_link_eq_error`). Those before it could be
linked, so they lead to different nodes, and a slot that is taken or missing tells of an earlier
reference or of a node that does not exist (`parentLinks_eq_error`). What the sweep did not meet has
no path from the root, because the sweep met all that has one.
-/

namespace StyleTree

namespace ParentLinks

variable {links : ParentLinks} {e : NodeId × NodeId} {es : List (NodeId × NodeId)} {d : Defect}

/-- An edge is refused when its child does not exist, or when it has a parent already. -/
lemma link_eq_error :
    links.link e = .error d ↔
      (links[e.2]? = none ∧ d = .unknownNode e.2) ∨
        ((∃ p, links[e.2]? = some (some p)) ∧ d = .multipleParents e.2) := by
  unfold link
  rcases links[e.2]? with _ | _ | parent <;> simp [eq_comm]

/-- Several edges are refused for the first one that is refused after those before it. -/
lemma foldlM_link_eq_error :
    es.foldlM link links = .error d ↔
      ∃ before e next, before ++ [e] <+: es ∧ before.foldlM link links = .ok next ∧
        next.link e = .error d := by
  -- the edge that is refused is the first one, or it is among the others once the first is made
  induction es generalizing links with
  | nil =>
    refine ⟨nofun, ?_⟩
    rintro ⟨before, e, _, begins, _⟩
    exact absurd (List.prefix_nil.mp begins) (by simp)
  | cons e es ih =>
    rw [List.foldlM_cons]
    refine ⟨?_, ?_⟩
    · intro h
      cases first : links.link e with
      | error d' =>
        rw [first] at h
        cases h
        exact ⟨[], e, links, by simp, rfl, first⟩
      | ok next =>
        rw [first] at h
        obtain ⟨before, e', next', begins, linked, refused⟩ := ih.mp h
        exact ⟨e :: before, e', next', by simpa using begins,
          foldlM_link_cons.mpr ⟨next, first, linked⟩, refused⟩
    · rintro ⟨before, e', next', begins, linked, refused⟩
      cases before with
      | nil =>
        obtain ⟨rfl, _⟩ := List.cons_prefix_cons.mp begins
        cases linked
        rw [refused]
        rfl
      | cons e'' before =>
        obtain ⟨rfl, tail_begins⟩ := List.cons_prefix_cons.mp begins
        obtain ⟨next, first, linked⟩ := foldlM_link_cons.mp linked
        rw [first]
        exact ih.mpr ⟨before, e', next', tail_begins, linked, refused⟩

/-- After some edges, the next is refused when its child does not exist or was linked by them. -/
lemma link_eq_error_of_foldlM {size : Nat} {next : ParentLinks}
    (linked : es.foldlM link (Array.replicate size none) = .ok next) :
    next.link e = .error d ↔
      (size ≤ e.2 ∧ d = .unknownNode e.2) ∨
        (e.2 ∈ es.map (·.2) ∧ d = .multipleParents e.2) := by
  have missing : next[e.2]? = none ↔ size ≤ e.2 := by
    rw [Array.getElem?_eq_none_iff, size_of_foldlM_link linked, Array.size_replicate]
  have taken : (∃ p, next[e.2]? = some (some p)) ↔ e.2 ∈ es.map (·.2) := by
    simp [parent_of_foldlM_link linked, Array.getElem?_replicate]
  rw [link_eq_error, missing, taken]

end ParentLinks

namespace Arena

variable {a : Arena} {root n : NodeId} {d : Defect} {earlier : List NodeId}

/-- Linking is refused for the first reference that leads nowhere or repeats an earlier one. -/
lemma parentLinks_eq_error :
    a.parentLinks = .error d ↔
      ∃ earlier n, a.RefersAfter earlier n ∧
        ((a.size ≤ n ∧ d = .unknownNode n) ∨ (n ∈ earlier ∧ d = .multipleParents n)) := by
  unfold parentLinks
  rw [ParentLinks.foldlM_link_eq_error]
  refine ⟨?_, ?_⟩
  · rintro ⟨before, e, next, begins, linked, refused⟩
    obtain ⟨lt, nodup⟩ := ParentLinks.exists_foldlM_link_replicate.mp ⟨next, linked⟩
    refine ⟨before.map (·.2), e.2, ⟨?_, lt, nodup⟩, ?_⟩
    · rw [← map_snd_edges]
      simpa using begins.map (·.2)
    · exact (ParentLinks.link_eq_error_of_foldlM linked).mp refused
  · rintro ⟨earlier, n, ⟨begins, lt, nodup⟩, wrong⟩
    -- the edges are cut where the references are
    rw [← map_snd_edges] at begins
    obtain ⟨es, es_begin, split⟩ := List.prefix_map_iff.mp begins
    obtain ⟨before, last, rfl, rfl, last_eq⟩ := List.map_eq_append_iff.mp split.symm
    obtain ⟨e, rfl, rfl⟩ := List.map_eq_singleton_iff.mp last_eq
    obtain ⟨next, linked⟩ := ParentLinks.exists_foldlM_link_replicate.mpr ⟨lt, nodup⟩
    exact ⟨before, e, next, es_begin, linked,
      (ParentLinks.link_eq_error_of_foldlM linked).mpr wrong⟩

/-- The checks in their order, and the defect that each one tells of. -/
lemma finish_eq_error :
    a.finish root = .error d ↔
      (a.size ≤ root ∧ d = .unknownNode root) ∨
        root < a.size ∧
          (a.parentLinks = .error d ∨
            ∃ links, a.parentLinks = .ok links ∧
              ((links[root]? ≠ some none ∧ d = .rootHasParent root) ∨
                links[root]? = some none ∧
                  ∃ n, a.firstUnreached? root = some n ∧ d = .unreachable n)) := by
  unfold finish
  by_cases root_lt : root < a.size
  · rw [dif_pos root_lt]
    split
    · rename_i d' refused
      simp [root_lt, Nat.not_le.mpr root_lt, refused]
    · rename_i links linked
      by_cases root_free : links[root]? = some none
      · rw [dif_pos root_free]
        split
        · rename_i n found
          simp [root_lt, Nat.not_le.mpr root_lt, linked, root_free, found, eq_comm (b := d)]
        · rename_i found
          simp [root_lt, Nat.not_le.mpr root_lt, linked, root_free, found]
      · rw [dif_neg root_free]
        simp [root_lt, Nat.not_le.mpr root_lt, linked, root_free, eq_comm (b := d)]
  · rw [dif_neg root_lt]
    simp [root_lt, Nat.not_lt.mp root_lt, eq_comm (b := d)]

/-- An arena is refused for the first of its defects. -/
lemma finish_eq_error_of_isFirst (first : d.IsFirst a root) : a.finish root = .error d := by
  apply finish_eq_error.mpr
  cases first with
  | unknownRoot ge => exact .inl ⟨ge, rfl⟩
  | @unknownChild earlier n root_lt refers ge =>
    exact .inr ⟨root_lt, .inl (parentLinks_eq_error.mpr ⟨earlier, n, refers, .inl ⟨ge, rfl⟩⟩)⟩
  | @repeatedChild earlier n root_lt refers mem =>
    exact .inr ⟨root_lt, .inl (parentLinks_eq_error.mpr ⟨earlier, n, refers, .inr ⟨mem, rfl⟩⟩)⟩
  | rootChild root_lt references_lt references_nodup mem =>
    obtain ⟨links, linked⟩ := exists_parentLinks.mpr ⟨references_lt, references_nodup⟩
    refine .inr ⟨root_lt, .inr ⟨links, linked, .inl ⟨?_, rfl⟩⟩⟩
    intro free
    exact ((parentLinks_eq_none linked).mp free).2 mem
  | @unreached n branches lt unreached reached =>
    obtain ⟨links, linked⟩ :=
      exists_parentLinks.mpr ⟨branches.references_lt, branches.references_nodup⟩
    have free := (parentLinks_eq_none linked).mpr ⟨branches.root_lt, branches.root_free⟩
    have found := (firstUnreached?_eq_some branches).mpr ⟨lt, unreached, reached⟩
    exact .inr ⟨branches.root_lt, .inr ⟨links, linked, .inr ⟨free, n, found, rfl⟩⟩⟩

/-- What an arena is refused for is the first of its defects. -/
lemma isFirst_of_finish_eq_error (h : a.finish root = .error d) : d.IsFirst a root := by
  rcases finish_eq_error.mp h with ⟨ge, rfl⟩ | ⟨root_lt, refused | ⟨links, linked, h⟩⟩
  · exact .unknownRoot ge
  · obtain ⟨earlier, n, refers, ⟨ge, rfl⟩ | ⟨mem, rfl⟩⟩ := parentLinks_eq_error.mp refused
    · exact .unknownChild root_lt refers ge
    · exact .repeatedChild root_lt refers mem
  · obtain ⟨references_lt, references_nodup⟩ := exists_parentLinks.mp ⟨links, linked⟩
    rcases h with ⟨taken, rfl⟩ | ⟨free, n, found, rfl⟩
    · rw [Ne, parentLinks_eq_none linked, not_and_not_right] at taken
      exact .rootChild root_lt references_lt references_nodup (taken root_lt)
    · obtain ⟨_, root_free⟩ := (parentLinks_eq_none linked).mp free
      have branches : a.Branches root := ⟨root_lt, references_lt, references_nodup, root_free⟩
      obtain ⟨lt, unreached, reached⟩ := (firstUnreached?_eq_some branches).mp found
      exact .unreached branches lt unreached reached

end Arena

namespace Arena.RefersAfter

variable {a : Arena} {n : NodeId} {earlier : List NodeId}

/-- A reference after others is a reference. -/
lemma mem_references (refers : a.RefersAfter earlier n) : n ∈ a.references :=
  refers.begins.subset (by simp)

/-- A reference that repeats an earlier one is made twice. -/
lemma two_le_count (refers : a.RefersAfter earlier n) (mem : n ∈ earlier) :
    2 ≤ a.references.count n := by
  have one : 1 ≤ earlier.count n := List.one_le_count_iff.mpr mem
  calc 2 ≤ (earlier ++ [n]).count n := by simpa using one
    _ ≤ a.references.count n := refers.begins.sublist.count_le n

end Arena.RefersAfter

/--
The defect that an arena is refused for is its first one, and the first one is what it is refused
for. An unknown node does not exist and is the root or a child. A node with several parents exists
and is referred to twice at least. A root with a parent is a child, and each reference leads to a
node of its own. An unreachable node has no path from the root, and all nodes before it have one,
while nothing else is wrong.
-/
theorem Arena.finish_refuses_first (a : Arena) (root : NodeId) :
    (∀ d, a.finish root = .error d ↔ d.IsFirst a root) ∧
      (∀ n, a.finish root = .error (.unknownNode n) →
        a.size ≤ n ∧ (n = root ∨ n ∈ a.references)) ∧
      (∀ n, a.finish root = .error (.multipleParents n) →
        n < a.size ∧ 2 ≤ a.references.count n) ∧
      (∀ n, a.finish root = .error (.rootHasParent n) →
        n = root ∧ n ∈ a.references ∧ (∀ c ∈ a.references, c < a.size) ∧ a.references.Nodup) ∧
      ∀ n, a.finish root = .error (.unreachable n) →
        a.Branches root ∧ n < a.size ∧ ¬ a.Reaches root n ∧ ∀ m < n, a.Reaches root m := by
  refine ⟨?_, ?_, ?_, ?_, ?_⟩
  · intro d
    exact ⟨isFirst_of_finish_eq_error, finish_eq_error_of_isFirst⟩
  · intro n h
    cases isFirst_of_finish_eq_error h with
    | unknownRoot ge => exact ⟨ge, .inl rfl⟩
    | unknownChild _ refers ge => exact ⟨ge, .inr refers.mem_references⟩
  · intro n h
    cases isFirst_of_finish_eq_error h with
    | repeatedChild _ refers mem =>
      exact ⟨refers.earlier_lt n mem, refers.two_le_count mem⟩
  · intro n h
    cases isFirst_of_finish_eq_error h with
    | rootChild _ references_lt references_nodup mem =>
      exact ⟨rfl, mem, references_lt, references_nodup⟩
  · intro n h
    cases isFirst_of_finish_eq_error h with
    | unreached branches lt unreached reached => exact ⟨branches, lt, unreached, reached⟩

/-- Of a repeated child, a missing one after it and a stray node, the repeated child is told of. -/
theorem Arena.finish_refuses_first_repeated :
    (Arena.mk #[.commaGroup [1, 1, 7], .colon, .colon]).finish 0 = .error (.multipleParents 1) ∧
      1 < 3 ∧ 2 ≤ (Arena.mk #[.commaGroup [1, 1, 7], .colon, .colon]).references.count 1 := by
  have refers : (Arena.mk #[.commaGroup [1, 1, 7], .colon, .colon]).RefersAfter [1] 1 :=
    ⟨by decide, by decide, by decide⟩
  obtain ⟨first, _, repeated, _⟩ :=
    Arena.finish_refuses_first (Arena.mk #[.commaGroup [1, 1, 7], .colon, .colon]) 0
  have refused := (first (.multipleParents 1)).mpr (.repeatedChild (by decide) refers (by decide))
  exact ⟨refused, repeated 1 refused⟩

end StyleTree
