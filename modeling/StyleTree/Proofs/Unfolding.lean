import Mathlib.Data.List.Perm.Basic
import Mathlib.Data.Option.Basic
import StyleTree.Proofs.Search
import StyleTree.Tree.Unfolding

/-!
# Nested trees of an arena

Following the children down from a node gives at most one nested tree (`Unfolds.unique`,
`ReadsAs.unique`), and it stays the same while nodes are added that it does not meet
(`Follows.mono`). When a nested tree meets every node of an arena once, the arena is one rooted
tree: the label on top and the references of the arena are then the nodes of the arena in another
order, so no reference leads outside, to a node twice, or to the top (`Covers.isRooted`).
-/

namespace StyleTree

namespace Rose

/-- Different trees stay different when their labels do. -/
lemma map_injective {α β : Type} {f : α → β} (inj : Function.Injective f) {r s : Rose α}
    (same : r.map f = s.map f) : r = s := by
  induction r using Rose.rec
    (motive_2 := fun rs => ∀ ss, mapAll f rs = mapAll f ss → rs = ss) generalizing s with
  | node n rs ih =>
    obtain ⟨m, ss⟩ := s
    injection same with label children
    rw [inj label, ih ss children]
  | nil =>
    rename_i ss same
    cases ss with
    | nil => rfl
    | cons s ss => cases same
  | cons r rs ih ihs =>
    rename_i ss same
    cases ss with
    | nil => cases same
    | cons s ss =>
      injection same with head tail
      rw [ih head, ihs ss tail]

variable {a b : Arena} {r s : Rose NodeId} {rs ss : List (Rose NodeId)}

/-- From one node there is one nested tree. -/
lemma Follows.unique (fr : r.Follows a) (fs : s.Follows a) (same : r.label = s.label) :
    r = s := by
  -- the induction goes over the first tree; the arena tells what the children of the second are
  induction r using Rose.rec
    (motive_2 := fun rs => ∀ ss, FollowAll a rs → FollowAll a ss →
      rs.map label = ss.map label → rs = ss) generalizing s with
  | node n rs ih =>
    obtain ⟨m, ss⟩ := s
    obtain rfl : n = m := same
    obtain ⟨rs_eq, frs⟩ := fr
    obtain ⟨ss_eq, fss⟩ := fs
    rw [ih ss frs fss (rs_eq.symm.trans ss_eq)]
  | nil =>
    rename_i ss _ _ same
    cases ss with
    | nil => rfl
    | cons s ss => cases same
  | cons r rs ih ihs =>
    rename_i ss frs fss same
    cases ss with
    | nil => cases same
    | cons s ss =>
      obtain ⟨fr, frs⟩ := frs
      obtain ⟨fs, fss⟩ := fss
      obtain ⟨head, tail⟩ := List.cons.inj same
      rw [ih fr fs head, ihs ss frs fss tail]

mutual

/-- A nested tree stays when nodes are added that it does not meet. -/
theorem Follows.mono (grows : a.Extends b) :
    {r : Rose NodeId} → (∀ n ∈ r.preorder, n < a.size) → r.Follows a → r.Follows b
  | .node n rs, lt, ⟨rs_eq, frs⟩ => by
    obtain ⟨top, below⟩ := List.forall_mem_cons.mp lt
    exact ⟨(grows.children_eq top).trans rs_eq, FollowAll.mono grows below frs⟩

/-- Several nested trees stay when nodes are added that they do not meet. -/
theorem FollowAll.mono (grows : a.Extends b) :
    {rs : List (Rose NodeId)} → (∀ n ∈ preorderAll rs, n < a.size) → FollowAll a rs →
      FollowAll b rs
  | [], _, _ => trivial
  | r :: rs, lt, ⟨fr, frs⟩ => by
    obtain ⟨head, tail⟩ := List.forall_mem_append.mp lt
    exact ⟨Follows.mono grows head fr, FollowAll.mono grows tail frs⟩

end

/-- Trees before others follow the arena when both do. -/
lemma followAll_append : FollowAll a (rs ++ ss) ↔ FollowAll a rs ∧ FollowAll a ss := by
  induction rs with
  | nil => simp [FollowAll]
  | cons r rs ih => simp [FollowAll, ih, and_assoc]

/-- The nodes of a nested tree are the one on top and the children of all of them. -/
lemma Follows.perm (fr : r.Follows a) :
    (r.label :: r.preorder.flatMap a.children).Perm r.preorder := by
  induction r using Rose.rec
    (motive_2 := fun rs => FollowAll a rs →
      (rs.map label ++ (preorderAll rs).flatMap a.children).Perm (preorderAll rs)) with
  | node n rs ih =>
    obtain ⟨rs_eq, frs⟩ := fr
    rw [preorder, label, List.flatMap_cons, rs_eq]
    exact (ih frs).cons n
  | nil => exact .nil
  | cons r rs ih ihs =>
    rename_i frs
    have head := ih frs.1
    have tail := ihs frs.2
    rw [preorderAll, List.flatMap_append, List.map_cons]
    -- the labels of the other trees move behind the children of the first
    have moved : (r.label :: rs.map label ++
        (r.preorder.flatMap a.children ++ (preorderAll rs).flatMap a.children)).Perm
        ((r.label :: r.preorder.flatMap a.children) ++
          (rs.map label ++ (preorderAll rs).flatMap a.children)) := by
      rw [List.cons_append, List.cons_append, ← List.append_assoc, ← List.append_assoc]
      exact (List.perm_append_comm.append_right _).cons _
    exact moved.trans (head.append tail)

/-- A path to the top of a nested tree goes on to all its nodes. -/
lemma Follows.reaches {root : NodeId} (fr : r.Follows a) (top : a.Reaches root r.label) :
    ∀ n ∈ r.preorder, a.Reaches root n := by
  induction r using Rose.rec
    (motive_2 := fun rs => FollowAll a rs → (∀ r ∈ rs, a.Reaches root r.label) →
      ∀ n ∈ preorderAll rs, a.Reaches root n) with
  | node n rs ih =>
    obtain ⟨rs_eq, frs⟩ := fr
    refine List.forall_mem_cons.mpr ⟨top, ih frs ?_⟩
    intro r mem
    refine .child top ?_
    rw [label, rs_eq]
    exact List.mem_map_of_mem mem
  | nil =>
    rename_i n mem
    cases mem
  | cons r rs ih ihs =>
    rename_i frs tops n mem
    obtain ⟨head, tail⟩ := List.forall_mem_cons.mp tops
    rcases List.mem_append.mp mem with first | other
    · exact ih frs.1 head n first
    · exact ihs frs.2 tail n other

end Rose

namespace Arena

variable {a : Arena} {n root : NodeId} {ids : Rose NodeId}

/-- Following the children of a node down gives one tree of ids. -/
lemma Unfolds.unique {ids' : Rose NodeId} (u : a.Unfolds n ids) (u' : a.Unfolds n ids') :
    ids = ids' :=
  u.2.unique u'.2 (u.1.trans u'.1.symm)

/-- Following the children down gives one nested tree of labels. -/
lemma ReadsAs.unique {r s : Rose Label} (reads : a.ReadsAs n r) (reads' : a.ReadsAs n s) :
    r = s := by
  obtain ⟨ids, u, labels⟩ := reads
  obtain ⟨ids', u', labels'⟩ := reads'
  obtain rfl := u.unique u'
  exact Rose.map_injective (Option.some_injective _) (labels.symm.trans labels')

/-- A node says what is on top of its nested tree. -/
lemma ReadsAs.label? {r : Rose Label} (reads : a.ReadsAs n r) : a.label? n = some r.label := by
  obtain ⟨ids, ⟨rfl, _⟩, labels⟩ := reads
  obtain ⟨top, below⟩ := ids
  obtain ⟨label, children⟩ := r
  exact (Rose.node.inj labels).1

/-- The children of a node are the tops of the subtrees, one by one. -/
lemma ReadsAs.forall₂ {r : Rose Label} (reads : a.ReadsAs n r) :
    List.Forall₂ a.ReadsAs (a.children n) r.children := by
  obtain ⟨ids, ⟨rfl, follows⟩, labels⟩ := reads
  obtain ⟨top, rs⟩ := ids
  obtain ⟨label, ls⟩ := r
  obtain ⟨rs_eq, follows⟩ := follows
  have same : Rose.mapAll a.label? rs = Rose.mapAll some ls := (Rose.node.inj labels).2
  rw [Rose.label, rs_eq, Rose.children]
  clear rs_eq labels
  induction rs generalizing ls with
  | nil =>
    cases ls with
    | nil => exact .nil
    | cons l ls => cases same
  | cons r rs ih =>
    cases ls with
    | nil => cases same
    | cons l ls =>
      obtain ⟨first, others⟩ := List.cons.inj same
      exact .cons ⟨r, ⟨rfl, follows.1⟩, first⟩ (ih ls follows.2 others)

/-- The references are the children of all nodes in order. -/
lemma references_eq_flatMap (a : Arena) :
    a.references = (List.range a.size).flatMap a.children := by
  have lists : a.nodes.toList.map Node.children = (List.range a.size).map a.children := by
    apply List.ext_getElem
    · simp [size]
    · intro i lt _
      have exist : i < a.nodes.size := by simpa using lt
      have found : a.node? i = some a.nodes[i] := Array.getElem?_eq_getElem exist
      simp [children, found]
  rw [references, List.flatMap_def, List.flatMap_def, lists]

/-- An arena is one rooted tree when a nested tree meets each of its nodes once. -/
lemma Covers.isRooted (covers : a.Covers ids) (u : a.Unfolds root ids) : a.IsRooted root := by
  obtain ⟨rfl, follows⟩ := u
  -- the top and the references are the nodes of the arena in another order
  have nodes : (ids.label :: a.references).Perm (List.range a.size) := by
    have perm := follows.perm.trans covers
    rw [references_eq_flatMap]
    exact ((covers.flatMap_right a.children).symm.cons _).trans perm
  have lt : ∀ n ∈ ids.label :: a.references, n < a.size := by
    intro n mem
    exact List.mem_range.mp (nodes.mem_iff.mp mem)
  have nodup : (ids.label :: a.references).Nodup := nodes.nodup_iff.mpr List.nodup_range
  obtain ⟨root_free, references_nodup⟩ := List.nodup_cons.mp nodup
  obtain ⟨root_lt, references_lt⟩ := List.forall_mem_cons.mp lt
  refine ⟨⟨root_lt, references_lt, references_nodup, root_free⟩, ?_⟩
  intro n lt
  exact follows.reaches .start n (covers.mem_iff.mpr (List.mem_range.mpr lt))

end Arena

end StyleTree
