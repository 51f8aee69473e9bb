import StyleTree.Proofs.Environment
import StyleTree.Proofs.Walking
import StyleTree.Tree.Navigation

/-!
# Navigation stays in bounds

Slots are read on trust, and that is safe because a tree was checked when it was made. A read from
the slot of a node succeeds (`exists_readNode`, `readParent_eq`), so a step from a node gives what
looking up with care would give (`follow_eq`), and that is nodes again (`lt_of_mem_targets`). One
step thus keeps every handle on a node, and by induction on the steps so does every run, which gives
the targets of its steps one after the other (`navigate_eq`). What a step gives is told by the lists
of children alone (`mem_targets_iff`): a step without a target gives nothing, and never some other
node.
-/

namespace StyleTree.Tree

variable {t : Tree} {n m : NodeId} {ns ps : List NodeId}

/-- The slot of a node is read. -/
lemma exists_readNode (lt : n < t.size) : ∃ x, t.node? n = some x ∧ t.readNode n = .ok x := by
  have found : t.arena.nodes[n]? = some t.arena.nodes[n] := Array.getElem?_eq_getElem lt
  exact ⟨_, found, by rw [readNode, slot, found]⟩

/-- The parent of a node is read from its slot. -/
lemma readParent_eq (lt : n < t.size) : t.readParent n = .ok (t.parent? n) := by
  have lt_links : n < t.links.size := by
    rw [Arena.size_parentLinks t.links_eq]
    exact lt
  have found : t.links[n]? = some t.links[n] := Array.getElem?_eq_getElem lt_links
  rw [readParent, slot, parent?, found, Option.join_some]

/-- A cursor that is put on a node stays on it. -/
lemma underCursor_eq (lt : n < t.size) : t.underCursor n = n :=
  if_pos (has_iff.mpr lt)

/-- From a node on, ancestors are read as they are looked up. -/
lemma readAncestors_eq {bound : Nat} (lt : n < t.size) :
    t.readAncestors bound n = .ok (t.climb bound n) := by
  induction bound generalizing n with
  | zero => rfl
  | succ bound ih =>
    rw [readAncestors, readParent_eq lt, climb]
    cases parent : t.parent? n with
    | none => rfl
    | some p =>
      have rest : t.readAncestors bound p = .ok (t.climb bound p) := ih (lt_of_parent? parent)
      simp only [bind, Except.bind, rest]
      rfl

/-- A child is a node. -/
lemma child_lt (child : m ∈ t.children n) : m < t.size :=
  t.branches.child_lt child

/-- From nodes on, the walk is read as it is looked up. -/
lemma readWalk_eq {bound : Nat} (lt : ∀ n ∈ ns, n < t.size) :
    t.readWalk bound ns = .ok (Arena.visit t.arena.children bound ns).1 := by
  induction bound generalizing ns with
  | zero => rfl
  | succ bound ih =>
    cases ns with
    | nil => rfl
    | cons n ns =>
      obtain ⟨x, found, read⟩ := exists_readNode (lt n List.mem_cons_self)
      have children : t.arena.children n = x.children := children_eq found
      have rest : t.readWalk bound (x.children ++ ns) =
          .ok (Arena.visit t.arena.children bound (x.children ++ ns)).1 := by
        apply ih
        intro m mem
        rcases List.mem_append.mp mem with child | later
        · exact child_lt (children ▸ child)
        · exact lt m (List.mem_cons_of_mem _ later)
      rw [readWalk, read, Arena.visit, children]
      simp only [bind, Except.bind, rest]
      rfl

/-- A node is tested for the kinds that it is to have. -/
lemma hasKindIn_iff {kinds : List Kind} :
    t.hasKindIn kinds n = true ↔ t.arena.HasKindIn kinds n := by
  simp only [hasKindIn, isKind, kind?, List.any_eq_true, beq_iff_eq, Option.map_eq_some_iff,
    Arena.HasKindIn]
  refine ⟨?_, ?_⟩
  · rintro ⟨kind, mem, x, found, rfl⟩
    exact ⟨x, found, mem⟩
  · rintro ⟨x, found, mem⟩
    exact ⟨x.kind, mem, x, found, rfl⟩

/-- Among nodes the first of some kinds is read as it is looked up. -/
lemma readFirst_eq {kinds : List Kind} (lt : ∀ n ∈ ns, n < t.size) :
    t.readFirst kinds ns = .ok (ns.find? (t.hasKindIn kinds)) := by
  induction ns with
  | nil => rfl
  | cons n ns ih =>
    obtain ⟨lt_n, lt_ns⟩ := List.forall_mem_cons.mp lt
    obtain ⟨x, found, read⟩ := exists_readNode lt_n
    have test : t.hasKindIn kinds n = decide (x.kind ∈ kinds) := by
      rw [Bool.eq_iff_iff, hasKindIn_iff, decide_eq_true_iff]
      refine ⟨?_, fun mem => ⟨x, found, mem⟩⟩
      rintro ⟨y, found', mem⟩
      obtain rfl : x = y := Option.some.inj (found.symm.trans found')
      exact mem
    rw [readFirst, read, List.find?_cons, test]
    by_cases mem : x.kind ∈ kinds
    · simp [bind, Except.bind, pure, Except.pure, mem]
    · simp [bind, Except.bind, mem, ih lt_ns]

/-- Ancestors are nodes. -/
lemma ancestors_lt (lt : n < t.size) : ∀ m ∈ t.ancestors n, m < t.size :=
  (ascends_ancestors lt).lt_size

/-- A step from a node reads nothing out of bounds, and gives what looking up with care gives. -/
lemma follow_eq (lt : n < t.size) (step : Step) : t.follow n step = .ok (t.targets n step) := by
  obtain ⟨x, found, read⟩ := exists_readNode lt
  have ancestors : t.readAncestors t.size (t.underCursor n) = .ok (t.ancestors n) := by
    rw [underCursor_eq lt, readAncestors_eq lt, ancestors]
  cases step with
  | children => rw [follow, targets, read, children_eq found]; rfl
  | child i => rw [follow, targets, read, child?, children_eq found]; rfl
  | value => rw [follow, targets, read, value?, found]; rfl
  | group => rw [follow, targets, read, group?, found]; rfl
  | parent => rw [follow, targets, readParent_eq lt]; rfl
  | node => rw [follow, targets, underCursor_eq lt]; rfl
  | ancestors => rw [follow, targets, ancestors]
  | ancestor depth => rw [follow, targets, ancestors, ancestor?]; rfl
  | nearest kinds =>
    rw [follow, targets, ancestors, nearest?]
    simp only [bind, Except.bind, readFirst_eq (ancestors_lt lt)]
    rfl
  | descend c =>
    rw [follow, targets, descend?]
    by_cases has : t.has c = true
    · rw [if_pos has, readParent_eq (has_iff.mp has)]
      by_cases own : t.parent? c = some n <;> simp [bind, Except.bind, pure, Except.pure, own]
    · -- what is no node has no parent either
      have orphan : t.parent? c ≠ some n := by
        intro parent
        exact has (has_iff.mpr (child_lt (parent?_eq_some.mp parent)))
      rw [if_neg has, if_neg orphan]
      rfl

/-- The ancestor at a depth is the node above with that many nodes between. -/
lemma getElem?_ancestors {depth : Nat} (up : t.Ascends n ps) :
    ps[depth]? = some m ↔ t.arena.Above m depth n := by
  -- above the parent stands at a depth what stands above the node one deeper
  induction up generalizing depth with
  | @top n orphan =>
    rw [List.getElem?_nil]
    refine ⟨nofun, ?_⟩
    intro above
    cases above with
    | parent child | up _ child =>
      rw [parent?_eq_some.mpr child] at orphan
      cases orphan
  | @up n p ps parent rest ih =>
    cases depth with
    | zero =>
      rw [List.getElem?_cons_zero, Option.some_inj]
      refine ⟨?_, ?_⟩
      · rintro rfl
        exact .parent (parent?_eq_some.mp parent)
      · rintro (child | _)
        exact Option.some.inj (parent.symm.trans (parent?_eq_some.mpr child))
    | succ depth =>
      rw [List.getElem?_cons_succ, ih]
      refine ⟨fun above => .up above (parent?_eq_some.mp parent), ?_⟩
      rintro (_ | ⟨above, child⟩)
      obtain rfl := Option.some.inj (parent.symm.trans (parent?_eq_some.mpr child))
      exact above

/-- The ancestors of a node are what is above it, at whatever depth. -/
lemma mem_ancestors_iff (lt : n < t.size) :
    m ∈ t.ancestors n ↔ ∃ depth, t.arena.Above m depth n := by
  rw [List.mem_iff_getElem?]
  exact exists_congr fun depth => getElem?_ancestors (ascends_ancestors lt)

/-- The nearest ancestor of some kinds is above, of these kinds, and no nearer one is. -/
lemma nearest?_eq_some {kinds : List Kind} (lt : n < t.size) :
    t.nearest? n kinds = some m ↔
      ∃ depth, t.arena.Above m depth n ∧ t.arena.HasKindIn kinds m ∧
        ∀ nearer < depth, ∀ k, t.arena.Above k nearer n → ¬ t.arena.HasKindIn kinds k := by
  have place {depth : Nat} {k : NodeId} :
      (t.ancestors n)[depth]? = some k ↔ t.arena.Above k depth n :=
    getElem?_ancestors (ascends_ancestors lt)
  rw [nearest?, List.find?_eq_some_iff_getElem]
  refine ⟨?_, ?_⟩
  · rintro ⟨kind, depth, lt_depth, found, first⟩
    refine ⟨depth, place.mp (List.getElem?_eq_some_iff.mpr ⟨lt_depth, found⟩),
      hasKindIn_iff.mp kind, ?_⟩
    intro nearer lt_nearer k above kind'
    obtain ⟨_, rfl⟩ := List.getElem?_eq_some_iff.mp (place.mpr above)
    have other := first nearer lt_nearer
    rw [hasKindIn_iff.mpr kind'] at other
    cases other
  · rintro ⟨depth, above, kind, first⟩
    obtain ⟨lt_depth, found⟩ := List.getElem?_eq_some_iff.mp (place.mpr above)
    refine ⟨hasKindIn_iff.mpr kind, depth, lt_depth, found, ?_⟩
    intro nearer lt_nearer
    have above' := place.mp (List.getElem?_eq_getElem (Nat.lt_trans lt_nearer lt_depth))
    rw [Bool.not_eq_true', Bool.eq_false_iff, Ne, hasKindIn_iff]
    exact first nearer lt_nearer _ above'

/-- The value of a node is what its declaration names. -/
lemma value?_eq_some :
    t.value? n = some m ↔ ∃ prop raw, t.arena.node? n = some (.declaration prop (some m) raw) := by
  rw [value?, Option.bind_eq_some_iff]
  refine ⟨?_, ?_⟩
  · rintro ⟨x, found, value⟩
    cases x with
    | declaration prop own raw =>
      obtain rfl : own = some m := value
      exact ⟨prop, raw, found⟩
    | _ => cases value
  · rintro ⟨prop, raw, found⟩
    exact ⟨_, found, rfl⟩

/-- The group of a node is what its value root or its value names. -/
lemma group?_eq_some :
    t.group? n = some m ↔
      t.arena.node? n = some (.valueRoot (some m)) ∨
        t.arena.node? n = some (.valueValue (some m)) := by
  rw [group?, Option.bind_eq_some_iff]
  refine ⟨?_, ?_⟩
  · rintro ⟨x, found, group⟩
    cases x with
    | valueRoot own =>
      obtain rfl : own = some m := group
      exact .inl found
    | valueValue own =>
      obtain rfl : own = some m := group
      exact .inr found
    | _ => cases group
  · rintro (found | found)
    · exact ⟨_, found, rfl⟩
    · exact ⟨_, found, rfl⟩

/-- A descent leads into a child that is named, and nowhere else. -/
lemma descend?_eq_some {c : NodeId} : t.descend? n c = some m ↔ m = c ∧ c ∈ t.children n := by
  by_cases own : t.parent? c = some n <;> simp [descend?, own, ← parent?_eq_some, eq_comm]

/-- A step leads to its targets and to nothing else. -/
lemma mem_targets_iff (lt : n < t.size) (step : Step) :
    m ∈ t.targets n step ↔ step.Seeks t.arena n m := by
  cases step with
  | children => rfl
  | child i => exact Option.mem_toList
  | value => exact Option.mem_toList.trans value?_eq_some
  | group => exact Option.mem_toList.trans group?_eq_some
  | parent => exact Option.mem_toList.trans parent?_eq_some
  | node => exact List.mem_singleton
  | ancestors => exact mem_ancestors_iff lt
  | ancestor depth => exact Option.mem_toList.trans (getElem?_ancestors (ascends_ancestors lt))
  | nearest kinds => exact Option.mem_toList.trans (nearest?_eq_some lt)
  | descend c => exact Option.mem_toList.trans descend?_eq_some

/-- A step gives no handle twice. -/
lemma nodup_targets (lt : n < t.size) (step : Step) : (t.targets n step).Nodup := by
  have single (o : Option NodeId) : o.toList.Nodup := by
    cases o with
    | none => exact List.nodup_nil
    | some m => exact List.nodup_singleton m
  cases step with
  | children => exact t.branches.children_nodup n
  | ancestors => exact (ascends_ancestors lt).nodup
  | node => exact List.nodup_singleton n
  | child _ | value | group | parent | ancestor _ | nearest _ | descend _ => exact single _

/-- What is above something is a node. -/
lemma above_lt {depth : Nat} (above : t.arena.Above m depth n) : m < t.size := by
  induction above with
  | parent child => exact Arena.lt_of_mem_children child
  | up _ _ ih => exact ih

/-- From a node a step leads to nodes. -/
lemma lt_of_mem_targets {step : Step} (lt : n < t.size) (mem : m ∈ t.targets n step) :
    m < t.size := by
  have sought := (mem_targets_iff lt step).mp mem
  cases step with
  | children => exact child_lt sought
  | child i => exact child_lt (List.mem_of_getElem? sought)
  | value => exact child_lt (mem_children_of_value? (value?_eq_some.mpr sought))
  | group => exact child_lt (mem_children_of_group? (group?_eq_some.mpr sought))
  | parent => exact Arena.lt_of_mem_children sought
  | node =>
    obtain rfl : m = n := sought
    exact lt
  | ancestors =>
    obtain ⟨depth, above⟩ := sought
    exact above_lt above
  | ancestor depth => exact above_lt sought
  | nearest kinds =>
    obtain ⟨depth, above, _⟩ := sought
    exact above_lt above
  | descend c =>
    obtain ⟨rfl, child⟩ := sought
    exact child_lt child

/-- The walk over a tree reads nothing out of bounds. -/
lemma start_walk (t : Tree) : t.start .walk = .ok t.walk :=
  readWalk_eq (List.forall_mem_singleton.mpr t.root_lt)

/-- The first handles are nodes. -/
lemma start_inBounds (t : Tree) (s : Start) : ∃ ns, t.start s = .ok ns ∧ ∀ n ∈ ns, n < t.size := by
  cases s with
  | root => exact ⟨_, rfl, List.forall_mem_singleton.mpr t.root_lt⟩
  | get n =>
    refine ⟨_, rfl, ?_⟩
    intro m mem
    by_cases has : t.has n = true
    · rw [if_pos has] at mem
      obtain rfl := List.mem_singleton.mp mem
      exact has_iff.mp has
    · rw [if_neg has] at mem
      cases mem
  | walk =>
    refine ⟨_, t.start_walk, ?_⟩
    intro n mem
    exact List.mem_range.mp (t.walk_perm.mem_iff.mp mem)

/-- One step from each of some nodes gives the targets from each of them. -/
lemma mapM_follow_eq (lt : ∀ n ∈ ns, n < t.size) (step : Step) :
    ns.mapM (t.follow · step) = .ok (ns.map (t.targets · step)) := by
  induction ns with
  | nil => rfl
  | cons n ns ih =>
    obtain ⟨lt_n, lt_ns⟩ := List.forall_mem_cons.mp lt
    rw [List.mapM_cons, follow_eq lt_n, ih lt_ns]
    rfl

/-- From nodes a step leads to nodes. -/
lemma lt_of_mem_flatMap_targets (step : Step) (lt : ∀ n ∈ ns, n < t.size) :
    ∀ m ∈ ns.flatMap (t.targets · step), m < t.size := by
  intro m mem
  obtain ⟨n, from_n, target⟩ := List.mem_flatMap.mp mem
  exact lt_of_mem_targets (lt n from_n) target

/-- A run of steps from nodes leads to nodes. -/
lemma lt_of_mem_targetsAlong (steps : List Step) (lt : ∀ n ∈ ns, n < t.size) :
    ∀ m ∈ t.targetsAlong steps ns, m < t.size := by
  induction steps generalizing ns with
  | nil => exact lt
  | cons step steps ih => exact ih (lt_of_mem_flatMap_targets step lt)

/-- A run of steps from nodes reads nothing out of bounds, and gives the targets of the run. -/
lemma navigate_eq (steps : List Step) (lt : ∀ n ∈ ns, n < t.size) :
    t.navigate steps ns = .ok (t.targetsAlong steps ns) := by
  induction steps generalizing ns with
  | nil => rfl
  | cons step steps ih =>
    have rest := ih (lt_of_mem_flatMap_targets step lt)
    rw [navigate, mapM_follow_eq lt]
    rw [List.flatMap_def] at rest
    exact rest

/-- A cursor put on an id reports this id, when it is a node. -/
lemma navigate_get (n : NodeId) :
    (t.start (.get n) >>= t.navigate [.node]) = .ok (if n < t.size then [n] else []) := by
  by_cases lt : n < t.size
  · have started : t.start (.get n) = .ok [n] := by
      rw [start, if_pos (has_iff.mpr lt)]
    have stays : t.navigate [.node] [n] = .ok [n] := by
      have next : [n].mapM (t.follow · .node) = .ok [[n]] :=
        mapM_follow_eq (List.forall_mem_singleton.mpr lt) .node
      rw [navigate, next]
      rfl
    rw [started, if_pos lt]
    exact stays
  · have started : t.start (.get n) = .ok [] := by
      rw [start, if_neg (lt ∘ has_iff.mp)]
    rw [started, if_neg lt]
    rfl

end StyleTree.Tree

namespace StyleTree

/--
No run of steps through a tree reads out of bounds, from whatever handle it begins, and all the
handles that it ends with are nodes, so that a cursor on one is on that very node. A handle is got
for each id that is a node, and for no other. A new cursor is on the root, and the walk gives the
nodes in the order of the walk. A run from nodes gives the targets of its steps, one step after the
other. From every node a step gives its targets, as told by the lists of children, and no other
node.
-/
theorem Arena.finish_navigation {a : Arena} {root : NodeId} {t : Tree}
    (h : a.finish root = .ok t) :
    (∀ s steps, ∃ ns, (t.start s >>= t.navigate steps) = .ok ns ∧
        ∀ n ∈ ns, n < a.nodes.size ∧ t.underCursor n = n) ∧
      (∀ n, (t.start (.get n) >>= t.navigate [.node]) =
        .ok (if n < a.nodes.size then [n] else [])) ∧
      t.start .root = .ok [root] ∧ t.start .walk = .ok t.walk ∧
      (∀ ns, (∀ n ∈ ns, n < a.nodes.size) → ∀ steps,
        t.navigate steps ns = .ok (t.targetsAlong steps ns)) ∧
      ∀ n < a.nodes.size, ∀ step,
        t.follow n step = .ok (t.targets n step) ∧ (t.targets n step).Nodup ∧
          ∀ m, m ∈ t.targets n step ↔ step.Seeks a n m := by
  obtain ⟨rfl, rfl⟩ := eq_of_finish h
  refine ⟨?_, ?_, rfl, t.start_walk, ?_, ?_⟩
  · intro s steps
    obtain ⟨first, started, first_lt⟩ := t.start_inBounds s
    refine ⟨t.targetsAlong steps first, ?_, ?_⟩
    · rw [started]
      exact Tree.navigate_eq steps first_lt
    · intro n mem
      have lt := Tree.lt_of_mem_targetsAlong steps first_lt n mem
      exact ⟨lt, Tree.underCursor_eq lt⟩
  · exact Tree.navigate_get
  · intro ns lt steps
    exact Tree.navigate_eq steps lt
  · intro n lt step
    exact ⟨Tree.follow_eq lt step, Tree.nodup_targets lt step,
      fun m => Tree.mem_targets_iff lt step⟩

/-- Two steps from a deep node, to its ancestors and from each to its second child. -/
theorem Arena.finish_navigation_crossed :
    ∃ t, (Arena.mk #[.commaGroup [2, 1], .word "a" "", .valueValue (some 3), .colon]).finish 0 =
        .ok t ∧
      (∃ ns, (t.start (.get 3) >>= t.navigate [.ancestors, .child 1]) = .ok ns ∧
        ∀ n ∈ ns, n < 4 ∧ t.underCursor n = n) ∧
      (t.start (.get 4) >>= t.navigate [.node]) = .ok [] ∧
      t.navigate [.ancestors, .child 1] [3] = .ok (t.targetsAlong [.ancestors, .child 1] [3]) ∧
      1 ∈ t.targets 0 (.child 1) := by
  obtain ⟨t, h⟩ : ∃ t,
      (Arena.mk #[.commaGroup [2, 1], .word "a" "", .valueValue (some 3), .colon]).finish 0 =
        .ok t := ⟨_, rfl⟩
  obtain ⟨runs, placed, _, _, along, steps⟩ := Arena.finish_navigation h
  obtain ⟨_, _, sought⟩ := steps 0 (by decide) (.child 1)
  exact ⟨t, h, runs (.get 3) [.ancestors, .child 1], placed 4, along [3] (by decide) _,
    (sought 1).mpr rfl⟩

end StyleTree
