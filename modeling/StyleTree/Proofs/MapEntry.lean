import StyleTree.Proofs.Environment

/-!
# Maps assigned to variables

Whether a group belongs to a map is asked of the group and of its grandparent. Above a group that
is a value stand the value and its root, which say nothing about maps, so the declaration around
them decides alone (`WrapsValue.isMapEntry_group`). When a map is assigned to a variable, it is the
nearest declaration for the parentheses and for what is in them (`AssignsMap.nearest?_map`,
`AssignsMap.nearest?_entry`). The parentheses answer for themselves, and for what is inside an
entry, whose grandparent they are. An entry has the value as grandparent and is left to answer for
itself (`AssignsMap.isMapEntry_entry`), which a key and a value cannot, since they are not in
parentheses (`not_isKeyValueContainer_of_isKeyValuePair`).
-/

namespace StyleTree

namespace Tree

/--
The declaration `d` assigns a map to a variable: its value, which `v` and `w` wrap, is the group
`g` of keys and values in parentheses.
-/
structure AssignsMap (t : Tree) (d v w g : NodeId) : Prop where
  isDeclaration : t.isKind d .declaration
  isVariable : (t.prop? d).any (['$'].isPrefixOf ·.toList)
  value? : t.value? d = some v
  isValueRoot : t.isKind v .valueRoot
  group?_root : t.group? v = some w
  isValueValue : t.isKind w .valueValue
  group?_value : t.group? w = some g
  isContainer : t.isKeyValueContainer g

variable {t : Tree} {d v w g n e k : NodeId}

/-- A node is of one kind only. -/
lemma isKind_eq {kind : Kind} (isKind : t.isKind n kind) (kind' : Kind) :
    t.isKind n kind' = (kind == kind') := by
  rw [Tree.isKind, beq_iff_eq] at isKind
  rw [Tree.isKind, isKind]
  rfl

/-- A group in parentheses is a group. -/
lemma isGroup_of_isParenGroup (paren : t.isParenGroup n) : t.isGroup n := by
  obtain ⟨x, found, kind⟩ := exists_of_isKind paren
  rw [isGroup, found, Option.any_some]
  exact x.isGroup_iff_kind.mpr (.inr (.inl kind))

/-- What holds keys and values is a group in parentheses. -/
lemma isParenGroup_of_isKeyValueContainer (container : t.isKeyValueContainer n) :
    t.isParenGroup n := by
  rw [isKeyValueContainer, Bool.and_eq_true] at container
  exact container.1

/-- A container is not empty, because its first child tells that it is one. -/
lemma children_ne_nil_of_isKeyValueContainer (container : t.isKeyValueContainer n) :
    (t.children n).isEmpty = false := by
  rw [isKeyValueContainer, Bool.and_eq_true, child?] at container
  cases children : t.children n with
  | nil =>
    rw [children] at container
    cases container.2
  | cons => rfl

/-- A key and a value are a comma group, so they are not in parentheses of their own. -/
lemma not_isKeyValueContainer_of_isKeyValuePair (pair : t.isKeyValuePair n) :
    t.isKeyValueContainer n = false := by
  rw [isKeyValuePair, Bool.and_eq_true] at pair
  rw [isKeyValueContainer, isParenGroup, isKind_eq pair.1]
  rfl

/-- In the value of a variable, only keys and values have to be near. -/
lemma isMapEntry_of_variable (inside : t.insideVariableDeclaration n) :
    t.isMapEntry n =
      (t.isGroup n && !(t.children n).isEmpty &&
        (t.isKeyValueContainer n || (t.ancestor? n 1).any t.isKeyValueContainer)) := by
  rw [isMapEntry, inside, Bool.true_or, Bool.true_or, Bool.and_true]

/-- Every group that is not empty and stands in an entry of a container belongs to a map. -/
lemma isMapEntry_of_container (container : t.isKeyValueContainer g) (entry : e ∈ t.children g)
    (inside : k ∈ t.children e) : t.isMapEntry k = (t.isGroup k && !(t.children k).isEmpty) := by
  have grandparent : t.ancestor? k 1 = some g := by
    rw [ancestor?_one (parent?_eq_some.mpr inside), parent?_eq_some.mpr entry]
  have inMap : (t.ancestor? k 1).any t.isKeyValueContainer = true := by
    rw [grandparent, Option.any_some, container]
  rw [isMapEntry, inMap, Bool.or_true, Bool.or_true, Bool.true_or, Bool.and_true, Bool.and_true]

/--
The group `g` is a value as `p` has one: the root `v` and the value `w` stand between the two.
-/
structure WrapsValue (t : Tree) (p v w g : NodeId) : Prop where
  parent?_root : t.parent? v = some p
  isValueRoot : t.isKind v .valueRoot
  parent?_value : t.parent? w = some v
  isValueValue : t.isKind w .valueValue
  parent?_group : t.parent? g = some w

namespace WrapsValue

variable {p : NodeId}

/-- What wraps a group is no declaration, so the search goes on to what has the value. -/
lemma nearest?_group (wraps : t.WrapsValue p v w g) :
    t.nearest? g [.declaration] =
      if t.isKind p .declaration then some p else t.nearest? p [.declaration] := by
  rw [nearest?_child wraps.parent?_group, isKind_eq wraps.isValueValue,
    nearest?_child wraps.parent?_value, isKind_eq wraps.isValueRoot,
    nearest?_child wraps.parent?_root]
  rfl

/-- The grandparent is neither a map nor a function, so only a variable makes a map of the group. -/
lemma isMapEntry_group (wraps : t.WrapsValue p v w g) (container : t.isKeyValueContainer g) :
    t.isMapEntry g = t.insideVariableDeclaration g := by
  have grandparent : t.ancestor? g 1 = some v := by
    rw [ancestor?_one wraps.parent?_group, wraps.parent?_value]
  have noContainer : t.isKeyValueContainer v = false := by
    rw [isKeyValueContainer, isParenGroup, isKind_eq wraps.isValueRoot]
    rfl
  have noFunction : t.isKind v .function = false := isKind_eq wraps.isValueRoot .function
  rw [isMapEntry, isGroup_of_isParenGroup (isParenGroup_of_isKeyValueContainer container),
    children_ne_nil_of_isKeyValueContainer container, container, grandparent, Option.any_some,
    Option.any_some, noContainer, noFunction, Bool.or_false, Bool.or_false, Bool.or_false]
  rfl

/-- The value of a declaration is a map when the declaration is of a variable. -/
lemma isMapEntry_of_declaration (wraps : t.WrapsValue p v w g)
    (container : t.isKeyValueContainer g) (declaration : t.isKind p .declaration) :
    t.isMapEntry g = (t.prop? p).any (['$'].isPrefixOf ·.toList) := by
  rw [wraps.isMapEntry_group container, Tree.insideVariableDeclaration, wraps.nearest?_group,
    if_pos declaration]
  rfl

/-- Any other value is no map unless there is a declaration further out. -/
lemma isMapEntry_of_no_declaration (wraps : t.WrapsValue p v w g)
    (container : t.isKeyValueContainer g) (other : t.isKind p .declaration = false)
    (outside : t.nearest? p [.declaration] = none) : t.isMapEntry g = false := by
  rw [wraps.isMapEntry_group container, Tree.insideVariableDeclaration, wraps.nearest?_group,
    other, outside]
  rfl

end WrapsValue

namespace AssignsMap

/-- An assigned map is wrapped as the value of its declaration. -/
lemma wraps (assigns : t.AssignsMap d v w g) : t.WrapsValue d v w g where
  parent?_root := parent?_eq_some.mpr (mem_children_of_value? assigns.value?)
  isValueRoot := assigns.isValueRoot
  parent?_value := parent?_eq_some.mpr (mem_children_of_group? assigns.group?_root)
  isValueValue := assigns.isValueValue
  parent?_group := parent?_eq_some.mpr (mem_children_of_group? assigns.group?_value)

/-- Between the parentheses and the declaration there is no other declaration. -/
lemma nearest?_map (assigns : t.AssignsMap d v w g) : t.nearest? g [.declaration] = some d := by
  rw [assigns.wraps.nearest?_group, if_pos assigns.isDeclaration]

/-- Between an entry and the declaration there is no other declaration. -/
lemma nearest?_entry (assigns : t.AssignsMap d v w g) (entry : e ∈ t.children g) :
    t.nearest? e [.declaration] = some d := by
  have paren := isParenGroup_of_isKeyValueContainer assigns.isContainer
  rw [nearest?_child (parent?_eq_some.mpr entry), isKind_eq paren, ← assigns.nearest?_map]
  rfl

/-- What has the declaration nearest to it is inside of the declaration of a variable. -/
lemma insideVariableDeclaration (assigns : t.AssignsMap d v w g)
    (nearest : t.nearest? n [.declaration] = some d) : t.insideVariableDeclaration n := by
  rw [Tree.insideVariableDeclaration, nearest, Option.bind_some]
  exact assigns.isVariable

/-- The map itself is answered as an entry. -/
lemma isMapEntry_map (assigns : t.AssignsMap d v w g) : t.isMapEntry g = true := by
  rw [assigns.wraps.isMapEntry_of_declaration assigns.isContainer assigns.isDeclaration]
  exact assigns.isVariable

/-- The grandparent of an entry is the value, so the entry answers for itself. -/
lemma isMapEntry_entry (assigns : t.AssignsMap d v w g) (entry : e ∈ t.children g) :
    t.isMapEntry e = t.isKeyValueContainer e := by
  have grandparent : t.ancestor? e 1 = some w := by
    rw [ancestor?_one (parent?_eq_some.mpr entry), assigns.wraps.parent?_group]
  have noContainer : t.isKeyValueContainer w = false := by
    rw [isKeyValueContainer, isParenGroup, isKind_eq assigns.isValueValue]
    rfl
  rw [isMapEntry_of_variable (assigns.insideVariableDeclaration (assigns.nearest?_entry entry)),
    grandparent, Option.any_some, noContainer, Bool.or_false]
  -- of a container, the tests before are true
  cases container : t.isKeyValueContainer e with
  | false => rw [Bool.and_false]
  | true =>
    rw [isGroup_of_isParenGroup (isParenGroup_of_isKeyValueContainer container),
      children_ne_nil_of_isKeyValueContainer container]
    rfl

/-- Inside of an entry every group that is not empty is answered as an entry. -/
lemma isMapEntry_inside (assigns : t.AssignsMap d v w g) (entry : e ∈ t.children g)
    (inside : k ∈ t.children e) : t.isMapEntry k = (t.isGroup k && !(t.children k).isEmpty) :=
  isMapEntry_of_container assigns.isContainer entry inside

end AssignsMap

end Tree

/--
Of a map that is assigned to a variable, the parentheses are a map entry and the entries that are a
key and a value are not, whatever is in them. Inside every entry, each group that is not empty is
one.
-/
theorem Tree.assignsMap_entries {t : Tree} {d v w g : NodeId} (assigns : t.AssignsMap d v w g) :
    t.isMapEntry g = true ∧
      ∀ e ∈ t.children g,
        (t.isMapEntry e = t.isKeyValueContainer e) ∧
        (t.isKeyValuePair e = true → t.isMapEntry e = false) ∧
        ∀ k ∈ t.children e, t.isMapEntry k = (t.isGroup k && !(t.children k).isEmpty) := by
  refine ⟨assigns.isMapEntry_map, ?_⟩
  intro e entry
  refine ⟨assigns.isMapEntry_entry entry, ?_, ?_⟩
  · intro pair
    rw [assigns.isMapEntry_entry entry, not_isKeyValueContainer_of_isKeyValuePair pair]
  · intro k inside
    exact assigns.isMapEntry_inside entry inside

/-- The nodes of the assignment `$map: (a: 1, b: 2)`. -/
def Arena.twoEntries : Arena :=
  ⟨#[.word "a" "", .colon, .word "1" " ", .commaGroup [0, 1, 2],
    .word "b" " ", .colon, .word "2" " ", .commaGroup [4, 5, 6],
    .parens [3, 7], .valueValue (some 8), .valueRoot (some 9), .assignment "$map" 10, .root [11]]⟩

/-- The tree of the assignment, with its map and the two entries. -/
lemma Arena.twoEntries_finish {t : Tree} (h : twoEntries.finish 12 = .ok t) :
    t.AssignsMap 11 10 9 8 ∧ t.children 8 = [3, 7] ∧
      t.isKeyValuePair 3 = true ∧ t.isKeyValuePair 7 = true := by
  obtain ⟨arena, root⟩ := t
  obtain ⟨rfl, rfl⟩ := eq_of_finish h
  exact ⟨⟨rfl, rfl, rfl, rfl, rfl, rfl, rfl, rfl⟩, rfl, rfl, rfl⟩

/-- In `$map: (a: 1, b: 2)`, the parentheses are a map entry, and `a: 1` and `b: 2` are not. -/
theorem Tree.assignsMap_entries_two :
    ∃ t, Arena.twoEntries.finish 12 = .ok t ∧ t.AssignsMap 11 10 9 8 ∧
      t.isMapEntry 8 = true ∧ t.isMapEntry 3 = false ∧ t.isMapEntry 7 = false := by
  obtain ⟨t, h⟩ : ∃ t, Arena.twoEntries.finish 12 = .ok t := ⟨_, rfl⟩
  obtain ⟨assigns, entries, first, second⟩ := Arena.twoEntries_finish h
  obtain ⟨parens, each⟩ := Tree.assignsMap_entries assigns
  rw [entries] at each
  obtain ⟨_, not_first, _⟩ := each 3 (by decide)
  obtain ⟨_, not_second, _⟩ := each 7 (by decide)
  exact ⟨t, h, assigns, parens, not_first first, not_second second⟩

/-- Not every key and value of a map that is assigned to a variable is a map entry. -/
theorem Tree.not_every_pair_isMapEntry :
    ¬ ∀ (a : Arena) (root : NodeId) (t : Tree), a.finish root = .ok t →
      ∀ d v w g, t.AssignsMap d v w g →
        ∀ e ∈ t.children g, t.isKeyValuePair e = true → t.isMapEntry e = true := by
  intro every
  obtain ⟨t, h⟩ : ∃ t, Arena.twoEntries.finish 12 = .ok t := ⟨_, rfl⟩
  obtain ⟨assigns, entries, pair, _⟩ := Arena.twoEntries_finish h
  have entry : 3 ∈ t.children 8 := by
    rw [entries]
    decide
  have holds := every _ _ t h 11 10 9 8 assigns 3 entry pair
  rw [assigns.isMapEntry_entry entry, not_isKeyValueContainer_of_isKeyValuePair pair] at holds
  cases holds

end StyleTree
