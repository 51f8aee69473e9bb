import StyleTree.Document.Part
import StyleTree.Proofs.Loading
import StyleTree.Proofs.MapEntry

/-!
# Literals in their context

A document and its tree are followed down side by side. A node that shows a document is of its kind,
and the children of the node show the parts of the document (`Tree.Shows.rel_child?`), so going
along places in one is going along them in the other. The documents that are left on the way are of
the kinds of the ancestors, and where none of them is a declaration none is found from below
(`Tree.Shows.exists_childAlong?`). A literal of keys and values says by itself that it is one
(`Tree.Shows.isKeyValueContainer`), and its value and the root of the value stand around it wherever
it is a value (`Tree.Shows.exists_wraps`). So what a literal is depends on the declaration around it
and on nothing else.
-/

namespace StyleTree

/-- Lists whose elements are related one by one are related at every place. -/
lemma rel_getElem? {α β : Type} {r : α → β → Prop} {xs : List α} {ys : List β}
    (all : List.Forall₂ r xs ys) (i : Nat) : Option.Rel r xs[i]? ys[i]? := by
  induction all generalizing i with
  | nil => exact .none
  | cons first _ ih =>
    cases i with
    | zero => exact .some first
    | succ i => exact ih i

namespace Document

/-- The subtrees of a nested tree are those of the parts. -/
lemma children_nested (d : Document) : d.nested.children = d.parts.map nested := by
  cases d with
  | root nodes => exact nestedAll_eq_map nodes
  | declaration prop value raws => rcases value with _ | _ | value <;> rfl
  | atRule name params raws nodes =>
    rcases params with _ | _ | params
    · exact nestedAll_eq_map nodes
    · exact nestedAll_eq_map nodes
    · exact congrArg (params.nested :: ·) (nestedAll_eq_map nodes)
  | rule selector raws nodes => exact nestedAll_eq_map nodes
  | valueRoot group | valueValue group => cases group <;> rfl
  | commaGroup groups => exact nestedAll_eq_map groups
  | parenGroup opening closing groups => exact nestedAll_eq_map groups
  | function name group groups =>
    cases group with
    | none => exact nestedAll_eq_map groups
    | some group => exact congrArg (group.nested :: ·) (nestedAll_eq_map groups)
  | word | operator | colon | other => rfl

/-- The label of a nested tree has the kind of the document. -/
lemma kind_label_nested (d : Document) : d.nested.label.kind = d.kind := by
  cases d with
  | atRule name params raws nodes => rcases params with _ | _ | params <;> rfl
  | _ => rfl

/-- Places are followed into a part and then on from there. -/
lemma partAlong?_cons {d e : Document} {i : Nat} {places : List Nat} :
    d.partAlong? (i :: places) = some e ↔
      ∃ f, d.parts[i]? = some f ∧ f.partAlong? places = some e := by
  rw [partAlong?, List.foldlM_cons, Option.bind_eq_bind, Option.bind_eq_some_iff]
  rfl

end Document

open Document (asValue)

namespace Tree

variable {t : Tree} {n m c : NodeId} {d e g : Document} {i : Nat} {places places' : List Nat}

/-- Places are followed to a child and then on from there. -/
lemma childAlong?_cons :
    t.childAlong? n (i :: places) = some m ↔
      ∃ c, t.child? n i = some c ∧ t.childAlong? c places = some m := by
  rw [childAlong?, List.foldlM_cons, Option.bind_eq_bind, Option.bind_eq_some_iff]
  rfl

/-- Places after others are followed on from where the others end. -/
lemma childAlong?_append (along : t.childAlong? n places = some m) :
    t.childAlong? n (places ++ places') = t.childAlong? m places' := by
  rw [childAlong?, List.foldlM_append, show places.foldlM t.child? n = some m from along]
  rfl

namespace Shows

/-- Where a document is shown there is a node with its label. -/
lemma exists_node? (shows : t.Shows n d) : ∃ x, t.node? n = some x ∧ x.label = d.nested.label :=
  Option.map_eq_some_iff.mp shows.label?

/-- A node is of the kind of the document that it shows. -/
lemma isKind (shows : t.Shows n d) (kind : Kind) : t.isKind n kind = (d.kind == kind) := by
  obtain ⟨x, found, label⟩ := shows.exists_node?
  rw [Tree.isKind, kind?, found, Option.map_some, ← x.kind_label, label, d.kind_label_nested]
  rfl

/-- Where a declaration is shown the node declares its property. -/
lemma prop? {prop : Option String} {value : Option (Content Document)} {raws : Raws}
    (shows : t.Shows n (.declaration prop value raws)) : t.prop? n = prop := by
  obtain ⟨x, found, label⟩ := shows.exists_node?
  rw [Tree.prop?, found, Option.bind_some]
  cases x with
  | declaration => exact (Label.declaration.inj label).1
  | _ => cases label

/-- The children of a node show the parts of what the node shows, place by place. -/
lemma rel_child? (shows : t.Shows n d) (i : Nat) :
    Option.Rel t.Shows (t.child? n i) d.parts[i]? := by
  have all : List.Forall₂ t.Shows (t.children n) d.parts := by
    have reads := shows.forall₂
    rw [d.children_nested, List.forall₂_map_right_iff] at reads
    exact reads
  exact rel_getElem? all i

/-- Where a document is shown its parts are shown by the children, place by place. -/
lemma exists_child? (shows : t.Shows n d) (part : d.parts[i]? = some e) :
    ∃ c, t.child? n i = some c ∧ t.Shows c e := by
  have rel := shows.rel_child? i
  rw [part] at rel
  cases child : t.child? n i with
  | none =>
    rw [child] at rel
    cases rel
  | some c =>
    rw [child] at rel
    cases rel with
    | some below => exact ⟨c, rfl, below⟩

/-- A test of children that their documents answer. -/
lemma any_child? {f : NodeId → Bool} {f' : Document → Bool} (shows : t.Shows n d)
    (agree : ∀ {c e}, t.Shows c e → f c = f' e) : (t.child? n i).any f = (d.parts[i]?).any f' := by
  have rel := shows.rel_child? i
  generalize t.child? n i = child at rel ⊢
  generalize d.parts[i]? = part at rel ⊢
  cases rel with
  | none => rfl
  | some below => exact agree below

/-- A node is a key and a value as the document is that it shows. -/
lemma isKeyValuePair (shows : t.Shows n d) : t.isKeyValuePair n = d.isKeyValuePair := by
  rw [Tree.isKeyValuePair, Document.isKeyValuePair, shows.isKind,
    shows.any_child? fun below => below.isKind .colon]

/-- Whether a literal holds keys and values is told by the literal, in every context. -/
lemma isKeyValueContainer (shows : t.Shows n d) :
    t.isKeyValueContainer n = d.isKeyValueContainer := by
  rw [Tree.isKeyValueContainer, Document.isKeyValueContainer, isParenGroup, shows.isKind,
    shows.any_child? isKeyValuePair]

/--
What is below a node at some places is shown there. If nothing that is left on the way is a
declaration, then the nearest declaration is still the one around the node.
-/
lemma exists_childAlong? (shows : t.Shows n d) (along : d.partAlong? places = some e) :
    ∃ m, t.childAlong? n places = some m ∧ t.Shows m e ∧
      ((∀ f ∈ d.around places, f.kind ≠ .declaration) →
        t.nearest? m [.declaration] = t.nearest? n [.declaration]) := by
  induction places generalizing d n with
  | nil =>
    obtain rfl := Option.some.inj along
    exact ⟨n, rfl, shows, fun _ => rfl⟩
  | cons i places ih =>
    obtain ⟨f, part, rest⟩ := Document.partAlong?_cons.mp along
    obtain ⟨c, child, below⟩ := shows.exists_child? part
    obtain ⟨m, path, shown, nearest⟩ := ih below rest
    refine ⟨m, childAlong?_cons.mpr ⟨c, child, path⟩, shown, ?_⟩
    intro others
    rw [Document.around, part, Option.elim_some, List.forall_mem_cons] at others
    have other : t.isKind n .declaration = false := by
      rw [shows.isKind, beq_false_of_ne others.1]
    rw [nearest others.2, nearest?_child (parent?_child child), other]
    rfl

/-- The first part of a document is a value: there is a node for the group, inside of two others. -/
lemma exists_wraps (shows : t.Shows n d) (value : d.parts[0]? = some (asValue g)) :
    ∃ v w m, t.childAlong? n [0, 0, 0] = some m ∧ t.Shows m g ∧ t.WrapsValue n v w m := by
  obtain ⟨v, root, shows_root⟩ := shows.exists_child? value
  obtain ⟨w, wrapped, shows_value⟩ := shows_root.exists_child? (i := 0) rfl
  obtain ⟨m, group, shown⟩ := shows_value.exists_child? (i := 0) rfl
  have path : t.childAlong? v [0, 0] = some m :=
    childAlong?_cons.mpr ⟨w, wrapped, childAlong?_cons.mpr ⟨m, group, rfl⟩⟩
  refine ⟨v, w, m, childAlong?_cons.mpr ⟨v, root, path⟩, shown, ?_⟩
  exact ⟨parent?_child root, shows_root.isKind _, parent?_child wrapped, shows_value.isKind _,
    parent?_child group⟩

end Shows

end Tree

/--
The same literal in different contexts. As the value of a declaration, at any place of a document,
a group of keys and values in parentheses is a map entry exactly when the property begins with a
dollar. As the parameters of an at-rule with no declaration around it, it never is. Whether it is a
group of keys and values depends on the literal only. Inside of such a group and of all others,
however deep, each group that is not empty and stands in an entry is a map entry.
-/
theorem Document.literal_by_context {text : String} {doc : Document}
    (read : ofText text = .ok doc) :
    ∃ t, load text = .ok t ∧
      (∀ places prop raws group,
        doc.partAlong? places = some (.declaration prop (some (.parsed (asValue group))) raws) →
        ∃ m, t.childAlong? t.root (places ++ [0, 0, 0]) = some m ∧ t.Shows m group ∧
          t.isKeyValueContainer m = group.isKeyValueContainer ∧
          (t.isKeyValueContainer m = true →
            (t.isMapEntry m = true ↔
              ∃ name, prop = some name ∧ ['$'] <+: name.toList))) ∧
      (∀ places name raws nodes group,
        doc.partAlong? places = some (.atRule name (some (.parsed (asValue group))) raws nodes) →
        (∀ d ∈ doc.around places, d.kind ≠ .declaration) →
        ∃ m, t.childAlong? t.root (places ++ [0, 0, 0]) = some m ∧ t.Shows m group ∧
          t.isKeyValueContainer m = group.isKeyValueContainer ∧
          (t.isKeyValueContainer m = true → t.isMapEntry m = false)) ∧
      ∀ c, t.isKeyValueContainer c = true → ∀ e ∈ t.children c, ∀ k ∈ t.children e,
        t.isMapEntry k = (t.isGroup k && !(t.children k).isEmpty) := by
  obtain ⟨t, built, reads, _⟩ := doc.exists_toTree
  have shows : t.Shows t.root doc := reads
  refine ⟨t, load_of_ofText read built, ?_, ?_, ?_⟩
  · intro places prop raws group along
    obtain ⟨n, path, shows_n, _⟩ := shows.exists_childAlong? along
    obtain ⟨v, w, m, path', shown, wraps⟩ := shows_n.exists_wraps rfl
    refine ⟨m, (Tree.childAlong?_append path).trans path', shown, shown.isKeyValueContainer, ?_⟩
    intro container
    rw [wraps.isMapEntry_of_declaration container (shows_n.isKind _), shows_n.prop?,
      Option.any_eq_true]
    simp only [List.isPrefixOf_iff_prefix]
  · intro places name raws nodes group along others
    obtain ⟨n, path, shows_n, nearest⟩ := shows.exists_childAlong? along
    obtain ⟨v, w, m, path', shown, wraps⟩ := shows_n.exists_wraps rfl
    refine ⟨m, (Tree.childAlong?_append path).trans path', shown, shown.isKeyValueContainer, ?_⟩
    intro container
    have outside : t.nearest? n [.declaration] = none := by
      rw [nearest others, t.nearest?_root]
    exact wraps.isMapEntry_of_no_declaration container (shows_n.isKind _) outside
  · intro c container e entry k inside
    exact Tree.isMapEntry_of_container container entry inside

/-- The literal `(a:)`. -/
def Document.oneKey : Document :=
  .parenGroup none none [.commaGroup [.word "a" .empty, .colon]]

/-- The text of `$map: (a:)` and `@media (a:)`, with the types of the nodes as numbers. -/
def Document.oneKeyTwice : String :=
  "[0,[[1,\"$map\",[4,[5,[7,null,null,[[6,[[9,\"a\"],[11]]]]]]]]," ++
    "[2,\"media\",[4,[5,[7,null,null,[[6,[[9,\"a\"],[11]]]]]]]]]]"

/-- In `$map: (a:)` the literal is a map entry, and in `@media (a:)` it is not. -/
theorem Document.literal_by_context_both :
    ∃ t m n, load oneKeyTwice = .ok t ∧ t.Shows m oneKey ∧ t.Shows n oneKey ∧
      t.isMapEntry m = true ∧ t.isMapEntry n = false := by
  have read : ofText oneKeyTwice =
      .ok (.root [.declaration (some "$map") (some (.parsed (asValue oneKey))) .empty,
        .atRule "media" (some (.parsed (asValue oneKey))) .empty []]) := by
    cbv
  obtain ⟨t, loaded, values, params, _⟩ := literal_by_context read
  obtain ⟨m, _, shows_m, same_m, map⟩ := values [0] _ _ _ rfl
  obtain ⟨n, _, shows_n, same_n, no_map⟩ := params [1] _ _ _ _ rfl (by decide)
  have entry : t.isMapEntry m = true := (map same_m).mpr ⟨"$map", rfl, by decide⟩
  exact ⟨t, m, n, loaded, shows_m, shows_n, entry, no_map same_n⟩

end StyleTree
