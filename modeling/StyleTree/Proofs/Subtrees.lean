import StyleTree.Document.Nested
import StyleTree.Proofs.Agreement
import StyleTree.Proofs.Fit

/-!
# Subtrees of what was read

The nested tree of a node falls into two parts. The subtrees are those that its fields give, in the
order of the table (`Document.children_of_ofFields?`). The label takes nothing from the nodes in the
fields but that they are there: a node that is read from bare fields is the bare node
(`Document.ofFields?_bare`), so fields that agree when they are bare give the same label
(`Document.label_congr`).
-/

namespace StyleTree

/-- A value with the same parts, of which no more is told than that they are nodes. -/
def Reading.bare (r : Reading) : Reading :=
  ⟨r.source, r.node?.map fun _ => .colon, r.nodes?.map fun _ => []⟩

/-- Content of which no more is told than that it is a node. -/
def Content.bare : Content Document → Content Document
  | .text s => .text s
  | .parsed _ => .parsed .colon

/-- A node without what is below it. -/
def Document.bare : Document → Document
  | .root _ => .root []
  | .declaration prop value raws => .declaration prop (value.map Content.bare) raws
  | .atRule name params raws _ => .atRule name (params.map Content.bare) raws []
  | .rule selector raws _ => .rule selector raws []
  | .valueRoot group => .valueRoot (group.map fun _ => .colon)
  | .valueValue group => .valueValue (group.map fun _ => .colon)
  | .commaGroup _ => .commaGroup []
  | .parenGroup opening closing _ => .parenGroup opening closing []
  | .function name group _ => .function name (group.map fun _ => .colon) []
  | .word value raws => .word value raws
  | .operator value => .operator value
  | .colon => .colon
  | .other name => .other name

/-- The label of a node. -/
def Document.label (d : Document) : Label :=
  d.nested.label

/-- The nested trees that a value gives to the node that asks for it in the role. -/
def Role.forest? : Role → Json → Option (List (Rose Label))
  | .node, j | .content, j => (Document.ofJson? j).map fun d => [d.nested]
  | .nodes, j => (Reading.ofJson j).nodes?.map Document.nestedAll
  | .text, _ | .spelling, _ | .selector, _ | .raws, _ => none

/-- The nested trees that all values of a field give. -/
def Role.forest (role : Role) (js : List Json) : List (Rose Label) :=
  js.flatMap fun j => (role.forest? j).getD []

namespace Reading

variable {α β : Type} {r : Reading}

/-- What is read of a value alone is read without its parts. -/
lemma orNull_source_bare (read : Json → Option α) :
    (r.bare.orNull fun r => read r.source) = r.orNull fun r => read r.source := by
  obtain ⟨j, _, _⟩ := r
  cases j <;> rfl

/-- What is read without the parts of a value is what is read, without its parts. -/
lemma orNull_bare {read : Reading → Option α} {f : α → α}
    (natural : ∀ r : Reading, read r.bare = (read r).map f) :
    r.bare.orNull read = (r.orNull read).map (Option.map f) := by
  have source : r.bare.source = r.source := rfl
  simp only [orNull, natural, source]
  cases r.source <;> simp [Function.comp_def]

/-- The value of a declaration without its parts is that of the bare reading. -/
lemma value?_bare (r : Reading) : r.bare.value? = r.value?.map Content.bare := by
  obtain ⟨j, node, _⟩ := r
  cases node <;> simp [value?, bare, text?, Content.bare, Function.comp_def]

/-- The parameters of an at-rule without their parts are those of the bare reading. -/
lemma params?_bare (r : Reading) : r.bare.params? = r.params?.map (Option.map Content.bare) := by
  obtain ⟨j, _, _⟩ := r
  cases j <;> simp [params?, bare, Content.bare, Function.comp_def]

end Reading

namespace Fields

variable {α : Type} {key : String} {fields : Fields Reading}

/-- A field is read from bare values as it is read, and then changed. -/
lemma get_bare {default : α} {read : Reading → Option α} {f : α → α} (fixed : f default = default)
    (natural : ∀ r : Reading, read r.bare = (read r).map f) :
    (fields.get key (some default) fun r => read r.bare) =
      (fields.get key (some default) read).map f := by
  simp only [natural, get_eq]
  rcases fields.values key with _ | ⟨_, _ | ⟨_, _⟩⟩ <;> simp [fixed]

end Fields

namespace Document

variable {kind : Kind} {d : Document} {members : Fields Json} {fields fields' : Fields Reading}

/-- A node keeps its label without what is below it. -/
lemma label_bare : d.bare.label = d.label := by
  cases d
  case atRule name params raws nodes => rcases params with _ | _ | _ <;> rfl
  all_goals rfl

open Reading in
/-- A node that is read from bare fields is the bare node. -/
lemma ofFields?_bare :
    ofFields? kind (fields.map fun field => (field.1, field.2.bare)) =
      (ofFields? kind fields).map bare := by
  have text (r : Reading) : r.bare.text? = r.text? := rfl
  have raws (r : Reading) : r.bare.raws? = r.raws? := rfl
  have part {α : Type} (read : Json → Option α) (r : Reading) :
      (r.bare.orNull fun r => read r.source) = r.orNull fun r => read r.source :=
    orNull_source_bare read
  have prop (r : Reading) : r.bare.orNull text? = r.orNull text? := part Json.text? r
  have nodes {key : String} : (fields.get key (some []) fun r => r.bare.nodes?) =
      (fields.get key (some []) nodes?).map fun _ => [] :=
    Fields.get_bare rfl fun _ => rfl
  have node {key : String} : (fields.get key (some none) fun r => r.bare.orNull node?) =
      (fields.get key (some none) (orNull node?)).map (Option.map fun _ => .colon) :=
    Fields.get_bare rfl fun _ => orNull_bare fun _ => rfl
  have value {key : String} : (fields.get key (some none) fun r => r.bare.orNull value?) =
      (fields.get key (some none) (orNull value?)).map (Option.map Content.bare) :=
    Fields.get_bare rfl fun _ => orNull_bare value?_bare
  have params {key : String} : (fields.get key (some none) fun r => r.bare.params?) =
      (fields.get key (some none) params?).map (Option.map Content.bare) :=
    Fields.get_bare rfl params?_bare
  cases kind <;>
    simp only [ofFields?, Fields.withDefault, Fields.required, Fields.get_map] <;>
    simp [text, raws, part, prop, nodes, node, value, params, Option.map_bind, Option.bind_map,
      Function.comp_def, bare]

/-- Fields that agree when they are bare are both read, to nodes with the same label, or neither. -/
lemma label_congr
    (agree : ∀ rule ∈ kind.rules,
      Fields.Corresponds (fun r s => rule.role.Agree r.bare s.bare)
        (fields.values rule.key) (fields'.values rule.key)) :
    (ofFields? kind fields).map label = (ofFields? kind fields').map label := by
  have same : ofFields? kind (fields.map fun field => (field.1, field.2.bare)) =
      ofFields? kind (fields'.map fun field => (field.1, field.2.bare)) := by
    refine ofFields?_congr fun rule mem => ?_
    rw [Fields.values_map, Fields.values_map]
    exact (agree rule mem).map
  rw [ofFields?_bare, ofFields?_bare] at same
  have labels := congrArg (Option.map label) same
  simpa [Function.comp_def, label_bare] using labels

end Document

/-- What is read or null comes from null, or it is what is read. -/
lemma Json.orNull_eq_some {α : Type} {j : Json} {read : Json → Option α} {x : Option α}
    (found : j.orNull read = some x) :
    (j = .null ∧ x = none) ∨ ∃ a, read j = some a ∧ x = some a := by
  cases j
  case null => exact .inl ⟨rfl, (Option.some.inj found).symm⟩
  all_goals
    obtain ⟨a, read, rfl⟩ := Option.map_eq_some_iff.mp found
    exact .inr ⟨a, read, rfl⟩

namespace Role

open Document (nestedAll nestedOption nestedContent)

variable {role : Role}

/-- The trees of a list of nodes are those of the nodes. -/
lemma forest_nodes (j : Json) (ds : List Document) (read : (Reading.ofJson j).nodes? = some ds) :
    (Role.nodes.forest? j).getD [] = nestedAll ds := by
  rw [forest?, read]
  rfl

/-- The trees of a node that may be missing are its own or none. -/
lemma forest_node (j : Json) (d? : Option Document)
    (read : (j.orNull fun j => (Reading.ofJson j).node?) = some d?) :
    (Role.node.forest? j).getD [] = nestedOption d? := by
  obtain ⟨rfl, rfl⟩ | ⟨d, node, rfl⟩ := Json.orNull_eq_some read
  · rfl
  · rw [forest?, Document.ofJson?, node]
    rfl

/-- The trees of a value of a declaration are those of its node. -/
lemma forest_value (j : Json) (c? : Option (Content Document))
    (read : (j.orNull fun j => (Reading.ofJson j).value?) = some c?) :
    (Role.content.forest? j).getD [] = nestedContent c? := by
  obtain ⟨rfl, rfl⟩ | ⟨c, value, rfl⟩ := Json.orNull_eq_some read
  · rfl
  · rw [forest?, Document.ofJson?]
    cases node : (Reading.ofJson j).node? with
    | some d =>
      obtain rfl : .parsed d = c := by simpa [Reading.value?, node] using value
      rfl
    | none =>
      obtain ⟨s, _, rfl⟩ : ∃ s, (Reading.ofJson j).text? = some s ∧ .text s = c := by
        simpa [Reading.value?, node] using value
      rfl

/-- The trees of the parameters of an at-rule are those of their node. -/
lemma forest_params (j : Json) (c? : Option (Content Document))
    (read : (Reading.ofJson j).params? = some c?) :
    (Role.content.forest? j).getD [] = nestedContent c? := by
  rw [forest?, Document.ofJson?]
  simp only [Reading.params?, Reading.source_ofJson] at read
  split at read
  case h_1 =>
    cases read
    rfl
  case h_2 =>
    cases read
    rfl
  case h_3 =>
    obtain ⟨d, node, rfl⟩ := Option.map_eq_some_iff.mp read
    rw [node]
    rfl

/-- What a field gives, when it is read. -/
lemma forest_of_get {β : Type} {members : Fields Json} {key : String} {default b : β}
    {read : Json → Option β} {trees : β → List (Rose Label)} (none : trees default = [])
    (some : ∀ j b, read j = .some b → (role.forest? j).getD [] = trees b)
    (found : members.get key (.some default) read = .some b) :
    role.forest (members.values key) = trees b := by
  rw [Fields.get_eq] at found
  split at found
  case h_1 absent =>
    cases found
    rw [absent, none]
    rfl
  case h_2 j only =>
    rw [only, ← some j b found]
    simp [forest]
  case h_3 => cases found

end Role

namespace Document

/-- The subtrees of a node are those that its fields give, in the order of the table. -/
lemma children_of_ofFields? {kind : Kind} {members : Fields Json} {d : Document}
    (read : ofFields? kind (Reading.ofJsonMembers members) = some d) :
    d.nested.children =
      kind.rules.flatMap fun rule => rule.role.forest (members.values rule.key) := by
  -- fields of these roles hold no nodes, so only the others are left of the rules
  have text {js : List Json} : Role.text.forest js = [] := by simp [Role.forest, Role.forest?]
  have spelling {js : List Json} : Role.spelling.forest js = [] := by
    simp [Role.forest, Role.forest?]
  have selector {js : List Json} : Role.selector.forest js = [] := by
    simp [Role.forest, Role.forest?]
  have raws {js : List Json} : Role.raws.forest js = [] := by simp [Role.forest, Role.forest?]
  rw [Reading.ofJsonMembers_eq_map] at read
  cases kind <;>
    simp only [ofFields?, Fields.withDefault, Fields.required, Fields.get_map,
      Reading.orNull_ofJson, Reading.source_ofJson, Option.bind_eq_bind, Option.bind_eq_some_iff,
      Option.pure_def, Option.some.injEq, reduceCtorEq] at read <;>
    simp only [Kind.rules, List.flatMap_cons, List.flatMap_nil, text, spelling, selector, raws,
      List.append_nil, List.nil_append]
  case root =>
    obtain ⟨nodes, found, rfl⟩ := read
    exact (Role.forest_of_get rfl Role.forest_nodes found).symm
  case declaration =>
    obtain ⟨_, _, value, found, _, _, rfl⟩ := read
    exact (Role.forest_of_get rfl Role.forest_value found).symm
  case atRule =>
    obtain ⟨_, _, params, found, _, _, nodes, found', rfl⟩ := read
    rw [Role.forest_of_get rfl Role.forest_params found,
      Role.forest_of_get rfl Role.forest_nodes found']
    rcases params with _ | _ | _ <;> rfl
  case rule =>
    obtain ⟨_, _, _, _, nodes, found, rfl⟩ := read
    exact (Role.forest_of_get rfl Role.forest_nodes found).symm
  case valueRoot =>
    obtain ⟨group, found, rfl⟩ := read
    exact (Role.forest_of_get rfl Role.forest_node found).symm
  case valueValue =>
    obtain ⟨group, found, rfl⟩ := read
    exact (Role.forest_of_get rfl Role.forest_node found).symm
  case commaGroup =>
    obtain ⟨groups, found, rfl⟩ := read
    exact (Role.forest_of_get rfl Role.forest_nodes found).symm
  case parenGroup =>
    obtain ⟨_, _, _, _, groups, found, rfl⟩ := read
    exact (Role.forest_of_get rfl Role.forest_nodes found).symm
  case function =>
    obtain ⟨_, _, group, found, groups, found', rfl⟩ := read
    rw [Role.forest_of_get rfl Role.forest_node found,
      Role.forest_of_get rfl Role.forest_nodes found']
    rfl
  case word =>
    obtain ⟨_, _, _, _, rfl⟩ := read
    rfl
  case operator =>
    obtain ⟨_, _, rfl⟩ := read
    rfl
  case colon =>
    obtain rfl := read
    rfl

end Document

end StyleTree
