import StyleTree.Proofs.Revision
import StyleTree.Proofs.Subtrees

/-!
# Gaps in documents

What becomes of a node that stands in a gap. One container does one of two things to the nodes that
it has in its gap: it loses them all, and is read the same whichever they are, or it carries them
all, with their trees in one place among its own (`Json.Layer.gap`). That this does not depend on
the nodes is due to the label and the subtrees of a node that is read from fields
(`Document.label_gap`, `Document.children_gap`). So any number of containers lose the nodes in the
gap inside of them, or carry them as one subtree of the whole (`Json.gap`), by induction on the
layers.
-/

namespace StyleTree

open Fields (Corresponds)

namespace Rose

/-- A row of nested trees with a gap in the place of a subtree. -/
structure Gap (α : Type) where
  left : List (Rose α)
  frames : List (Frame α)
  right : List (Rose α)

namespace Gap

variable {α : Type}

/-- The row with `r` in the gap. -/
def fill (gap : Gap α) (r : Rose α) : List (Rose α) :=
  gap.left ++ Rose.fill gap.frames r :: gap.right

/-- The gap with more trees on both sides. -/
def beside (gap : Gap α) (left right : List (Rose α)) : Gap α :=
  ⟨left ++ gap.left, gap.frames, gap.right ++ right⟩

/-- The gap with more trees on both sides and a node on top. -/
def within (gap : Gap α) (label : α) (left right : List (Rose α)) : Gap α :=
  ⟨[], ⟨label, left ++ gap.left, gap.right ++ right⟩ :: gap.frames, []⟩

/-- A gap with trees beside it is filled between them. -/
lemma fill_beside (gap : Gap α) (left right : List (Rose α)) (r : Rose α) :
    (gap.beside left right).fill r = left ++ gap.fill r ++ right := by
  simp [fill, beside]

/-- A gap inside of a node is filled among the children of that node. -/
lemma fill_within (gap : Gap α) (label : α) (left right : List (Rose α)) (r : Rose α) :
    (gap.within label left right).fill r = [.node label (left ++ gap.fill r ++ right)] := by
  simp [fill, within, Rose.fill]

end Gap

end Rose

namespace Kind

variable {kind : Kind}

/-- No two fields of a node have the same key. -/
lemma nodup_keys (kind : Kind) : (kind.rules.map (·.key)).Nodup := by
  cases kind <;> decide

/-- A kind that has fields is a known one. -/
lemma ne_other_of_mem {rule : FieldRule} (mem : rule ∈ kind.rules) : kind ≠ .other := by
  rintro rfl
  cases mem

end Kind

namespace FieldRule

/-- A key that is asked for more than a text has a rule. -/
lemma exists_of_roleOf {rules : List FieldRule} {key : String} (ne : roleOf rules key ≠ .text) :
    ∃ rule ∈ rules, rule.key = key ∧ rule.role = roleOf rules key := by
  unfold roleOf at ne ⊢
  cases found : rules.find? (·.key == key) with
  | none => simp [found] at ne
  | some rule =>
    refine ⟨rule, List.mem_of_find?_eq_some found, ?_, rfl⟩
    simpa using List.find?_some found

end FieldRule

namespace Role

variable {role : Role} {j j' : Json} {rs rs' : List (Rose Label)}

/-- What gives trees is no scalar. -/
lemma scalar?_of_forest? (given : role.forest? j = some rs) : j.scalar? = none := by
  cases j
  case array => rfl
  case object => rfl
  all_goals cases role <;> cases given

/-- Values that give trees agree when they are bare. -/
lemma agree_bare (given : role.forest? j = some rs) (given' : role.forest? j' = some rs') :
    role.Agree (Reading.ofJson j).bare (Reading.ofJson j').bare := by
  have const {α β γ : Type} {o o' : Option α} {f : α → β} {b b' : β} (c : γ)
      (h : o.map f = some b) (h' : o'.map f = some b') :
      (o.map fun _ => c) = o'.map fun _ => c := by
    obtain ⟨_, rfl, _⟩ := Option.map_eq_some_iff.mp h
    obtain ⟨_, rfl, _⟩ := Option.map_eq_some_iff.mp h'
    rfl
  refine ⟨?_, ?_⟩
  · show (Reading.ofJson j).source.scalar? = (Reading.ofJson j').source.scalar?
    rw [Reading.source_ofJson, Reading.source_ofJson, scalar?_of_forest? given,
      scalar?_of_forest? given']
  · cases role
    case node => exact const Document.colon given given'
    case content => exact const Document.colon given given'
    case nodes => exact const [] given given'
    all_goals cases given

/-- In the place of a node a value is kept when it is read as a node of a known kind. -/
lemma keeps_iff (isNode : role.isNode) :
    role.Keeps j ↔ ∃ d, Document.ofJson? j = some d ∧ d.kind ≠ .other := by
  cases role
  case node => rfl
  case content => rfl
  all_goals cases isNode

/-- Scalars or containers that are read as the same node are alike in the place of a node. -/
lemma alike_of_ofJson? (isNode : role.isNode) (scalar : j.scalar? = j'.scalar?)
    (same : Document.ofJson? j = Document.ofJson? j') : role.Alike j j' := by
  refine ⟨by rwa [Reading.source_ofJson, Reading.source_ofJson], ?_⟩
  cases role
  case node => exact same
  case content => exact same
  all_goals cases isNode

/-- In the place of a node a value gives the nested tree of the node that it is read as. -/
lemma forest?_of_isNode (isNode : role.isNode) :
    role.forest? j = (Document.ofJson? j).map fun d => [d.nested] := by
  cases role
  case node => rfl
  case content => rfl
  all_goals cases isNode

/-- The parts that hold no nodes have texts in their fields, bare or spelled. -/
lemma role_of_mem_rules (role : Role) :
    ∀ rule ∈ role.rules, rule.role = .text ∨ rule.role = .spelling := by
  cases role <;> decide

/-- The trees of a row of values are those of its two parts. -/
lemma forest_append (role : Role) (js js' : List Json) :
    role.forest (js ++ js') = role.forest js ++ role.forest js' :=
  List.flatMap_append

/-- The trees of a row of values are those of the first and those of the others. -/
lemma forest_cons (given : role.forest? j = some rs) (js : List Json) :
    role.forest (j :: js) = rs ++ role.forest js := by
  rw [forest, List.flatMap_cons, given]
  rfl

end Role

namespace Document

variable {kind : Kind} {rule : FieldRule} {j j' : Json} {rs rs' : List (Rose Label)}

/-- Of values that give trees it does not matter for the label which of them a field has. -/
lemma label_gap (before after : Fields Json) (mem : rule ∈ kind.rules)
    (given : rule.role.forest? j = some rs) (given' : rule.role.forest? j' = some rs') :
    (ofFields? kind (Reading.ofJsonMembers (before ++ (rule.key, j) :: after))).map label =
      (ofFields? kind (Reading.ofJsonMembers (before ++ (rule.key, j') :: after))).map label := by
  refine label_congr fun rule' mem' => ?_
  rw [Reading.values_ofJsonMembers, Reading.values_ofJsonMembers]
  refine Corresponds.map (Corresponds.fill (fun _ => Role.Agree.refl _ _) fun same => ?_)
  have role : rule.role = rule'.role := by
    rw [← (kind.roleOf_rules rule mem).1, ← (kind.roleOf_rules rule' mem').1, same]
  rw [← role]
  exact Role.agree_bare given given'

/-- The trees that the value of one field gives stand together among the subtrees of its node. -/
lemma children_gap (before after : Fields Json) (mem : rule ∈ kind.rules) :
    ∃ left right, ∀ j rs d, rule.role.forest? j = some rs →
      ofFields? kind (Reading.ofJsonMembers (before ++ (rule.key, j) :: after)) = some d →
      d.nested.children = left ++ rs ++ right := by
  obtain ⟨rules, rules', split⟩ := List.append_of_mem mem
  have ne : ∀ r ∈ rules ++ rules', rule.key ≠ r.key := by
    have nodup := kind.nodup_keys
    rw [split, (List.perm_middle.map _).nodup_iff, List.map_cons, List.nodup_cons] at nodup
    exact fun r mem same => nodup.1 (List.mem_map.mpr ⟨r, mem, same.symm⟩)
  obtain ⟨ne, ne'⟩ := List.forall_mem_append.mp ne
  -- the other fields do not see the value
  have others {others : List FieldRule} (ne : ∀ r ∈ others, rule.key ≠ r.key) (j : Json) :
      others.flatMap (fun r => r.role.forest
        (Fields.values (before ++ (rule.key, j) :: after) r.key)) =
      others.flatMap fun r => r.role.forest (Fields.values (before ++ after) r.key) := by
    refine List.flatMap_congr fun r mem => ?_
    rw [Fields.values_insert_of_ne before after j (ne r mem)]
  let left := rules.flatMap fun r => r.role.forest (Fields.values (before ++ after) r.key)
  let right := rules'.flatMap fun r => r.role.forest (Fields.values (before ++ after) r.key)
  refine ⟨left ++ rule.role.forest (before.values rule.key),
    rule.role.forest (after.values rule.key) ++ right, fun j rs d given read => ?_⟩
  rw [children_of_ofFields? read, split, List.flatMap_append, List.flatMap_cons, others ne,
    others ne', Fields.values_append, Fields.values_cons_self, Role.forest_append,
    Role.forest_cons given]
  simp [left, right]

/--
A field of a node that gives trees: its node is never read, or it is read whatever the field has,
with the trees of the field in one place.
-/
lemma ofFields?_gap (before after : Fields Json) (mem : rule ∈ kind.rules) :
    (∀ j rs, rule.role.forest? j = some rs →
      ofFields? kind (Reading.ofJsonMembers (before ++ (rule.key, j) :: after)) = none) ∨
    ∃ label left right, ∀ j rs, rule.role.forest? j = some rs →
      ∃ d, ofFields? kind (Reading.ofJsonMembers (before ++ (rule.key, j) :: after)) = some d ∧
        d.nested = .node label (left ++ rs ++ right) := by
  by_cases ever : ∃ j rs d, rule.role.forest? j = some rs ∧
      ofFields? kind (Reading.ofJsonMembers (before ++ (rule.key, j) :: after)) = some d
  · -- what was read once is the pattern for all other values
    obtain ⟨j₀, rs₀, d₀, given₀, read₀⟩ := ever
    obtain ⟨left, right, children⟩ := children_gap before after mem
    refine .inr ⟨d₀.label, left, right, fun j rs given => ?_⟩
    have labels := label_gap before after mem given given₀
    rw [read₀] at labels
    obtain ⟨d, read, label⟩ := Option.map_eq_some_iff.mp labels
    refine ⟨d, read, ?_⟩
    rw [← label, ← children j rs d given read]
    exact d.nested.node_label_children.symm
  · refine .inl fun j rs given => Option.eq_none_iff_forall_ne_some.mpr fun d read => ?_
    exact ever ⟨j, rs, d, given, read⟩

end Document

namespace Slot

/-- The slots do not look at the elements. -/
lemma assign?_map {α β : Type} (f : α → β) (slots : List Slot) (xs : List α) :
    assign? slots (xs.map f) =
      (assign? slots xs).map (List.map fun field => (field.1, f field.2)) := by
  induction xs generalizing slots with
  | nil => cases free : slots.all isFree <;> cases slots <;> simp_all [assign?]
  | cons x xs ih =>
    cases slots with
    | nil => rfl
    | cons slot slots => simp [assign?, ih, Function.comp_def]

end Slot

namespace Json.Layer

/-- In an array that is a node, only the fields of a known kind hold more than a text. -/
lemma exists_of_role_item {outer : Role} (isNode : outer.isNode) {before after : List Json}
    (deep : (item before after).role outer ≠ .text) :
    ∃ type fields kind, before = type :: fields ∧ Kind.ofTypeValue? type = some kind ∧
      (item before after).role outer = slotRole kind.slots kind.rules fields.length := by
  have ne : outer ≠ .nodes := by
    rintro rfl
    cases isNode
  cases before with
  | nil => simp [role, ne, isNode] at deep
  | cons type fields =>
    cases found : Kind.ofTypeValue? type with
    | none => simp [role, ne, isNode, found] at deep
    | some kind => exact ⟨type, fields, kind, rfl, found, role_item_cons isNode found fields after⟩

end Json.Layer

namespace Document

/-- A node written as an array with fields is read from the fields that its slots name. -/
lemma ofJson?_array {type : Json} {kind : Kind} {items : List Json}
    (found : Kind.ofTypeValue? type = some kind) (some : items ≠ []) :
    ofJson? (.array (type :: items)) =
      (Slot.assign? kind.slots items).bind (ofFields? kind <| Reading.ofJsonMembers ·) := by
  have more : (items.map Reading.ofJson).isEmpty = false := by simpa using some
  show ofArray? (Reading.ofJsons (type :: items)) = _
  simp only [Reading.ofJsons_eq_map, List.map_cons, ofArray?_cons, Reading.source_ofJson, found,
    more, Slot.assign?_map, Option.bind_some, Option.bind_map, Function.comp_def,
    Reading.ofJsonMembers_eq_map]
  simp

/--
A container in the place of a node that gives a place to more than a text: it is no node whatever
it has there, or it is read from its fields, of which one is in the gap.
-/
lemma ofJson?_fill {layer : Json.Layer} {outer : Role} (isNode : outer.isNode)
    (deep : layer.role outer ≠ .text) :
    (∀ j, ofJson? (layer.fill j) = none) ∨
    ∃ kind, ∃ rule ∈ Kind.rules kind, ∃ before after type, rule.role = layer.role outer ∧
      ∀ j, ofJson? (layer.fill j) =
        (ofFields? kind (Reading.ofJsonMembers (before ++ (rule.key, j) :: after))).or
          (Option.map .other type) := by
  cases layer with
  | member before key after =>
    obtain ⟨rule, mem, rfl, role⟩ := FieldRule.exists_of_roleOf deep
    -- the type stands under another key, so it is the same whatever is in the gap
    have ne := (Role.roleOf_rulesFor mem).2
    rw [Role.rulesFor, if_pos isNode] at mem
    cases declared : Kind.declared? (before ++ after) with
    | none =>
      rw [declared] at mem
      cases mem
    | some kind =>
      rw [declared] at mem
      rw [Kind.declared?, Fields.required, Fields.get_eq] at declared
      split at declared
      case h_2 type only =>
        refine .inr ⟨kind, rule, mem, before, after, type.text?, role, fun j => ?_⟩
        have only' : Fields.values (before ++ (rule.key, j) :: after) "type" = [type] := by
          rw [Fields.values_insert_of_ne before after j ne, only]
        show ofObject? (Reading.ofJsonMembers (before ++ (rule.key, j) :: after)) = _
        rw [ofObject?_eq, Reading.values_ofJsonMembers, only']
        simp only [List.map_cons, List.map_nil, Reading.source_ofJson, declared, Option.bind_some,
          Reading.text?]
      all_goals cases declared
  | item before after =>
    obtain ⟨type, fields, kind, rfl, found, place⟩ := Json.Layer.exists_of_role_item isNode deep
    -- an array with fields is never taken for a bare type
    have more {j : Json} : fields ++ j :: after ≠ [] := by simp
    rw [place] at deep ⊢
    rcases Slot.assign?_gap kind.slots fields after with
      refused | ⟨slot, left, right, place, assigned⟩
    · refine .inl fun j => ?_
      rw [Json.Layer.fill, List.cons_append, ofJson?_array found more, refused]
      rfl
    · rw [Json.slotRole, place] at deep ⊢
      obtain ⟨rule, mem, key, role⟩ := FieldRule.exists_of_roleOf deep
      refine .inr ⟨kind, rule, mem, left, right, none, role, fun j => ?_⟩
      rw [Json.Layer.fill, List.cons_append, ofJson?_array found more, assigned, key]
      simp

/--
A container in the place of a node: it is lost whatever it has in its gap, or it is kept with the
trees of the gap in one place.
-/
lemma ofJson?_gap {layer : Json.Layer} {outer : Role} (isNode : outer.isNode)
    (deep : layer.role outer ≠ .text) :
    (∃ d?, (∀ d, d? = some d → d.kind = .other) ∧
      ∀ j rs, (layer.role outer).forest? j = some rs → ofJson? (layer.fill j) = d?) ∨
    ∃ label left right, ∀ j rs, (layer.role outer).forest? j = some rs →
      ∃ d, ofJson? (layer.fill j) = some d ∧ d.kind ≠ .other ∧
        d.nested = .node label (left ++ rs ++ right) := by
  -- an object whose fields are lost is still a leaf, the same one whatever is in the gap
  rcases ofJson?_fill isNode deep with refused | ⟨kind, rule, mem, before, after, type, role, read⟩
  · exact .inl ⟨none, nofun, fun j _ _ => refused j⟩
  · rw [← role]
    rcases ofFields?_gap before after mem with lost | ⟨label, left, right, kept⟩
    · refine .inl ⟨type.map .other, ?_, fun j rs given => ?_⟩
      · intro d other
        obtain ⟨_, _, rfl⟩ := Option.map_eq_some_iff.mp other
        rfl
      · rw [read, lost j rs given]
        rfl
    · refine .inr ⟨label, left, right, fun j rs given => ?_⟩
      obtain ⟨d, found, nested⟩ := kept j rs given
      refine ⟨d, by rw [read, found]; rfl, ?_, nested⟩
      rw [kind_of_ofFields? found]
      exact Kind.ne_other_of_mem mem

/-- A list with a gap: it is no list of nodes whatever is there, or it is one when a node is. -/
lemma nodes?_gap (before after : List Json) :
    (∀ j, (Reading.ofJson (.array (before ++ j :: after))).nodes? = none) ∨
    ∃ left right, ∀ j rs, Role.node.forest? j = some rs →
      ∃ ds, (Reading.ofJson (.array (before ++ j :: after))).nodes? = some ds ∧
        nestedAll ds = left ++ rs ++ right := by
  have nodes (j : Json) : (Reading.ofJson (.array (before ++ j :: after))).nodes? = do
      return (← before.mapM ofJson?) ++ (← ofJson? j) :: (← after.mapM ofJson?) := by
    show (Reading.ofJsons (before ++ j :: after)).mapM Reading.node? = _
    rw [Reading.ofJsons_eq_map, List.mapM_map, List.mapM_append]
    simp [Function.comp_def, Option.bind_assoc]
    rfl
  cases left : before.mapM ofJson? with
  | none => exact .inl fun j => by simp [nodes, left]
  | some ds =>
    cases right : after.mapM ofJson? with
    | none => exact .inl fun j => by simp [nodes, left, right]
    | some ds' =>
      refine .inr ⟨nestedAll ds, nestedAll ds', fun j rs given => ?_⟩
      obtain ⟨d, read, rfl⟩ := Option.map_eq_some_iff.mp given
      refine ⟨ds ++ d :: ds', ?_, ?_⟩
      · simp [nodes, left, right, read]
      · simp [nestedAll_eq_map]

end Document

namespace Json

/-- In a list of nodes only the elements are asked for. -/
lemma Layer.eq_item_of_nodes {layer : Layer} (deep : layer.role .nodes ≠ .text) :
    ∃ before after, layer = .item before after := by
  cases layer with
  | member => exact absurd rfl deep
  | item before after => exact ⟨before, after, rfl⟩

/-- What is neither a node nor a list of nodes holds no nodes. -/
lemma Layer.forest?_eq_none {layer : Layer} {outer : Role} (isNode : ¬outer.isNode)
    (ne : outer ≠ .nodes) (j : Json) : (layer.role outer).forest? j = none := by
  have part (key : String) : (FieldRule.roleOf outer.rules key).forest? j = none := by
    by_cases shallow : FieldRule.roleOf outer.rules key = .text
    · rw [shallow]
      rfl
    · obtain ⟨rule, mem, _, role⟩ := FieldRule.exists_of_roleOf shallow
      rw [← role]
      rcases outer.role_of_mem_rules rule mem with text | spelling
      · rw [text]
        rfl
      · rw [spelling]
        rfl
  cases layer with
  | member before key after =>
    rw [Layer.role, Role.rulesFor, if_neg isNode]
    exact part key
  | item before after =>
    simp only [Layer.role, if_neg ne, if_neg isNode, slotRole]
    split
    · exact part _
    · rfl

/-- The container is not kept with nodes in its gap, and it is read the same whichever they are. -/
def Layer.Loses (layer : Layer) (outer : Role) : Prop :=
  ∀ j j' rs rs', (layer.role outer).forest? j = some rs → (layer.role outer).forest? j' = some rs' →
    ¬outer.Keeps (layer.fill j) ∧ outer.Alike (layer.fill j) (layer.fill j')

/-- The container is kept with nodes in its gap, and their trees are in one place among its own. -/
def Layer.Carries (layer : Layer) (outer : Role) : Prop :=
  ∀ gap : Rose.Gap Label, ∃ gap' : Rose.Gap Label, ∀ j r,
    (layer.role outer).forest? j = some (gap.fill r) →
      outer.Keeps (layer.fill j) ∧ outer.forest? (layer.fill j) = some (gap'.fill r)

variable {layer : Layer} {outer : Role}

/-- A layer in the place of a node loses what is in its gap or carries it. -/
lemma Layer.gap_of_isNode (isNode : outer.isNode) (deep : layer.role outer ≠ .text) :
    layer.Loses outer ∨ layer.Carries outer := by
  rcases Document.ofJson?_gap isNode deep with ⟨d?, other, lost⟩ | ⟨label, left, right, kept⟩
  · refine .inl fun j j' rs rs' given given' => ⟨?_, ?_⟩
    · rw [Role.keeps_iff isNode, lost j rs given]
      rintro ⟨d, found, known⟩
      exact known (other d found)
    · refine Role.alike_of_ofJson? isNode ?_ ?_
      · rw [scalar?_fill, scalar?_fill]
      · rw [lost j rs given, lost j' rs' given']
  · refine .inr fun gap => ⟨gap.within label left right, fun j r given => ?_⟩
    obtain ⟨d, read, known, nested⟩ := kept j _ given
    refine ⟨(Role.keeps_iff isNode).mpr ⟨d, read, known⟩, ?_⟩
    rw [Role.forest?_of_isNode isNode, read, Option.map_some, nested, Rose.Gap.fill_within]

/-- A layer in the place of a list of nodes loses what is in its gap or carries it. -/
lemma Layer.gap_of_nodes (deep : layer.role .nodes ≠ .text) :
    layer.Loses .nodes ∨ layer.Carries .nodes := by
  obtain ⟨before, after, rfl⟩ := Layer.eq_item_of_nodes deep
  rcases Document.nodes?_gap before after with lost | ⟨left, right, kept⟩
  · refine .inl fun j j' _ _ _ _ => ⟨?_, rfl, ?_⟩
    · rintro ⟨ds, found⟩
      rw [Layer.fill, lost] at found
      cases found
    · exact (lost j).trans (lost j').symm
  · refine .inr fun gap => ⟨gap.beside left right, fun j r given => ?_⟩
    obtain ⟨ds, read, nested⟩ := kept j _ given
    refine ⟨⟨ds, read⟩, ?_⟩
    rw [Role.forest?, Layer.fill, read, Option.map_some, nested, Rose.Gap.fill_beside]

/-- A container that has a place for nodes loses them all, or it carries them all. -/
lemma Layer.gap {j : Json} {rs : List (Rose Label)}
    (given : (layer.role outer).forest? j = some rs) : layer.Loses outer ∨ layer.Carries outer := by
  have deep : layer.role outer ≠ .text := by
    intro shallow
    rw [shallow] at given
    cases given
  by_cases isNode : outer.isNode
  · exact Layer.gap_of_isNode isNode deep
  · by_cases nodes : outer = .nodes
    · subst nodes
      exact Layer.gap_of_nodes deep
    · rw [Layer.forest?_eq_none isNode nodes] at given
      cases given

/--
The place of a node inside of layers: it is lost whatever stands in it, and nothing is noticed of
what stands in it, or it is kept, and the tree of what stands in it is one subtree of the whole.
-/
lemma gap (layers : List Layer) (outer : Role) (place : (gapRole layers outer).isNode) :
    (∀ x y d e, Document.ofJson? x = some d → Document.ofJson? y = some e →
      ¬KeepsGap layers outer x ∧ outer.Alike (fill layers x) (fill layers y)) ∨
    ∃ gap : Rose.Gap Label, ∀ y d, Document.ofJson? y = some d →
      KeepsGap layers outer y ∧ outer.forest? (fill layers y) = some (gap.fill d.nested) := by
  induction layers generalizing outer with
  | nil =>
    have isNode : outer.isNode := place
    refine .inr ⟨⟨[], [], []⟩, fun y d read => ⟨isNode, ?_⟩⟩
    rw [Role.forest?_of_isNode isNode, fill, read]
    rfl
  | cons layer layers ih =>
    rcases ih (layer.role outer) place with lost | ⟨gap, kept⟩
    · -- what is not noticed further in is not noticed here
      refine .inl fun x y d e read read' => ?_
      obtain ⟨lost, alike⟩ := lost x y d e read read'
      exact ⟨fun keeps => lost keeps.2, Role.alike_fill alike⟩
    · -- any node shows that the layer has a place for nodes
      obtain ⟨d, read⟩ : ∃ d, Document.ofJson? (.object [("type", .string "")]) = some d :=
        ⟨.other "", rfl⟩
      rcases Layer.gap (kept _ d read).2 with loses | carries
      · refine .inl fun x y d e read read' => ?_
        obtain ⟨lost, alike⟩ := loses _ _ _ _ (kept x d read).2 (kept y e read').2
        exact ⟨fun keeps => lost keeps.1, alike⟩
      · obtain ⟨gap', carries⟩ := carries gap
        refine .inr ⟨gap', fun y d read => ?_⟩
        obtain ⟨keeps, given⟩ := kept y d read
        obtain ⟨keeps', given'⟩ := carries _ _ given
        exact ⟨⟨keeps', keeps⟩, given'⟩

end Json

end StyleTree
