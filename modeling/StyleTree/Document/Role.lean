import StyleTree.Document.Reading

/-!
# Roles

What a document asks of each of its values. The fields of every kind of node, and of the parts that
hold no nodes, stand in tables; a value that nobody asks for has no place in any of them. The role
of a place follows from the layers around it.

Some changes to a value touch nothing that is asked for: members change their order, and members
under keys that nobody asks for come and go. A member is changed by taking it away and adding
another.
-/

namespace StyleTree

/-- What a value is asked for. -/
inductive Role where
  /-- A text, the type of a node, or nothing at all: nobody looks inside. -/
  | text
  | node
  /-- A node, or a text in its stead. -/
  | content
  | nodes
  | spelling
  | selector
  | raws
  deriving DecidableEq, Repr

/-- What it means that a field is missing. -/
inductive Presence where
  /-- The field must be there. -/
  | required
  /-- A missing field has a default. -/
  | defaulted
  /-- A missing field means nothing, and so does null. -/
  | optional
  deriving DecidableEq, Repr

/-- A field that is asked for. -/
structure FieldRule where
  key : String
  role : Role
  presence : Presence
  deriving DecidableEq, Repr

/-- The role of what stands under a key. -/
def FieldRule.roleOf (rules : List FieldRule) (key : String) : Role :=
  match rules.find? (·.key == key) with
  | some rule => rule.role
  | none => .text

namespace Kind

/-- The fields of a node. -/
def rules : Kind → List FieldRule
  | .root => [⟨"nodes", .nodes, .defaulted⟩]
  | .declaration =>
    [⟨"prop", .text, .optional⟩, ⟨"value", .content, .optional⟩, ⟨"raws", .raws, .defaulted⟩]
  | .atRule =>
    [⟨"name", .text, .defaulted⟩, ⟨"params", .content, .optional⟩, ⟨"raws", .raws, .defaulted⟩,
      ⟨"nodes", .nodes, .defaulted⟩]
  | .rule =>
    [⟨"selector", .selector, .optional⟩, ⟨"raws", .raws, .defaulted⟩,
      ⟨"nodes", .nodes, .defaulted⟩]
  | .valueRoot | .valueValue => [⟨"group", .node, .optional⟩]
  | .commaGroup => [⟨"groups", .nodes, .defaulted⟩]
  | .parenGroup =>
    [⟨"open", .spelling, .optional⟩, ⟨"close", .spelling, .optional⟩,
      ⟨"groups", .nodes, .defaulted⟩]
  | .function =>
    [⟨"value", .text, .required⟩, ⟨"group", .node, .optional⟩, ⟨"groups", .nodes, .defaulted⟩]
  | .word => [⟨"value", .text, .required⟩, ⟨"raws", .raws, .defaulted⟩]
  | .operator => [⟨"value", .text, .required⟩]
  | .colon | .other => []

/-- The kind that a type stands for, in words or as a number. -/
def ofTypeValue? : Json → Option Kind
  | .string name => ofType? name
  | .number n => n.natural?.bind ofNumber?
  | _ => none

/-- The kind of an object that has exactly one type. -/
def declared? (members : Fields Json) : Option Kind :=
  members.required "type" ofTypeValue?

/-- The kind that a value stands for is that of a scalar. -/
theorem ofTypeValue?_eq (j : Json) : ofTypeValue? j = j.scalar?.bind ofTypeValue? := by
  cases j <;> rfl

/-- Each key of the table has the role of its rule, and none is the key of the type. -/
theorem roleOf_rules (kind : Kind) :
    ∀ rule ∈ kind.rules,
      FieldRule.roleOf kind.rules rule.key = rule.role ∧ rule.key ≠ "type" := by
  cases kind <;> decide

end Kind

namespace Role

def isNode : Role → Bool
  | .node | .content => true
  | _ => false

/-- The fields of a part that holds no nodes. -/
def rules : Role → List FieldRule
  | .spelling => [⟨"raw", .text, .optional⟩, ⟨"value", .text, .optional⟩]
  | .selector => [⟨"value", .text, .optional⟩]
  | .raws =>
    [⟨"before", .text, .optional⟩, ⟨"selector", .spelling, .optional⟩,
      ⟨"params", .spelling, .optional⟩, ⟨"value", .spelling, .optional⟩]
  | .text | .node | .content | .nodes => []

/-- Each key of the table has the role of its rule, and none is the key of the type. -/
theorem roleOf_rules (role : Role) :
    ∀ rule ∈ role.rules,
      FieldRule.roleOf role.rules rule.key = rule.role ∧ rule.key ≠ "type" := by
  cases role <;> decide

/-- The fields of a part in the order in which an array writes them. -/
def slots : Role → List Slot
  | .raws => [.fixed "before", .fixed "selector", .fixed "params", .fixed "value"]
  | _ => []

/-- Spellings in an array are those of the object that names them. -/
theorem raws_array (items : List Json) :
    Raws.ofJson? (.array items) = (Slot.assign? Role.raws.slots items).bind Raws.ofFields? := by
  rcases items with _ | ⟨_, _ | ⟨_, _ | ⟨_, _ | ⟨_, _ | ⟨_, _⟩⟩⟩⟩⟩ <;> rfl

/-- The fields that are asked for in an object with these members. -/
def rulesFor (role : Role) (members : Fields Json) : List FieldRule :=
  if role.isNode then
    match Kind.declared? members with
    | some kind => kind.rules
    | none => []
  else role.rules

/-- In an object with these members the key is asked for. -/
def Asks (role : Role) (members : Fields Json) (key : String) : Prop :=
  (role.isNode ∧ key = "type") ∨ ∃ rule ∈ role.rulesFor members, rule.key = key

instance (role : Role) (members : Fields Json) (key : String) :
    Decidable (role.Asks members key) :=
  inferInstanceAs (Decidable (_ ∨ ∃ rule ∈ role.rulesFor members, rule.key = key))

end Role

namespace Json

/-- The role of an element of an array, by the slots and the fields. -/
def slotRole (slots : List Slot) (rules : List FieldRule) (place : Nat) : Role :=
  match slots[place]? with
  | some slot => FieldRule.roleOf rules slot.name
  | none => .text

/-- The role of the gap, when the container has the role `outer`. -/
def Layer.role (layer : Layer) (outer : Role) : Role :=
  match layer with
  | .member before key after => FieldRule.roleOf (outer.rulesFor (before ++ after)) key
  | .item before _ =>
    if outer = .nodes then .node
    else if outer.isNode then
      match before with
      | [] => .text
      | type :: fields =>
        match Kind.ofTypeValue? type with
        | some kind => slotRole kind.slots kind.rules fields.length
        | none => .text
    else slotRole outer.slots outer.rules before.length

/-- In an array that is a node, the fields follow the type. -/
theorem Layer.role_item_cons {outer : Role} (isNode : outer.isNode) {type : Json} {kind : Kind}
    (found : Kind.ofTypeValue? type = some kind) (fields after : List Json) :
    (Layer.item (type :: fields) after).role outer =
      slotRole kind.slots kind.rules fields.length := by
  have ne : outer ≠ .nodes := by
    rintro rfl
    cases isNode
  simp only [Layer.role, if_neg ne, if_pos isNode, found]

/-- The role of the gap inside of the layers, when the outermost container has the role `outer`. -/
def gapRole : List Layer → Role → Role
  | [], outer => outer
  | layer :: layers, outer => gapRole layers (layer.role outer)

/-- One such change, anywhere inside a value that has the given role. -/
inductive Revises : Role → Json → Json → Prop where
  | reorder {role : Role} {members members' : List (String × Json)}
      (perm : members.Perm members') : Revises role (.object members) (.object members')
  | add {role : Role} {before after : List (String × Json)} {key : String} {value : Json}
      (unasked : ¬ role.Asks (before ++ after) key) :
      Revises role (.object (before ++ after)) (.object (before ++ (key, value) :: after))
  | inside {role : Role} {j j' : Json} (layer : Layer) (deeper : Revises (layer.role role) j j') :
      Revises role (layer.fill j) (layer.fill j')

end Json

end StyleTree
