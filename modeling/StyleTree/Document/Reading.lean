import StyleTree.Document.NodeType
import StyleTree.Document.Spelling

/-!
# Reading documents from values

A node is an object with a member `type`, or an array that begins with the type and goes on with
the node's fields in order. A node of a known type whose fields do not fit is read as a node of an
unknown kind, so damage stays where it is; only a value without a usable type is no node at all.

Reading goes from the inside out: every value is first given the readings of its parts.
-/

namespace StyleTree

/-- A value with the readings of its parts: as a node, and as a list of nodes. -/
structure Reading where
  source : Json
  node? : Option Document
  nodes? : Option (List Document)

namespace Reading

/-- The value as text. -/
def text? (r : Reading) : Option String :=
  r.source.text?

/-- The value as spellings. -/
def raws? (r : Reading) : Option Raws :=
  Raws.ofJson? r.source

/-- Read the value by `read`, and null as nothing. -/
def orNull {α : Type} (read : Reading → Option α) (r : Reading) : Option (Option α) :=
  match r.source with
  | .null => some none
  | _ => (read r).map some

/-- The value of a declaration: a node, or failing that text. -/
def value? (r : Reading) : Option (Content Document) :=
  (r.node?.map .parsed).or (r.text?.map .text)

/-- The parameters of an at-rule: nothing, text or a node. -/
def params? (r : Reading) : Option (Option (Content Document)) :=
  match r.source with
  | .null => some none
  | .string text => some (some (.text text))
  | _ => r.node?.map fun node => some (.parsed node)

end Reading

namespace Document

open Reading in
/-- A node of a known kind, when all its fields fit. -/
def ofFields? (kind : Kind) (fields : Fields Reading) : Option Document :=
  match kind with
  | .root => do
    let nodes ← fields.withDefault "nodes" [] nodes?
    return .root nodes
  | .declaration => do
    let prop ← fields.withDefault "prop" none (orNull text?)
    let value ← fields.withDefault "value" none (orNull value?)
    let raws ← fields.withDefault "raws" .empty raws?
    return .declaration prop value raws
  | .atRule => do
    let name ← fields.withDefault "name" "" text?
    let params ← fields.withDefault "params" none params?
    let raws ← fields.withDefault "raws" .empty raws?
    let nodes ← fields.withDefault "nodes" [] nodes?
    return .atRule name params raws nodes
  | .rule => do
    let selector ← fields.withDefault "selector" none (orNull (Selector.ofJson? ·.source))
    let raws ← fields.withDefault "raws" .empty raws?
    let nodes ← fields.withDefault "nodes" [] nodes?
    return .rule selector raws nodes
  | .valueRoot => do
    let group ← fields.withDefault "group" none (orNull node?)
    return .valueRoot group
  | .valueValue => do
    let group ← fields.withDefault "group" none (orNull node?)
    return .valueValue group
  | .commaGroup => do
    let groups ← fields.withDefault "groups" [] nodes?
    return .commaGroup groups
  | .parenGroup => do
    let opening ← fields.withDefault "open" none (orNull (SourceText.ofJson? ·.source))
    let closing ← fields.withDefault "close" none (orNull (SourceText.ofJson? ·.source))
    let groups ← fields.withDefault "groups" [] nodes?
    return .parenGroup opening closing groups
  | .function => do
    let name ← fields.required "value" text?
    let group ← fields.withDefault "group" none (orNull node?)
    let groups ← fields.withDefault "groups" [] nodes?
    return .function name group groups
  | .word => do
    let value ← fields.required "value" text?
    let raws ← fields.withDefault "raws" .empty raws?
    return .word value raws
  | .operator => do
    let value ← fields.required "value" text?
    return .operator value
  | .colon => some .colon
  | .other => none

/-- A node of the kind that `type` names with the given fields, when they fit. -/
def ofType? (type : String) (fields : Kind → Option (Fields Reading)) : Option Document := do
  let kind ← Kind.ofType? type
  let fields ← fields kind
  ofFields? kind fields

/-- A node of the kind that a number stands for with the given fields, when they fit. -/
def ofNumber? (number : Nat) (fields : Kind → Option (Fields Reading)) : Option Document := do
  let kind ← Kind.ofNumber? number
  let fields ← fields kind
  ofFields? kind fields

/-- A node written as an object: it has exactly one type, and a type in words is never refused. -/
def ofObject? (members : Fields Reading) : Option Document :=
  members.required "type" fun type =>
    match type.source with
    | .string name => (ofType? name fun _ => some members).or (some (.other name))
    | .number n => n.natural?.bind (ofNumber? · fun _ => some members)
    | _ => none

/-- A node written as an array: the type, and then the fields in order. -/
def ofArray? : List Reading → Option Document
  | [] => none
  | type :: items =>
    match type.source with
    | .string name =>
      (ofType? name fun kind => Slot.assign? kind.slots items).or
        (if items.isEmpty then some (.other name) else none)
    | .number n => n.natural?.bind (ofNumber? · fun kind => Slot.assign? kind.slots items)
    | _ => none

end Document

namespace Reading

/-- The reading of an array whose elements have the given readings. -/
def ofItems (items : List Json) (readings : List Reading) : Reading :=
  ⟨.array items, Document.ofArray? readings, readings.mapM node?⟩

/-- The reading of an object whose members have the given readings. -/
def ofMembers (members : List (String × Json)) (readings : Fields Reading) : Reading :=
  ⟨.object members, Document.ofObject? readings, none⟩

mutual

/-- The reading of a value. -/
def ofJson : Json → Reading
  | .array items => ofItems items (ofJsons items)
  | .object members => ofMembers members (ofJsonMembers members)
  | .null => ⟨.null, none, none⟩
  | .bool b => ⟨.bool b, none, none⟩
  | .number n => ⟨.number n, none, none⟩
  | .string s => ⟨.string s, none, none⟩

/-- The readings of the elements of an array. -/
def ofJsons : List Json → List Reading
  | [] => []
  | j :: js => ofJson j :: ofJsons js

/-- The readings of the members of an object. -/
def ofJsonMembers : List (String × Json) → Fields Reading
  | [] => []
  | (key, j) :: members => (key, ofJson j) :: ofJsonMembers members

end

/-- The elements of an array are read each by itself. -/
theorem ofJsons_eq_map (js : List Json) : ofJsons js = js.map ofJson := by
  induction js with
  | nil => rfl
  | cons j js ih => simp [ofJsons, ih]

/-- The members of an object are read each by itself, under their keys. -/
theorem ofJsonMembers_eq_map (members : List (String × Json)) :
    ofJsonMembers members = members.map fun member => (member.1, ofJson member.2) := by
  induction members with
  | nil => rfl
  | cons member members ih => simp [ofJsonMembers, ih]

/-- What the members of an object read as under a key. -/
theorem values_ofJsonMembers (members : Fields Json) (key : String) :
    (ofJsonMembers members).values key = (members.values key).map ofJson := by
  rw [ofJsonMembers_eq_map, Fields.values_map]

/-- The reading of a value keeps the value. -/
@[simp] theorem source_ofJson (j : Json) : (ofJson j).source = j := by
  cases j <;> rfl

end Reading

namespace Document

/-- The document that a value holds. -/
def ofJson? (j : Json) : Option Document :=
  (Reading.ofJson j).node?

end Document

end StyleTree
