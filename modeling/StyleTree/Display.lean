import StyleTree.Load
import StyleTree.Text.PrintTable

/-!
# Displaying nodes

Nodes as people read them: the id, the kind, and the fields under their names on one line. Texts are
quoted so that every character shows: what would join the character before it, or leave no mark, is
written by its number.
-/

namespace StyleTree

namespace Display

/-- A character by its number, in hexadecimal digits. -/
def charNumber (c : Char) : List Char :=
  ['\\', 'u', '{'] ++ Nat.toDigits 16 c.toNat ++ ['}']

/-- A character as it stands between quotes. -/
def quotedChar : Char → List Char
  | '\x00' => ['\\', '0']
  | '"' => ['\\', '"']
  | '\\' => ['\\', '\\']
  | '\n' => ['\\', 'n']
  | '\r' => ['\\', 'r']
  | '\t' => ['\\', 't']
  | c => if Text.extendsGrapheme c || Text.isUnprintable c then charNumber c else [c]

def quoted (s : String) : String :=
  "\"" ++ String.ofList (s.toList.flatMap quotedChar) ++ "\""

/-- A value that may be absent. -/
def optional {α : Type} (display : α → String) : Option α → String
  | some x => "Some(" ++ display x ++ ")"
  | none => "None"

def list {α : Type} (display : α → String) (xs : List α) : String :=
  "[" ++ ", ".intercalate (xs.map display) ++ "]"

def field (field : String × String) : String :=
  field.1 ++ ": " ++ field.2

/-- A text in braces. -/
def braced (s : String) : String :=
  String.ofList (['{', ' '] ++ s.toList ++ [' ', '}'])

/-- Fields in braces after the name of what they belong to. -/
def fields (name : String) (fields : List (String × String)) : String :=
  name ++ " " ++ braced (", ".intercalate (fields.map field))

/-- An id inside a field. -/
def nodeId (n : NodeId) : String :=
  "NodeId(" ++ toString n ++ ")"

/-- A selector inside a field. -/
def selector : Selector → String
  | .text s => "Text(" ++ quoted s ++ ")"
  | .structured flattened => fields "Structured" [("value", optional quoted flattened)]

end Display

namespace Kind

def name : Kind → String
  | .root => "Root"
  | .declaration => "Declaration"
  | .atRule => "AtRule"
  | .rule => "Rule"
  | .valueRoot => "ValueRoot"
  | .valueValue => "ValueValue"
  | .commaGroup => "ValueCommaGroup"
  | .parenGroup => "ValueParenGroup"
  | .function => "ValueFunction"
  | .word => "ValueWord"
  | .operator => "ValueOperator"
  | .colon => "ValueColon"
  | .other => "Other"

def all : List Kind :=
  [
    .root, .declaration, .atRule, .rule, .valueRoot, .valueValue, .commaGroup, .parenGroup,
    .function, .word, .operator, .colon, .other
  ]

def ofName? (name : String) : Option Kind :=
  all.find? (·.name == name)

end Kind

open Display

namespace Node

/-- The fields of a node under their names, in order. -/
def displayFields : Node → List (String × String)
  | .root nodes => [("nodes", list nodeId nodes)]
  | .declaration prop value raw =>
    [("prop", optional quoted prop), ("value", optional nodeId value),
      ("raw", optional quoted raw)]
  | .atRule name params rawParams nodes =>
    [("name", quoted name), ("params", quoted params), ("raw_params", optional quoted rawParams),
      ("nodes", list nodeId nodes)]
  | .rule selector rawSelector nodes =>
    [("selector", optional Display.selector selector),
      ("raw_selector", optional quoted rawSelector), ("nodes", list nodeId nodes)]
  | .valueRoot group | .valueValue group => [("group", optional nodeId group)]
  | .commaGroup groups => [("groups", list nodeId groups)]
  | .parenGroup opening closing groups =>
    [("open", optional quoted opening), ("close", optional quoted closing),
      ("groups", list nodeId groups)]
  | .function name groups => [("name", quoted name), ("groups", list nodeId groups)]
  | .word value before => [("value", quoted value), ("before", quoted before)]
  | .operator value => [("value", quoted value)]
  | .colon => []
  | .other name => [("kind", quoted name)]

/-- A node on one line. -/
def display (x : Node) : String :=
  match x.displayFields with
  | [] => x.kind.name
  | own => fields x.kind.name own

end Node

namespace Tree

/-- A node of a tree on one line, after its id. -/
def displayNode? (t : Tree) (n : NodeId) : Option String :=
  (t.node? n).map fun x => NodeId.label n ++ " " ++ x.display

/-- A position in a tree on one line. -/
def displayPosition (n : NodeId) : String :=
  fields "Cursor" [("current", nodeId n)]

end Tree

end StyleTree
