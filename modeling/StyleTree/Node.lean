/-!
# Nodes

The nodes of a stylesheet's syntax tree, the same for CSS, SCSS and Less: statements and the
grammar of values side by side. A node names its children by their ids.
-/

namespace StyleTree

/-- What a node is known by. -/
abbrev NodeId := Nat

namespace NodeId

def label (n : NodeId) : String :=
  "#" ++ toString n

end NodeId

/-- The selector of a rule: plain text, or parsed, with its flattened text when one was kept. -/
inductive Selector where
  | text (text : String)
  | structured (flattened : Option String)
  deriving DecidableEq, Repr

namespace Selector

/-- The text of a selector that is still plain. -/
def plain? : Selector → Option String
  | .text s => some s
  | .structured _ => none

/-- The plain text, or the flattened text of a parsed selector. -/
def text? : Selector → Option String
  | .text s => some s
  | .structured flattened => flattened

end Selector

inductive Kind where
  | root
  | declaration
  | atRule
  | rule
  | valueRoot
  | valueValue
  | commaGroup
  | parenGroup
  | function
  | word
  | operator
  | colon
  | other
  deriving DecidableEq, Repr

/-- A node with the ids of its children. -/
inductive Node where
  | root (nodes : List NodeId)
  /-- A declaration; `value` is its parsed value and `raw` the value as written. -/
  | declaration (prop : Option String) (value : Option NodeId) (raw : Option String)
  /-- An at-rule; `rawParams` are its parameters as written, when those differ. -/
  | atRule (name params : String) (rawParams : Option String) (nodes : List NodeId)
  | rule (selector : Option Selector) (rawSelector : Option String) (nodes : List NodeId)
  | valueRoot (group : Option NodeId)
  | valueValue (group : Option NodeId)
  | commaGroup (groups : List NodeId)
  /-- A group in parentheses; `opening` and `closing` are the parentheses that were written. -/
  | parenGroup (opening closing : Option String) (groups : List NodeId)
  | function (name : String) (groups : List NodeId)
  /-- A word; `before` is the white space between it and the token before it. -/
  | word (value before : String)
  | operator (value : String)
  | colon
  /-- A node of a kind that is not told apart: a number, a string, a comment. -/
  | other (name : String)
  deriving DecidableEq, Repr

namespace Node

def kind : Node → Kind
  | .root _ => .root
  | .declaration .. => .declaration
  | .atRule .. => .atRule
  | .rule .. => .rule
  | .valueRoot _ => .valueRoot
  | .valueValue _ => .valueValue
  | .commaGroup _ => .commaGroup
  | .parenGroup .. => .parenGroup
  | .function .. => .function
  | .word .. => .word
  | .operator _ => .operator
  | .colon => .colon
  | .other _ => .other

/-- The children of a node in source order. -/
def children : Node → List NodeId
  | .root nodes | .atRule _ _ _ nodes | .rule _ _ nodes => nodes
  | .commaGroup groups | .parenGroup _ _ groups | .function _ groups => groups
  | .declaration _ child _ | .valueRoot child | .valueValue child => child.toList
  | .word .. | .operator _ | .colon | .other _ => []

/-- The node is of one of the three kinds that hold a list of groups. -/
def isGroup : Node → Bool
  | .commaGroup _ | .parenGroup .. | .function .. => true
  | _ => false

def value? : Node → Option NodeId
  | .declaration _ value _ => value
  | _ => none

/-- The group that a value root or a value wraps. -/
def group? : Node → Option NodeId
  | .valueRoot group | .valueValue group => group
  | _ => none

def prop? : Node → Option String
  | .declaration prop _ _ => prop
  | _ => none

/-- The name of an at-rule or a function. -/
def name? : Node → Option String
  | .atRule name _ _ _ | .function name _ => some name
  | _ => none

/-- The text of a token: a word, an operator or the name of a function. -/
def text? : Node → Option String
  | .word value _ | .operator value => some value
  | .function name _ => some name
  | _ => none

def selector? : Node → Option Selector
  | .rule selector _ _ => selector
  | _ => none

def rawSelector? : Node → Option String
  | .rule _ raw _ => raw
  | _ => none

/-- The parameters of an at-rule as written. -/
def rawParams? : Node → Option String
  | .atRule _ params raw _ => some (raw.getD params)
  | _ => none

def parens (groups : List NodeId) : Node :=
  .parenGroup (some "(") (some ")") groups

/-- A declaration with a parsed value. -/
def assignment (prop : String) (value : NodeId) : Node :=
  .declaration (some prop) (some value) none

/-- A rule whose selector is plain text. -/
def plainRule (selector : String) (nodes : List NodeId) : Node :=
  .rule (some (.text selector)) (some selector) nodes

/-- An at-rule whose parameters are kept once. -/
def plainAtRule (name params : String) (nodes : List NodeId) : Node :=
  .atRule name params none nodes

/-- A node is a group exactly when its kind is one of three. -/
theorem isGroup_iff_kind (x : Node) :
    x.isGroup = true ↔ x.kind = .commaGroup ∨ x.kind = .parenGroup ∨ x.kind = .function := by
  cases x <;> simp [isGroup, kind]

end Node

end StyleTree
