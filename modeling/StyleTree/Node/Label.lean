import StyleTree.Arena
import StyleTree.Text.Lowercase

/-!
# Labels

A node apart from its children: its kind and its texts. And nodes that differ in nothing but the
letter case of names: of at-rules, of functions and of the properties that are declared.
-/

namespace StyleTree

/-- What a node says by itself. -/
inductive Label where
  | root
  | declaration (prop raw : Option String)
  | atRule (name params : String) (rawParams : Option String)
  | rule (selector : Option Selector) (rawSelector : Option String)
  | valueRoot
  | valueValue
  | commaGroup
  | parenGroup (opening closing : Option String)
  | function (name : String)
  | word (value before : String)
  | operator (value : String)
  | colon
  | other (name : String)
  deriving DecidableEq, Repr

/-- The label of a node. -/
def Node.label : Node → Label
  | .root _ => .root
  | .declaration prop _ raw => .declaration prop raw
  | .atRule name params rawParams _ => .atRule name params rawParams
  | .rule selector rawSelector _ => .rule selector rawSelector
  | .valueRoot _ => .valueRoot
  | .valueValue _ => .valueValue
  | .commaGroup _ => .commaGroup
  | .parenGroup opening closing _ => .parenGroup opening closing
  | .function name _ => .function name
  | .word value before => .word value before
  | .operator value => .operator value
  | .colon => .colon
  | .other name => .other name

/-- The kind of the nodes with this label. -/
def Label.kind : Label → Kind
  | .root => .root
  | .declaration .. => .declaration
  | .atRule .. => .atRule
  | .rule .. => .rule
  | .valueRoot => .valueRoot
  | .valueValue => .valueValue
  | .commaGroup => .commaGroup
  | .parenGroup .. => .parenGroup
  | .function _ => .function
  | .word .. => .word
  | .operator _ => .operator
  | .colon => .colon
  | .other _ => .other

/-- The label of a node keeps its kind. -/
theorem Node.kind_label (x : Node) : x.label.kind = x.kind := by
  cases x <;> rfl

/-- The two nodes differ at most in the case of the ASCII letters of a name. -/
inductive Node.SameButCase : Node → Node → Prop where
  | refl (x : Node) : SameButCase x x
  | declaration {name name' : String} (fold : Text.sameFold name name' = true)
      (value : Option NodeId) (raw : Option String) :
      SameButCase (.declaration (some name) value raw) (.declaration (some name') value raw)
  | atRule {name name' : String} (fold : Text.sameFold name name' = true) (params : String)
      (rawParams : Option String) (nodes : List NodeId) :
      SameButCase (.atRule name params rawParams nodes) (.atRule name' params rawParams nodes)
  | function {name name' : String} (fold : Text.sameFold name name' = true)
      (groups : List NodeId) : SameButCase (.function name groups) (.function name' groups)

/-- The two arenas have the same ids, for nodes that differ at most in the letter case of names. -/
def Arena.SameButCase (a b : Arena) : Prop :=
  ∀ n, Option.Rel Node.SameButCase (a.node? n) (b.node? n)

end StyleTree
