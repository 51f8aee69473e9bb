import StyleTree.Document.Role
import StyleTree.Load
import StyleTree.Tree.Unfolding

/-!
# What fits

When a value fits its role, and when the fields of an object fit their table: said of the values
alone, without reading them into anything but nodes.

A node of a known type whose fields do not fit is read as a node of an unknown kind, and nothing
below it is kept. So a value that stands in the place of a node is part of the tree only when every
container around it is kept.
-/

namespace StyleTree

mutual

/-- The value can be read in the role. -/
inductive Role.Accepts : Role → Json → Prop where
  | text (s : String) : Role.Accepts .text (.string s)
  | node {j : Json} {d : Document} (read : Document.ofJson? j = some d) : Role.Accepts .node j
  | contentText (s : String) : Role.Accepts .content (.string s)
  | contentNode {j : Json} {d : Document} (read : Document.ofJson? j = some d) :
      Role.Accepts .content j
  | nodes {items : List Json} (read : ∀ j ∈ items, ∃ d, Document.ofJson? j = some d) :
      Role.Accepts .nodes (.array items)
  | spellingText (s : String) : Role.Accepts .spelling (.string s)
  | selectorText (s : String) : Role.Accepts .selector (.string s)
  /-- A spelling, a selector or a set of spellings, written as an object. -/
  | part {role : Role} {members : Fields Json} (has_rules : role.rules ≠ [])
      (fits : ∀ rule ∈ role.rules, FieldRule.Fits rule members) :
      Role.Accepts role (.object members)
  /-- A set of spellings, written as an array. -/
  | list {role : Role} {items : List Json} {members : Fields Json} (has_slots : role.slots ≠ [])
      (assigned : Slot.assign? role.slots items = some members)
      (fits : ∀ rule ∈ role.rules, FieldRule.Fits rule members) :
      Role.Accepts role (.array items)

/-- What the members say under the key of the rule can be read. -/
inductive FieldRule.Fits : FieldRule → Fields Json → Prop where
  | absent {rule : FieldRule} {members : Fields Json} (missing : members.values rule.key = [])
      (free : rule.presence ≠ .required) : FieldRule.Fits rule members
  | null {rule : FieldRule} {members : Fields Json} (only : members.values rule.key = [.null])
      (optional : rule.presence = .optional) : FieldRule.Fits rule members
  | value {rule : FieldRule} {members : Fields Json} {j : Json}
      (only : members.values rule.key = [j]) (accepted : Role.Accepts rule.role j) :
      FieldRule.Fits rule members

end

/-- Every field of a node of this kind fits. -/
def Kind.Fits (kind : Kind) (members : Fields Json) : Prop :=
  ∀ rule ∈ kind.rules, rule.Fits members

/-- The kind of a node. -/
def Document.kind : Document → Kind
  | .root _ => .root
  | .declaration .. => .declaration
  | .atRule .. => .atRule
  | .rule .. => .rule
  | .valueRoot _ => .valueRoot
  | .valueValue _ => .valueValue
  | .commaGroup _ => .commaGroup
  | .parenGroup .. => .parenGroup
  | .function .. => .function
  | .word .. => .word
  | .operator _ => .operator
  | .colon => .colon
  | .other _ => .other

/-- The text is loaded as a tree that reads as `r` from its root. -/
def LoadsAs (text : String) (r : Rose Label) : Prop :=
  ∃ t, load text = .ok t ∧ t.arena.ReadsAs t.root r

namespace Json

/-- An object with exactly one type, which is given in words. -/
def HasType (j : Json) (type : String) : Prop :=
  ∃ members, j = .object members ∧ Fields.values members "type" = [.string type]

end Json

namespace Role

/-- A value is read in a role that nodes stand in, and not as a node of an unknown kind. -/
def Keeps (role : Role) (j : Json) : Prop :=
  match role with
  | .node | .content => ∃ d, Document.ofJson? j = some d ∧ d.kind ≠ .other
  | .nodes => ∃ ds, (Reading.ofJson j).nodes? = some ds
  | _ => False

end Role

namespace Json

/--
The gap inside of the layers is the place of a node, and when `j` stands in it all that is around
it is kept.
-/
def KeepsGap : List Layer → Role → Json → Prop
  | [], outer, _ => outer.isNode
  | layer :: layers, outer, j =>
    outer.Keeps (layer.fill (fill layers j)) ∧ KeepsGap layers (layer.role outer) j

end Json

end StyleTree
