import StyleTree.Json.Fields
import StyleTree.Node

/-!
# Types of nodes

The types by which a document tells nodes apart, and the order of each node's fields when the node
is written as an array.
-/

namespace StyleTree

/-- A field in an array: one that must be there, or one that may be left out at the end. -/
inductive Slot where
  | fixed (name : String)
  | free (name : String)
  deriving DecidableEq, Repr

namespace Slot

def name : Slot → String
  | .fixed name | .free name => name

/-- The field may be left out at the end. -/
def isFree : Slot → Bool
  | .fixed _ => false
  | .free _ => true

/-- Name the elements of an array by their slots, when they fit in number. -/
def assign? {α : Type} : List Slot → List α → Option (Fields α)
  | slots, [] => if slots.all isFree then some [] else none
  | [], _ :: _ => none
  | slot :: slots, x :: xs => (assign? slots xs).map ((slot.name, x) :: ·)

end Slot

namespace Kind

/-- The types of nodes that are told apart, in the order of their numbers. -/
def types : List (String × Kind) :=
  [
    ("css-root", .root), ("css-decl", .declaration), ("css-atrule", .atRule), ("css-rule", .rule),
    ("value-root", .valueRoot), ("value-value", .valueValue), ("value-comma_group", .commaGroup),
    ("value-paren_group", .parenGroup), ("value-func", .function), ("value-word", .word),
    ("value-operator", .operator), ("value-colon", .colon)
  ]

def ofType? (type : String) : Option Kind :=
  types.lookup type

def ofNumber? (number : Nat) : Option Kind :=
  types[number]?.map (·.2)

/-- The fields of a node in the order in which an array writes them. -/
def slots : Kind → List Slot
  | .root => [.free "nodes"]
  | .declaration => [.fixed "prop", .fixed "value", .free "raws"]
  | .atRule => [.free "name", .free "params", .free "raws", .free "nodes"]
  | .rule => [.fixed "selector", .free "raws", .free "nodes"]
  | .valueRoot | .valueValue => [.fixed "group"]
  | .commaGroup => [.free "groups"]
  | .parenGroup => [.fixed "open", .fixed "close", .free "groups"]
  | .function => [.fixed "value", .free "group", .free "groups"]
  | .word => [.fixed "value", .free "raws"]
  | .operator => [.fixed "value"]
  | .colon | .other => []

end Kind

end StyleTree
