import StyleTree.Tree
import StyleTree.Vocabulary

/-!
# Values

What the nodes of the grammar of values are. Keywords and operators reach the tree as generic words
and operators and are told apart by their text.
-/

namespace StyleTree

namespace Node

def isWordIn (words : List String) : Node → Bool
  | .word value _ => words.contains value
  | _ => false

def isOperatorIn (operators : List String) : Node → Bool
  | .operator value => operators.contains value
  | _ => false

/-- A function with this very name. -/
def isFunction (name : String) : Node → Bool
  | .function own _ => own == name
  | _ => false

/-- A function with this name, in any letter case. -/
def isFunctionNamed (name : String) : Node → Bool
  | .function own _ => Text.sameFold own name
  | _ => false

/-- A word that touches the token before it. -/
def isAdjacentWord : Node → Bool
  | .word _ before => before.isEmpty
  | _ => false

end Node

namespace Tree

/-- The node with an id passes a test. -/
def holds (t : Tree) (test : Node → Bool) (n : NodeId) : Bool :=
  (t.node? n).any test

/-- A test of a node is made of the node under its id. -/
theorem holds_eq {t : Tree} {n : NodeId} {x : Node} {test : Node → Bool}
    (found : t.node? n = some x) : t.holds test n = test x := by
  rw [holds, found, Option.any_some]

def isParenGroup (t : Tree) (n : NodeId) : Bool :=
  t.isKind n .parenGroup

-- Tests of a node by its own text. An id that is no node passes none of them.

def isForKeyword (t : Tree) (n : NodeId) : Bool :=
  t.holds (Node.isWordIn Vocabulary.forKeywords) n

def isLogicalKeyword (t : Tree) (n : NodeId) : Bool :=
  t.holds (Node.isWordIn Vocabulary.logicalKeywords) n

def isEachKeyword (t : Tree) (n : NodeId) : Bool :=
  t.holds (Node.isWordIn Vocabulary.eachKeywords) n

def isArithmeticOperator (t : Tree) (n : NodeId) : Bool :=
  t.holds (Node.isOperatorIn Vocabulary.arithmeticOperators) n

def isEqualityOperator (t : Tree) (n : NodeId) : Bool :=
  t.holds (Node.isWordIn Vocabulary.equalityOperators) n

def isRelationalOperator (t : Tree) (n : NodeId) : Bool :=
  t.holds (Node.isWordIn Vocabulary.relationalOperators) n

def isUrlFunction (t : Tree) (n : NodeId) : Bool :=
  t.holds (Node.isFunctionNamed "url") n

/-- A key and a value: a comma group whose second child is a colon. -/
def isKeyValuePair (t : Tree) (n : NodeId) : Bool :=
  t.isKind n .commaGroup && (t.child? n 1).any (t.isKind · .colon)

/-- Keys and values in parentheses: a group in parentheses whose first child is such a pair. -/
def isKeyValueContainer (t : Tree) (n : NodeId) : Bool :=
  t.isParenGroup n && (t.child? n 0).any t.isKeyValuePair

/-- The sigil of a variable whose name is the word that touches it. -/
def isVariableShorthand (t : Tree) (n : NodeId) (next : Option NodeId) : Bool :=
  t.holds (Node.isFunction "$$") n && next.any (t.holds Node.isAdjacentWord)

end Tree

end StyleTree
