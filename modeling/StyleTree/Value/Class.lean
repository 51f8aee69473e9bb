import StyleTree.Value.Basic

/-!
# Classes of values

All that a node of the grammar of values is, collected without any precedence. What makes a node a
member of a class is told a second time by the node itself and by the children that count, so that
a node is a member of two classes only when two of the rules apply to it.
-/

namespace StyleTree

/-- What a node of the grammar of values can be. -/
inductive ValueClass where
  | forKeyword
  | logicalKeyword
  | eachKeyword
  | arithmeticOperator
  | equalityOperator
  | relationalOperator
  | parenGroup
  | urlFunction
  | keyValuePair
  | keyValueContainer
  deriving DecidableEq, Repr

namespace ValueClass

def all : List ValueClass :=
  [
    .forKeyword, .logicalKeyword, .eachKeyword, .arithmeticOperator, .equalityOperator,
    .relationalOperator, .parenGroup, .urlFunction, .keyValuePair, .keyValueContainer
  ]

def name : ValueClass → String
  | .forKeyword => "for-keyword"
  | .logicalKeyword => "logical-keyword"
  | .eachKeyword => "each-keyword"
  | .arithmeticOperator => "arithmetic-operator"
  | .equalityOperator => "equality-operator"
  | .relationalOperator => "relational-operator"
  | .parenGroup => "paren-group"
  | .urlFunction => "url-function"
  | .keyValuePair => "key-value-pair"
  | .keyValueContainer => "key-value-container"

def admits (t : Tree) (n : NodeId) : ValueClass → Bool
  | .forKeyword => t.isForKeyword n
  | .logicalKeyword => t.isLogicalKeyword n
  | .eachKeyword => t.isEachKeyword n
  | .arithmeticOperator => t.isArithmeticOperator n
  | .equalityOperator => t.isEqualityOperator n
  | .relationalOperator => t.isRelationalOperator n
  | .parenGroup => t.isParenGroup n
  | .urlFunction => t.isUrlFunction n
  | .keyValuePair => t.isKeyValuePair n
  | .keyValueContainer => t.isKeyValueContainer n

end ValueClass

/-- The classes that a node is in. -/
def Tree.valueClasses (t : Tree) (n : NodeId) : List ValueClass :=
  ValueClass.all.filter (ValueClass.admits t n)

/-- The words of a class; none when the class is not one of words. -/
def ValueClass.words : ValueClass → List String
  | .forKeyword => Vocabulary.forKeywords
  | .logicalKeyword => Vocabulary.logicalKeywords
  | .eachKeyword => Vocabulary.eachKeywords
  | .equalityOperator => Vocabulary.equalityOperators
  | .relationalOperator => Vocabulary.relationalOperators
  | _ => []

/-- The node is in the class. -/
inductive Tree.Belongs (t : Tree) : Node → ValueClass → Prop where
  | word {c : ValueClass} {value before : String} (mem : value ∈ c.words) :
      Belongs t (.word value before) c
  | operator {value : String} (mem : value ∈ Vocabulary.arithmeticOperators) :
      Belongs t (.operator value) .arithmeticOperator
  | parens {opening closing : Option String} {groups : List NodeId} :
      Belongs t (.parenGroup opening closing groups) .parenGroup
  | url {name : String} {args : List NodeId} (fold : Text.sameFold name "url" = true) :
      Belongs t (.function name args) .urlFunction
  | pair {key sep : NodeId} {rest : List NodeId} (colon : t.node? sep = some .colon) :
      Belongs t (.commaGroup (key :: sep :: rest)) .keyValuePair
  | container {opening closing : Option String} {first : NodeId} {rest : List NodeId} {x : Node}
      (entry : t.node? first = some x) (pair : Belongs t x .keyValuePair) :
      Belongs t (.parenGroup opening closing (first :: rest)) .keyValueContainer

end StyleTree
