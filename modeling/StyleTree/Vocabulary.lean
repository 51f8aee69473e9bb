import StyleTree.Text.Lowercase

/-!
# Vocabulary

The fixed words and operators by which generic words, operators and at-rules are told apart.
-/

namespace StyleTree.Vocabulary

/-- The names of at-rules that control the flow of SCSS. -/
def controlDirectives : List String := ["if", "else", "for", "each", "while"]

def forKeywords : List String := ["from", "through", "end"]

def logicalKeywords : List String := ["and", "or", "not"]

def eachKeywords : List String := ["in"]

/-- The operators that are set off by spaces. -/
def arithmeticOperators : List String := ["+", "-", "/", "*", "%"]

/-- The comparisons for equality, which the grammar of values reads as words. -/
def equalityOperators : List String := ["==", "!="]

/-- The comparisons by order, which the grammar of values reads as words. -/
def relationalOperators : List String := ["<", ">", "<=", ">="]

/-- The keywords that every property takes. -/
def wideKeywords : List String := ["initial", "inherit", "unset", "revert"]

def keyframePositions : List String := ["from", "to"]

def isWideKeyword (word : String) : Bool :=
  wideKeywords.any (Text.sameFold · word)

def isKeyframePosition (word : String) : Bool :=
  keyframePositions.any (Text.sameFold · word)

end StyleTree.Vocabulary
