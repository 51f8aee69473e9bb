import StyleTree.Text.Recogniser
import StyleTree.Text.Trivia
import StyleTree.Value.Basic

/-!
# Statements

What rules, at-rules and declarations are, beyond their kinds. Two statements of Less are known by
a shape of their text, which stands here twice: as the function that finds it, and as the texts of
that shape without a way to find it.
-/

namespace StyleTree

open Text Recogniser

/-- The text is an at sign, at least one character, a colon and more, all on one line. -/
def isVariableDeclaration : Recogniser :=
  word ['@'] (oneOrMore (· != '\n') (word [':'] (·.all (· != '\n'))))

/-- The texts that declare a variable: an at sign, a name, a colon and a value, on one line. -/
inductive VariableShape : List Char → Prop where
  | declaration {name value : List Char} (some_name : name ≠ []) (name_line : '\n' ∉ name)
      (value_line : '\n' ∉ value) : VariableShape (['@'] ++ name ++ [':'] ++ value)

/-- The text is a pair of parentheses around white space. -/
def isEmptyCall : Recogniser :=
  word ['('] (zeroOrMore isBlank (word [')'] List.isEmpty))

/-- The texts that call without arguments: parentheses with nothing but white space between. -/
inductive EmptyCallShape : List Char → Prop where
  | parens {blanks : List Char} (blank : ∀ b ∈ blanks, Text.isBlank b = true) :
      EmptyCallShape (['('] ++ blanks ++ [')'])

/-- The text, without its comments and the white space around it, ends with a colon. -/
def endsWithColon (s : List Char) : Bool :=
  (trim (removeComments s)).getLast? == some ':'

namespace Node

def isControlDirective : Node → Bool
  | .atRule name _ _ _ => Vocabulary.controlDirectives.contains name
  | _ => false

end Node

namespace Tree

def isControlDirective (t : Tree) (n : NodeId) : Bool :=
  t.holds Node.isControlDirective n

/-- A Less declaration of a variable that was read as a rule, its name ending with a colon. -/
def isMisparsedVariableDeclaration (t : Tree) (n : NodeId) : Bool :=
  ((t.selector? n).bind Selector.text?).any fun s => isVariableDeclaration s.toList

/-- Nested properties of SCSS: a rule whose selector is a property and a colon. -/
def isNestedPropertyBlock (t : Tree) (n : NodeId) : Bool :=
  ((t.selector? n).bind Selector.plain?).any fun s => endsWithColon s.toList

/-- A Less call of a detached ruleset without arguments. -/
def isDetachedRulesetCall (t : Tree) (n : NodeId) : Bool :=
  (t.rawParams? n).any fun s => isEmptyCall s.toList

/-- The value that a declaration's value root wraps. -/
def wrappedValue? (t : Tree) (n : NodeId) : Option NodeId :=
  (t.value? n).bind fun root => if t.isKind root .valueRoot then t.group? root else none

/-- A Less extension written as a declaration. -/
def hasExtendCall (t : Tree) (n : NodeId) : Bool :=
  (t.wrappedValue? n).any fun value =>
    t.isKind value .valueValue && (t.group? value).any (t.holds (Node.isFunction "extend"))

/-- A composition of classes with a parsed value. -/
def hasComposesProperty (t : Tree) (n : NodeId) : Bool :=
  (t.wrappedValue? n).any (t.isKind · .valueValue) && (t.prop? n).any (Text.sameFold · "composes")

/-- A declaration whose value the author put in parentheses. -/
def hasExplicitParens (t : Tree) (n : NodeId) : Bool :=
  (((t.value? n).bind t.group?).bind t.group?).any <| t.holds fun
    | .parenGroup (some _) (some _) _ => true
    | _ => false

end Tree

end StyleTree
