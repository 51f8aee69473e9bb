import StyleTree.Text.Lowercase

/-!
# Identifiers

Keywords and property names of plain CSS have no letter case. Variables, custom properties,
placeholders and calls have names of the author's choice, which are kept as they are.

The signs that a name is of an author's choice are told once more as the texts that bear them,
without a way to find them. A call has its parentheses in order; the texts that have both
parentheses in the wrong order only are told apart from it.
-/

namespace StyleTree.Identifier

/-- One of the characters that mark a variable, an at-keyword or an interpolation is in the text. -/
def hasMarker (s : List Char) : Bool :=
  s.contains '$' || s.contains '@' || s.contains '#'

/-- The text begins as a placeholder, a custom property or a custom selector does. -/
def hasCustomStart (s : List Char) : Bool :=
  ['%'].isPrefixOf s || ['-', '-'].isPrefixOf s || [':', '-', '-'].isPrefixOf s

/-- Both parentheses are in the text, in whatever order. -/
def hasParens (s : List Char) : Bool :=
  s.contains '(' && s.contains ')'

/-- The letter case of the text may matter. -/
def keepsCase (s : String) : Bool :=
  hasMarker s.toList || hasCustomStart s.toList || hasParens s.toList

/-- The text in lower case, unless its letter case may matter. -/
def normalize (s : String) : String :=
  if keepsCase s then s else Text.lowercase s

/-- An opening parenthesis is in the text, and a closing one somewhere after it. -/
def HasCall (s : List Char) : Prop :=
  ['(', ')'].Sublist s

instance (s : List Char) : Decidable (HasCall s) :=
  inferInstanceAs (Decidable (List.Sublist _ _))

/-- Both parentheses are in the text, and every closing one stands before every opening one. -/
def HasReversedParens (s : List Char) : Prop :=
  ∃ before after, s = before ++ after ∧
    ')' ∈ before ∧ '(' ∉ before ∧ '(' ∈ after ∧ ')' ∉ after

/-- The texts that bear a sign. -/
inductive Signed : List Char → Prop where
  | sigil {s : List Char} (mem : '$' ∈ s ∨ '@' ∈ s) : Signed s
  | interpolation {s : List Char} (mem : '#' ∈ s) : Signed s
  | placeholder {rest : List Char} : Signed ('%' :: rest)
  | customProperty {rest : List Char} : Signed ('-' :: '-' :: rest)
  | customSelector {rest : List Char} : Signed (':' :: '-' :: '-' :: rest)
  | call {s : List Char} (call : HasCall s) : Signed s

end StyleTree.Identifier
