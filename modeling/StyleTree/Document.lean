import StyleTree.Node

/-!
# Documents

What a parser hands over: a nested tree in which every node still carries the spellings that the
source used. A document is laid out into an arena, children before parents.
-/

namespace StyleTree

/-- A text kept bare, or as its spelling in the source and its meaning. -/
inductive SourceText where
  | bare (text : String)
  | spelled (raw value : Option String)
  deriving DecidableEq, Repr

namespace SourceText

/-- The spelling, or failing that the meaning. -/
def raw? : SourceText → Option String
  | .bare text => some text
  | .spelled raw value => raw.or value

end SourceText

/-- The spellings that a node carries. -/
structure Raws where
  before : Option String
  selector : Option SourceText
  params : Option SourceText
  value : Option SourceText
  deriving DecidableEq, Repr

namespace Raws

def empty : Raws :=
  ⟨none, none, none, none⟩

/-- The selector as written, or failing that the selector when it is plain text. -/
def selectorText (raws : Raws) (selector : Option Selector) : Option String :=
  (raws.selector.bind SourceText.raw?).or (selector.bind Selector.plain?)

end Raws

/-- A value left as text, or parsed into a node. -/
inductive Content (α : Type) where
  | text (text : String)
  | parsed (node : α)

namespace Content

/-- The text, which is empty when the value was parsed or is missing. -/
def textOrEmpty {α : Type} : Option (Content α) → String
  | some (.text s) => s
  | some (.parsed _) | none => ""

end Content

/-- A node of a document with all that is below it. -/
inductive Document where
  | root (nodes : List Document)
  | declaration (prop : Option String) (value : Option (Content Document)) (raws : Raws)
  | atRule (name : String) (params : Option (Content Document)) (raws : Raws)
      (nodes : List Document)
  | rule (selector : Option Selector) (raws : Raws) (nodes : List Document)
  | valueRoot (group : Option Document)
  | valueValue (group : Option Document)
  | commaGroup (groups : List Document)
  | parenGroup (opening closing : Option SourceText) (groups : List Document)
  /-- A function; `group` comes before `groups`. -/
  | function (name : String) (group : Option Document) (groups : List Document)
  | word (value : String) (raws : Raws)
  | operator (value : String)
  | colon
  | other (name : String)

end StyleTree
