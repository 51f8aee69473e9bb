import StyleTree.Context

/-!
# Environments

The context of a node as a pass from the root finds it: on the way down an environment is carried
that holds all that the questions of context ask for, and is updated at each step into a child.
-/

namespace StyleTree

/-- What is around a node. -/
structure Environment where
  parent : Option NodeId
  grandparent : Option NodeId
  declaration : Option NodeId
  atRule : Option NodeId
  rule : Option NodeId
  function : Option NodeId
  isLast : Bool
  deriving DecidableEq, Repr

namespace Environment

/-- Around the root there is nothing. -/
def top : Environment :=
  ⟨none, none, none, none, none, none, false⟩

/-- What is around a child of `n`, the last one or not, when `env` is around `n`. -/
def below (env : Environment) (t : Tree) (n : NodeId) (isLast : Bool) : Environment :=
  let nearest (kind : Kind) (outer : Option NodeId) := if t.isKind n kind then some n else outer
  {
    parent := some n
    grandparent := env.parent
    declaration := nearest .declaration env.declaration
    atRule := nearest .atRule env.atRule
    rule := nearest .rule env.rule
    function := nearest .function env.function
    isLast
  }

/-- The lower-cased property of the declaration around a node. -/
def property? (env : Environment) (t : Tree) : Option String :=
  match env.declaration.bind t.prop? with
  | some prop => if prop.isEmpty then none else some (Text.lowercase prop)
  | none => none

/-- The function around a node has this name. -/
def insideFunction (env : Environment) (t : Tree) (name : String) : Bool :=
  (env.function.bind t.name?).any (Text.sameFold · name)

def insideAtRule (env : Environment) (t : Tree) (name : String) : Bool :=
  (env.atRule.bind t.name?).any (Text.sameFold · name)

def insideIcssBlock (env : Environment) (t : Tree) : Bool :=
  (env.rule.bind t.rawSelector?).any Tree.isIcssSelector

/-- The node `n` is a call of `url` and one more group, as the parameters of an import. -/
def isImportUrl (env : Environment) (t : Tree) (n : NodeId) : Bool :=
  env.atRule.bind t.name? == some "import" &&
    t.isGroup n && (t.children n).length == 2 && (t.child? n 0).bind t.text? == some "url"

/-- The word names a position, and the at-rule around a node is a block of keyframes. -/
def isKeyframePosition (env : Environment) (t : Tree) (word : String) : Bool :=
  (env.atRule.bind t.name?).any Tree.isKeyframesName && Vocabulary.isKeyframePosition word

def isMapEntry (env : Environment) (t : Tree) (n : NodeId) : Bool :=
  let inMap := env.grandparent.any t.isKeyValueContainer
  let inVariable := (env.declaration.bind t.prop?).any (['$'].isPrefixOf ·.toList)
  t.isGroup n && !(t.children n).isEmpty && (t.isKeyValueContainer n || inMap) &&
    (inVariable || inMap || env.grandparent.any (t.isKind · .function))

end Environment

/-- The pass from the root down meets a node in an environment. -/
inductive Tree.Meets (t : Tree) : NodeId → Environment → Prop where
  | root : Meets t t.root .top
  | child {p c : NodeId} {env : Environment} {i : Nat} (outer : Meets t p env)
      (child : t.child? p i = some c) :
      Meets t c (env.below t p (i + 1 == (t.children p).length))

end StyleTree
