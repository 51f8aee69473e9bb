import StyleTree.Tree.Ancestors
import StyleTree.Value.Basic

/-!
# Context

What a node is because of the nodes around it. The same group in parentheses is a map, a media
feature or a list; only what encloses it decides.
-/

namespace StyleTree.Tree

/-- The nearest function around `n` has this name, in any letter case. -/
def insideFunction (t : Tree) (n : NodeId) (name : String) : Bool :=
  ((t.nearest? n [.function]).bind t.name?).any (Text.sameFold · name)

def insideAtRule (t : Tree) (n : NodeId) (name : String) : Bool :=
  ((t.nearest? n [.atRule]).bind t.name?).any (Text.sameFold · name)

/-- The selector is that of an ICSS block, which imports or exports names. -/
def isIcssSelector (selector : String) : Bool :=
  ":import".toList.isPrefixOf selector.toList || ":export".toList.isPrefixOf selector.toList

/-- The nearest rule around `n` is an ICSS block. -/
def insideIcssBlock (t : Tree) (n : NodeId) : Bool :=
  ((t.nearest? n [.rule]).bind t.rawSelector?).any isIcssSelector

/-- A call of `url` and one more group, as the parameters of an import. -/
def isImportUrl (t : Tree) (n : NodeId) : Bool :=
  (t.nearest? n [.atRule]).bind t.name? == some "import" &&
    t.isGroup n && (t.children n).length == 2 && (t.child? n 0).bind t.text? == some "url"

/-- `m` is the last child of the parent of `n`. -/
def isLastSibling (t : Tree) (n m : NodeId) : Bool :=
  (t.parent? n).any fun p => (t.children p).getLast? == some m

/-- The name is that of a block of keyframes, with or without a vendor's mark. -/
def isKeyframesName (name : String) : Bool :=
  "keyframes".toList.isSuffixOf (Text.lowercase name).toList

/-- The word names a position, and the nearest at-rule around `n` is a block of keyframes. -/
def isKeyframePosition (t : Tree) (n : NodeId) (word : String) : Bool :=
  ((t.nearest? n [.atRule]).bind t.name?).any isKeyframesName && Vocabulary.isKeyframePosition word

/-- The nearest declaration around `n` declares a variable of SCSS. -/
def insideVariableDeclaration (t : Tree) (n : NodeId) : Bool :=
  ((t.nearest? n [.declaration]).bind t.prop?).any (['$'].isPrefixOf ·.toList)

/--
A group that belongs to a map: it holds keys and values, or its grandparent does, and the map is
assigned to a variable, stands in another map or is passed to a function.
-/
def isMapEntry (t : Tree) (n : NodeId) : Bool :=
  -- a value root or a value counts as a grandparent like any other node
  let grandparent := t.ancestor? n 1
  let inMap := grandparent.any t.isKeyValueContainer
  t.isGroup n && !(t.children n).isEmpty && (t.isKeyValueContainer n || inMap) &&
    (t.insideVariableDeclaration n || inMap || grandparent.any (t.isKind · .function))

end StyleTree.Tree
