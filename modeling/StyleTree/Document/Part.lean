import StyleTree.Document.Fit
import StyleTree.Document.Nested
import StyleTree.Tree.Unfolding

/-!
# Parts of documents

The documents inside a document, by their places, and the nodes that they become. A literal is
known as one of keys and values before there is a tree.

Parts are laid out in their order, but for one: the group of a function comes last.
-/

namespace StyleTree

namespace Document

/-- The documents that become the children, in their order. -/
def parts : Document → List Document
  | .root nodes | .rule _ _ nodes => nodes
  | .declaration _ (some (.parsed value)) _ => [value]
  | .declaration _ (some (.text _)) _ | .declaration _ none _ => []
  | .atRule _ (some (.parsed params)) _ nodes => params :: nodes
  | .atRule _ (some (.text _)) _ nodes | .atRule _ none _ nodes => nodes
  | .valueRoot group | .valueValue group => group.toList
  | .commaGroup groups | .parenGroup _ _ groups => groups
  | .function _ group groups => group.toList ++ groups
  | .word .. | .operator _ | .colon | .other _ => []

/-- Go from a document to the part at one place after the other. -/
def partAlong? (d : Document) (places : List Nat) : Option Document :=
  places.foldlM (fun e i => e.parts[i]?) d

/-- The documents that are left on the way, the outermost first. -/
def around : Document → List Nat → List Document
  | _, [] => []
  | d, i :: places => d :: (d.parts[i]?).elim [] (·.around places)

/-- The group as a value, as a declaration and the parameters of an at-rule wrap it. -/
def asValue (group : Document) : Document :=
  .valueRoot (some (.valueValue (some group)))

/-- A key and a value: a comma group whose second part is a colon. -/
def isKeyValuePair (d : Document) : Bool :=
  d.kind == .commaGroup && (d.parts[1]?).any (·.kind == .colon)

/-- Keys and values in parentheses. -/
def isKeyValueContainer (d : Document) : Bool :=
  d.kind == .parenGroup && (d.parts[0]?).any isKeyValuePair

/-- How many nodes the document stands for. -/
def nodeCount (d : Document) : Nat :=
  d.nested.preorder.length

/--
What belongs to the parts of the document, in the order in which the parts are laid out. Only the
group of a function stands elsewhere, first among the parts and laid out last.
-/
def inLayingOrder {α : Type} (d : Document) (xs : List α) : List α :=
  match d with
  | .function _ (some _) _ => xs.drop 1 ++ xs.take 1
  | _ => xs

/-- What belongs to the parts stays when it is put in the order of laying out. -/
theorem mem_inLayingOrder {α : Type} {d : Document} {x : α} {xs : List α} :
    x ∈ d.inLayingOrder xs ↔ x ∈ xs := by
  unfold inLayingOrder
  split
  · rw [List.mem_append, or_comm, ← List.mem_append, List.take_append_drop]
  · rfl

end Document

/-- The tree below the node `n` is what the document `d` becomes. -/
def Tree.Shows (t : Tree) (n : NodeId) (d : Document) : Prop :=
  t.arena.ReadsAs n d.nested

end StyleTree
