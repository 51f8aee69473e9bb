import StyleTree.Document.Layout
import StyleTree.Node.Label
import StyleTree.Rose

/-!
# The shape of a document

The nested tree that a document stands for, by recursion on the document and without an arena.
-/

namespace StyleTree

/-- The text in the source: the bare text, or the spelling before the meaning. -/
def SourceText.written : SourceText → Option String
  | .bare text => some text
  | .spelled (some raw) _ => some raw
  | .spelled none value => value

/-- The text in the source, of a spelling that may be missing. -/
def SourceText.writtenOption : Option SourceText → Option String
  | none => none
  | some s => s.written

/-- The selector of a rule in the source: its spelling, or the selector when it is plain text. -/
def Raws.writtenSelector (raws : Raws) (selector : Option Selector) : Option String :=
  match SourceText.writtenOption raws.selector, selector with
  | some s, _ => some s
  | none, some (.text s) => some s
  | none, some (.structured _) | none, none => none

/-- What a text shows of itself is its spelling, or failing that its meaning. -/
theorem SourceText.bind_raw? (s : Option SourceText) :
    s.bind SourceText.raw? = SourceText.writtenOption s := by
  rcases s with _ | _ | ⟨_ | _, _⟩ <;> rfl

/-- The selector as written is the one told by the spellings and the selector. -/
theorem Raws.selectorText_eq (raws : Raws) (selector : Option Selector) :
    raws.selectorText selector = raws.writtenSelector selector := by
  unfold selectorText writtenSelector
  rw [SourceText.bind_raw?]
  rcases SourceText.writtenOption raws.selector with _ | _ <;>
    rcases selector with _ | _ | _ <;> rfl

namespace Document

mutual

/-- The nested tree of a document. -/
def nested : Document → Rose Label
  | .root nodes => .node .root (nestedAll nodes)
  | .declaration prop value raws =>
    .node (.declaration prop (SourceText.writtenOption raws.value)) (nestedContent value)
  | .atRule name none raws nodes =>
    .node (.atRule name "" (SourceText.writtenOption raws.params)) (nestedAll nodes)
  | .atRule name (some (.text params)) raws nodes =>
    .node (.atRule name params (SourceText.writtenOption raws.params)) (nestedAll nodes)
  | .atRule name (some (.parsed params)) raws nodes =>
    .node (.atRule name "" (SourceText.writtenOption raws.params))
      (nested params :: nestedAll nodes)
  | .rule selector raws nodes =>
    .node (.rule selector (raws.writtenSelector selector)) (nestedAll nodes)
  | .valueRoot group => .node .valueRoot (nestedOption group)
  | .valueValue group => .node .valueValue (nestedOption group)
  | .commaGroup groups => .node .commaGroup (nestedAll groups)
  | .parenGroup opening closing groups =>
    .node
      (.parenGroup (SourceText.writtenOption opening) (SourceText.writtenOption closing))
      (nestedAll groups)
  | .function name group groups =>
    .node (.function name) (nestedOption group ++ nestedAll groups)
  | .word value raws => .node (.word value (raws.before.getD "")) []
  | .operator value => .node (.operator value) []
  | .colon => .node .colon []
  | .other name => .node (.other name) []

/-- The nested trees of documents. -/
def nestedAll : List Document → List (Rose Label)
  | [] => []
  | d :: ds => nested d :: nestedAll ds

/-- The nested tree of a document, if there is one. -/
def nestedOption : Option Document → List (Rose Label)
  | none => []
  | some d => [nested d]

/-- The nested tree of the parsed part of a value, if there is one. -/
def nestedContent : Option (Content Document) → List (Rose Label)
  | none | some (.text _) => []
  | some (.parsed d) => [nested d]

end

/-- Several documents stand for what each of them stands for, in order. -/
theorem nestedAll_eq_map (ds : List Document) : nestedAll ds = ds.map nested := by
  induction ds with
  | nil => rfl
  | cons d ds ih => simp [nestedAll, ih]

end Document

end StyleTree
