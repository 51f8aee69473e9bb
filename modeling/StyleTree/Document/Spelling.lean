import StyleTree.Document
import StyleTree.Json.Fields

/-!
# Reading spellings

The parts of a document that hold no nodes: texts with their spellings, selectors, and the set of
spellings that a node carries.
-/

namespace StyleTree

namespace SourceText

/-- A bare string, or an object with `raw` and `value`. -/
def ofJson? : Json → Option SourceText
  | .string text => some (.bare text)
  | .object members => do
    let fields : Fields Json := members
    let raw ← fields.withDefault "raw" none (Json.orNull Json.text?)
    let value ← fields.withDefault "value" none (Json.orNull Json.text?)
    return .spelled raw value
  | _ => none

end SourceText

namespace Selector

/-- A bare string, or an object with `value`. -/
def ofJson? : Json → Option Selector
  | .string s => some (.text s)
  | .object members => do
    let fields : Fields Json := members
    let flattened ← fields.withDefault "value" none (Json.orNull Json.text?)
    return .structured flattened
  | _ => none

end Selector

namespace Raws

/-- The spellings among the members of an object. -/
def ofFields? (fields : Fields Json) : Option Raws := do
  let before ← fields.withDefault "before" none (Json.orNull Json.text?)
  let selector ← fields.withDefault "selector" none (Json.orNull SourceText.ofJson?)
  let params ← fields.withDefault "params" none (Json.orNull SourceText.ofJson?)
  let value ← fields.withDefault "value" none (Json.orNull SourceText.ofJson?)
  return ⟨before, selector, params, value⟩

/-- An object, or an array of all four spellings. -/
def ofJson? : Json → Option Raws
  | .object members => ofFields? members
  | .array [before, selector, params, value] =>
    ofFields? [("before", before), ("selector", selector), ("params", params), ("value", value)]
  | _ => none

end Raws

end StyleTree
