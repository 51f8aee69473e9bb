import StyleTree.Arena
import StyleTree.Document

/-!
# Laying out documents

A document becomes the nodes of an arena. Everything below a node is added before the node itself,
in source order, except that the first group of a function is added after its other groups.
-/

namespace StyleTree

namespace Document

mutual

/-- Add a document to an arena; gives the id of its top node. -/
def layOut (a : Arena) : Document → Arena × NodeId
  | .root nodes =>
    let (a, nodes) := layOutAll a nodes
    a.push (.root nodes)
  | .declaration prop value raws =>
    let (a, value) := layOutContent a value
    a.push (.declaration prop value (raws.value.bind SourceText.raw?))
  | .atRule name params raws nodes =>
    let text := Content.textOrEmpty params
    let (a, params) := layOutContent a params
    let (a, nodes) := layOutAll a nodes
    a.push (.atRule name text (raws.params.bind SourceText.raw?) (params.toList ++ nodes))
  | .rule selector raws nodes =>
    let (a, nodes) := layOutAll a nodes
    a.push (.rule selector (raws.selectorText selector) nodes)
  | .valueRoot group =>
    let (a, group) := layOutOption a group
    a.push (.valueRoot group)
  | .valueValue group =>
    let (a, group) := layOutOption a group
    a.push (.valueValue group)
  | .commaGroup groups =>
    let (a, groups) := layOutAll a groups
    a.push (.commaGroup groups)
  | .parenGroup opening closing groups =>
    let (a, groups) := layOutAll a groups
    a.push (.parenGroup (opening.bind SourceText.raw?) (closing.bind SourceText.raw?) groups)
  | .function name group groups =>
    let (a, groups) := layOutAll a groups
    let (a, group) := layOutOption a group
    a.push (.function name (group.toList ++ groups))
  | .word value raws => a.push (.word value (raws.before.getD ""))
  | .operator value => a.push (.operator value)
  | .colon => a.push .colon
  | .other name => a.push (.other name)

/-- Add documents in order; gives the ids of their top nodes. -/
def layOutAll (a : Arena) : List Document → Arena × List NodeId
  | [] => (a, [])
  | d :: ds =>
    let (a, id) := layOut a d
    let (a, ids) := layOutAll a ds
    (a, id :: ids)

/-- Add a document, if there is one. -/
def layOutOption (a : Arena) : Option Document → Arena × Option NodeId
  | none => (a, none)
  | some d =>
    let (a, id) := layOut a d
    (a, some id)

/-- Add the parsed part of a value, if there is one. -/
def layOutContent (a : Arena) : Option (Content Document) → Arena × Option NodeId
  | none | some (.text _) => (a, none)
  | some (.parsed d) =>
    let (a, id) := layOut a d
    (a, some id)

end

end Document

end StyleTree
