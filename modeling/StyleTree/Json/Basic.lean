import StyleTree.Json.Numeral

/-!
# Document values

The values that a document in the exchange format can hold. Members keep their order and their
repetitions, because what a reader makes of them depends on both.

A place at any depth of a value is a gap inside of containers. One container with a gap is a layer,
and the layers around a gap, the outermost first, tell the whole place.
-/

namespace StyleTree

/-- A value of the exchange format. -/
inductive Json where
  | null
  | bool (value : Bool)
  | number (value : Json.Numeral)
  | string (value : String)
  | array (items : List Json)
  | object (members : List (String × Json))
  deriving Inhabited

namespace Json

/-- The text of a string value. -/
def text? : Json → Option String
  | .string s => some s
  | _ => none

/-- Read a value by `read`, and null as nothing. -/
def orNull {α : Type} (read : Json → Option α) : Json → Option (Option α)
  | .null => some none
  | j => (read j).map some

/-- The value itself, when it is no container. -/
def scalar? : Json → Option Json
  | .array _ | .object _ => none
  | j => some j

/-- A container with a gap in the place of one value. -/
inductive Layer where
  | member (before : List (String × Json)) (key : String) (after : List (String × Json))
  | item (before after : List Json)

/-- The container with a value in its gap. -/
def Layer.fill : Layer → Json → Json
  | .member before key after, j => .object (before ++ (key, j) :: after)
  | .item before after, j => .array (before ++ j :: after)

/-- The value that has `j` in the gap inside of the layers. -/
def fill : List Layer → Json → Json
  | [], j => j
  | layer :: layers, j => layer.fill (fill layers j)

/-- A container is no scalar, whatever is in its gap. -/
theorem scalar?_fill (layer : Layer) (j : Json) : (layer.fill j).scalar? = none := by
  cases layer <;> rfl

/-- The text of a value is that of a scalar. -/
theorem text?_eq (j : Json) : j.text? = j.scalar?.bind text? := by
  cases j <;> rfl

end Json

end StyleTree
