/-!
# Nested trees

Trees that hold their subtrees themselves: the form in which the shape of a document or of an
arena is compared, free of ids and of the order in which nodes were made.
-/

namespace StyleTree

/-- A label and the subtrees under it, in order. -/
inductive Rose (α : Type) where
  | node (label : α) (children : List (Rose α))

namespace Rose

variable {α β : Type}

def label : Rose α → α
  | .node label _ => label

def children : Rose α → List (Rose α)
  | .node _ children => children

/-- A nested tree is its label over its subtrees. -/
@[simp] theorem node_label_children (r : Rose α) : .node r.label r.children = r := by
  cases r
  rfl

mutual

/-- Every label: the top first, and then the subtrees one after the other. -/
def preorder : Rose α → List α
  | .node label children => label :: preorderAll children

/-- The labels of several trees, one after the other. -/
def preorderAll : List (Rose α) → List α
  | [] => []
  | r :: rs => preorder r ++ preorderAll rs

end

mutual

/-- The same shape with other labels. -/
def map (f : α → β) : Rose α → Rose β
  | .node label children => .node (f label) (mapAll f children)

/-- The same shapes with other labels. -/
def mapAll (f : α → β) : List (Rose α) → List (Rose β)
  | [] => []
  | r :: rs => map f r :: mapAll f rs

end

/-- A node of a nested tree with a gap in the place of one of its subtrees. -/
structure Frame (α : Type) where
  label : α
  left : List (Rose α)
  right : List (Rose α)

/-- The tree that has `r` in the gap inside of the frames, the outermost first. -/
def fill : List (Frame α) → Rose α → Rose α
  | [], r => r
  | frame :: frames, r => .node frame.label (frame.left ++ fill frames r :: frame.right)

/-- Relabelling several trees is relabelling each. -/
theorem mapAll_eq_map (f : α → β) (rs : List (Rose α)) : mapAll f rs = rs.map (map f) := by
  induction rs with
  | nil => rfl
  | cons r rs ih => simp [mapAll, ih]

/-- The labels of several trees are those of each, one tree after the other. -/
theorem preorderAll_eq_flatMap (rs : List (Rose α)) : preorderAll rs = rs.flatMap preorder := by
  induction rs with
  | nil => rfl
  | cons r rs ih => simp [preorderAll, ih]

/-- The labels of trees before others come before those of the others. -/
theorem preorderAll_append (rs ss : List (Rose α)) :
    preorderAll (rs ++ ss) = preorderAll rs ++ preorderAll ss := by
  simp [preorderAll_eq_flatMap]

end Rose

end StyleTree
