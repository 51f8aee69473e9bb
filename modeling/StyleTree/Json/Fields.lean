import StyleTree.Json.Basic

/-!
# Fields

Looking up what an object says under a key. A key that is looked for may stand once at most; keys
that nobody asks for may stand as often as they like.
-/

namespace StyleTree

/-- The members of an object, or the elements of an array under the names of their fields. -/
abbrev Fields (α : Type) := List (String × α)

namespace Fields

variable {α β : Type}

/-- Read the field `key`: `absent` when there is none, and a failure when it is repeated. -/
def get (fields : Fields α) (key : String) (absent : Option β) (read : α → Option β) : Option β :=
  match fields.filter (·.1 == key) with
  | [] => absent
  | [(_, value)] => read value
  | _ => none

/-- What stands under a key, with repetitions. -/
def values (fields : Fields α) (key : String) : List α :=
  (fields.filter (·.1 == key)).map (·.2)

/-- Read the field `key`, which must be there. -/
def required (fields : Fields α) (key : String) (read : α → Option β) : Option β :=
  fields.get key none read

/-- Read the field `key`, or take a default when there is none. -/
def withDefault (fields : Fields α) (key : String) (default : β) (read : α → Option β) :
    Option β :=
  fields.get key (some default) read

/-- What is read under a key depends on what stands there. -/
theorem get_eq (fields : Fields α) (key : String) (absent : Option β) (read : α → Option β) :
    fields.get key absent read =
      match fields.values key with
      | [] => absent
      | [value] => read value
      | _ => none := by
  unfold get values
  generalize fields.filter _ = found
  rcases found with _ | ⟨⟨_, value⟩, _ | ⟨_, _⟩⟩ <;> rfl

/-- What stands under a key in two rows of fields stands there in one row after the other. -/
@[simp] theorem values_append (fields more : Fields α) (key : String) :
    values (fields ++ more) key = fields.values key ++ more.values key := by
  simp [values]

/-- The value of a first field comes first under its key. -/
@[simp] theorem values_cons_self (fields : Fields α) (key : String) (value : α) :
    values ((key, value) :: fields) key = value :: fields.values key := by
  simp [values]

/-- A value under another key does not stand under this one. -/
theorem values_insert_of_ne (before after : Fields α) {key key' : String} (value : α)
    (ne : key' ≠ key) :
    values (before ++ (key', value) :: after) key = values (before ++ after) key := by
  simp [values, ne]

/-- What stands under a key when every value is replaced by another. -/
theorem values_map (fields : Fields α) (f : α → β) (key : String) :
    values (fields.map fun field => (field.1, f field.2)) key = (fields.values key).map f := by
  simp [values, List.filter_map, Function.comp_def]

end Fields

end StyleTree
