import Mathlib.Data.List.Perm.Basic
import StyleTree.Document.Role

/-!
# Agreement

Two readings agree in a role when they tell the same to whoever asks for the role (`Role.Agree`). A
field is read the same when what stands under its key corresponds: when there is as much of it, and
the readings agree if there is just one on either side (`Fields.Corresponds`). So two sets of fields
that correspond under every key of the table are read as the same node (`Document.ofFields?_congr`).
The last two lemmas bring objects and arrays to their fields.
-/

namespace StyleTree

namespace Fields

variable {α β γ : Type} {R : α → β → Prop} {xs : List α} {ys : List β}

/-- Two lists of values under one key: of the same length, and related where each is one value. -/
structure Corresponds (R : α → β → Prop) (xs : List α) (ys : List β) : Prop where
  length : xs.length = ys.length
  single : ∀ x y, xs = [x] → ys = [y] → R x y

/-- Corresponding values are read to the same result. -/
lemma get_congr {fields : Fields α} {fields' : Fields β} {key : String} {absent : Option γ}
    {read : α → Option γ} {read' : β → Option γ}
    (c : Corresponds R (fields.values key) (fields'.values key))
    (same : ∀ x y, R x y → read x = read' y) :
    fields.get key absent read = fields'.get key absent read' := by
  rw [get_eq, get_eq]
  generalize fields.values key = xs at c
  generalize fields'.values key = ys at c
  rcases xs with _ | ⟨x, _ | ⟨_, _⟩⟩ <;> rcases ys with _ | ⟨y, _ | ⟨_, _⟩⟩
  case nil.nil => rfl
  case cons.nil.cons.nil => exact same x y (c.single x y rfl rfl)
  case cons.cons.cons.cons => rfl
  all_goals
    have length := c.length
    simp at length

/-- Fields whose images are alike are alike after the two maps. -/
lemma Corresponds.map {α' β' : Type} {f : α → α'} {g : β → β'} {R : α' → β' → Prop}
    (c : Corresponds (fun x y => R (f x) (g y)) xs ys) : Corresponds R (xs.map f) (ys.map g) where
  length := by simpa using c.length
  single := by
    intro x y one one'
    obtain ⟨x, rfl, rfl⟩ := List.map_eq_singleton_iff.mp one
    obtain ⟨y, rfl, rfl⟩ := List.map_eq_singleton_iff.mp one'
    exact c.single x y rfl rfl

/-- The same values in another order correspond. -/
lemma Corresponds.of_perm {R : α → α → Prop} {xs ys : List α} (refl : ∀ x, R x x)
    (perm : xs.Perm ys) : Corresponds R xs ys where
  length := perm.length_eq
  single := by
    rintro x y rfl rfl
    obtain rfl := List.singleton_perm_singleton.mp perm
    exact refl x

/-- Two objects that differ in one value correspond under every key but its own. -/
lemma Corresponds.fill {R : α → α → Prop} {before after : Fields α} {key key' : String} {x y : α}
    (refl : ∀ x, R x x) (own : key' = key → R x y) :
    Corresponds R (Fields.values (before ++ (key', x) :: after) key)
      (Fields.values (before ++ (key', y) :: after) key) := by
  by_cases same : key' = key
  · subst same
    rw [values_append, values_append, values_cons_self, values_cons_self]
    refine ⟨by simp, ?_⟩
    intro u v one one'
    generalize before.values key' = xs at one one'
    rcases xs with _ | ⟨_, _⟩
    · obtain ⟨rfl, _⟩ := List.cons.inj one
      obtain ⟨rfl, _⟩ := List.cons.inj one'
      exact own rfl
    · simp at one
  · rw [values_insert_of_ne before after x same, values_insert_of_ne before after y same]
    exact .of_perm refl (.refl _)

end Fields

open Fields (Corresponds)

namespace Role

variable {r s : Reading}

/-- What a role asks a reading for. -/
def Answer : Role → Type
  | .text => Unit
  | .node | .content => Option Document
  | .nodes => Option (List Document)
  | .spelling => Option SourceText
  | .selector => Option Selector
  | .raws => Option Raws

/-- What a reading tells in a role, apart from what it is as a scalar. -/
def answer : (role : Role) → Reading → role.Answer
  | .text, _ => ()
  | .node, r | .content, r => r.node?
  | .nodes, r => r.nodes?
  | .spelling, r => SourceText.ofJson? r.source
  | .selector, r => Selector.ofJson? r.source
  | .raws, r => Raws.ofJson? r.source

/-- Two readings tell the same in a role. -/
structure Agree (role : Role) (r s : Reading) : Prop where
  scalar : r.source.scalar? = s.source.scalar?
  asked : role.answer r = role.answer s

namespace Agree

/-- A reading agrees with itself. -/
lemma refl (role : Role) (r : Reading) : role.Agree r r :=
  ⟨rfl, rfl⟩

/-- Agreement goes both ways. -/
lemma symm {role : Role} (a : role.Agree r s) : role.Agree s r :=
  ⟨a.scalar.symm, a.asked.symm⟩

/-- Agreement is passed on. -/
lemma trans {role : Role} {u : Reading} (a : role.Agree r s) (b : role.Agree s u) :
    role.Agree r u :=
  ⟨a.scalar.trans b.scalar, a.asked.trans b.asked⟩

/-- Readings that agree in some role agree as texts. -/
lemma toText {role : Role} (a : role.Agree r s) : Role.text.Agree r s :=
  ⟨a.scalar, rfl⟩

/-- Readings that agree say the same text. -/
lemma text? {role : Role} (a : role.Agree r s) : r.text? = s.text? := by
  rw [Reading.text?, Reading.text?, Json.text?_eq, a.scalar, ← Json.text?_eq]

/-- Readings that agree are null together, and what is read alike is read alike or null. -/
lemma orNull {role : Role} {α : Type} {read : Reading → Option α} (a : role.Agree r s)
    (same : read r = read s) : r.orNull read = s.orNull read := by
  obtain ⟨j, _, _⟩ := r
  obtain ⟨j', _, _⟩ := s
  have scalar := a.scalar
  unfold Reading.orNull
  cases j <;> cases j' <;> simp_all [Json.scalar?]

/-- Readings that agree as nodes hold the same node. -/
lemma node? (a : Role.node.Agree r s) : r.node? = s.node? :=
  a.asked

/-- Readings that agree as contents agree as nodes. -/
lemma ofContent (a : Role.content.Agree r s) : Role.node.Agree r s :=
  ⟨a.scalar, a.asked⟩

/-- Readings that agree as contents are the same value of a declaration. -/
lemma value? (a : Role.content.Agree r s) : r.value? = s.value? := by
  rw [Reading.value?, Reading.value?, a.text?, a.ofContent.node?]

/-- Readings that agree as lists of nodes hold the same nodes. -/
lemma nodes? (a : Role.nodes.Agree r s) : r.nodes? = s.nodes? :=
  a.asked

/-- Readings that agree as selectors hold the same selector. -/
lemma selector? (a : Role.selector.Agree r s) :
    r.orNull (Selector.ofJson? ·.source) = s.orNull (Selector.ofJson? ·.source) :=
  a.orNull a.asked

/-- Readings that agree as spellings hold the same spelling. -/
lemma spelling? (a : Role.spelling.Agree r s) :
    r.orNull (SourceText.ofJson? ·.source) = s.orNull (SourceText.ofJson? ·.source) :=
  a.orNull a.asked

/-- Readings that agree as sets of spellings hold the same spellings. -/
lemma raws? (a : Role.raws.Agree r s) : r.raws? = s.raws? :=
  a.asked

/-- Readings that agree as contents are the same parameters of an at-rule. -/
lemma params? (a : Role.content.Agree r s) : r.params? = s.params? := by
  obtain ⟨j, _, _⟩ := r
  obtain ⟨j', _, _⟩ := s
  have scalar := a.scalar
  have node := a.ofContent.node?
  unfold Reading.params?
  cases j <;> cases j' <;> simp_all [Json.scalar?]

end Agree

end Role

namespace Document

variable {fields fields' : Fields Reading}

/-- Fields that agree under every key of the table are read as the same node. -/
lemma ofFields?_congr {kind : Kind}
    (agree : ∀ rule ∈ kind.rules,
      Corresponds rule.role.Agree (fields.values rule.key) (fields'.values rule.key)) :
    ofFields? kind fields = ofFields? kind fields' := by
  have get {β : Type} {key : String} {role : Role} {absent : Option β} {read : Reading → Option β}
      (c : Corresponds role.Agree (fields.values key) (fields'.values key))
      (same : ∀ r s, role.Agree r s → read r = read s) :
      fields.get key absent read = fields'.get key absent read :=
    Fields.get_congr c same
  -- one field after the other, in the order of the table
  cases kind <;> simp only [Kind.rules, List.forall_mem_cons, List.not_mem_nil] at agree <;>
    simp only [ofFields?, Fields.withDefault, Fields.required]
  case root => rw [get agree.1 fun _ _ a => a.nodes?]
  case declaration =>
    obtain ⟨prop, value, raws, _⟩ := agree
    rw [get prop fun _ _ a => a.orNull a.text?, get value fun _ _ a => a.orNull a.value?,
      get raws fun _ _ a => a.raws?]
  case atRule =>
    obtain ⟨name, params, raws, nodes, _⟩ := agree
    rw [get name fun _ _ a => a.text?, get params fun _ _ a => a.params?,
      get raws fun _ _ a => a.raws?, get nodes fun _ _ a => a.nodes?]
  case rule =>
    obtain ⟨selector, raws, nodes, _⟩ := agree
    rw [get selector fun _ _ a => a.selector?, get raws fun _ _ a => a.raws?,
      get nodes fun _ _ a => a.nodes?]
  case valueRoot => rw [get agree.1 fun _ _ a => a.orNull a.node?]
  case valueValue => rw [get agree.1 fun _ _ a => a.orNull a.node?]
  case commaGroup => rw [get agree.1 fun _ _ a => a.nodes?]
  case parenGroup =>
    obtain ⟨opening, closing, groups, _⟩ := agree
    rw [get opening fun _ _ a => a.spelling?, get closing fun _ _ a => a.spelling?,
      get groups fun _ _ a => a.nodes?]
  case function =>
    obtain ⟨name, group, groups, _⟩ := agree
    rw [get name fun _ _ a => a.text?, get group fun _ _ a => a.orNull a.node?,
      get groups fun _ _ a => a.nodes?]
  case word =>
    obtain ⟨value, raws, _⟩ := agree
    rw [get value fun _ _ a => a.text?, get raws fun _ _ a => a.raws?]
  case operator => rw [get agree.1 fun _ _ a => a.text?]

/-- An object is the node of its kind when the fields fit, and else a node of the named type. -/
lemma ofObject?_eq (fields : Fields Reading) :
    ofObject? fields =
      match fields.values "type" with
      | [type] =>
        ((Kind.ofTypeValue? type.source).bind (ofFields? · fields)).or (type.text?.map .other)
      | _ => none := by
  rw [ofObject?, Fields.required, Fields.get_eq]
  rcases fields.values "type" with _ | ⟨⟨source, _, _⟩, _ | ⟨_, _⟩⟩
  case nil => rfl
  case cons.cons => rfl
  case cons.nil =>
    cases source <;>
      simp [Reading.text?, Json.text?, Kind.ofTypeValue?, ofType?, ofNumber?, Option.bind_assoc]

/-- An array is the node of its kind when the fields fit, and else a node of the named type. -/
lemma ofArray?_cons (type : Reading) (items : List Reading) :
    ofArray? (type :: items) =
      ((Kind.ofTypeValue? type.source).bind fun kind =>
        (Slot.assign? kind.slots items).bind (ofFields? kind)).or
      (type.text?.bind fun name => if items.isEmpty then some (.other name) else none) := by
  obtain ⟨source, _, _⟩ := type
  cases source <;>
    simp [ofArray?, Reading.text?, Json.text?, Kind.ofTypeValue?, ofType?, ofNumber?,
      Option.bind_assoc]

end Document

end StyleTree
