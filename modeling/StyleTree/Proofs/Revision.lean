import Mathlib.Logic.Relation
import StyleTree.Proofs.Agreement
import StyleTree.Proofs.Loading
import StyleTree.Proofs.Writing

/-!
# Revisions are not noticed

Two values are alike in a role when they agree in it (`Role.Alike`). Values that are alike may be
put for each other in any container: a container asks the value for no more than its role
(`Role.alike_fill`). Objects are alike when their members agree under the keys that are asked for
(`Role.alike_object`), so members may change places and others may come and go. From this one
revision is not noticed, by induction on the place where it is made (`Json.Revises.alike`), and
neither are many (`load_eq_of_revised`).
-/

namespace StyleTree

open Fields (Corresponds)

namespace Slot

/-- Filling a gap in an array fills a gap in the fields that it writes, when it writes any. -/
lemma assign?_gap {α : Type} (slots : List Slot) (before after : List α) :
    (∀ x, assign? slots (before ++ x :: after) = none) ∨
      ∃ slot fields more, slots[before.length]? = some slot ∧
        ∀ x, assign? slots (before ++ x :: after) = some (fields ++ (slot.name, x) :: more) := by
  induction before generalizing slots with
  | nil =>
    rcases slots with _ | ⟨slot, slots⟩
    · exact .inl fun _ => rfl
    · cases rest : assign? slots after with
      | none => exact .inl fun x => by simp [assign?, rest]
      | some more => exact .inr ⟨slot, [], more, rfl, fun x => by simp [assign?, rest]⟩
  | cons y before ih =>
    rcases slots with _ | ⟨slot, slots⟩
    · exact .inl fun _ => rfl
    · rcases ih slots with refused | ⟨inner, fields, more, place, assigned⟩
      · exact .inl fun x => by simp [assign?, refused x]
      · refine .inr ⟨inner, (slot.name, y) :: fields, more, place, fun x => ?_⟩
        simp [assign?, assigned x]

end Slot

namespace Role

variable {role : Role} {j j' : Json} {members members' : Fields Json}

/-- Two values are alike in a role when they are read the same. -/
def Alike (role : Role) (j j' : Json) : Prop :=
  role.Agree (Reading.ofJson j) (Reading.ofJson j')

namespace Alike

/-- A value is like itself. -/
lemma refl (role : Role) (j : Json) : role.Alike j j :=
  Agree.refl role _

/-- Values that are alike in some role are alike as texts. -/
lemma toText (a : role.Alike j j') : Role.text.Alike j j' :=
  Agree.toText a

/-- Values that are alike are the same scalar or no scalars. -/
lemma scalar (a : role.Alike j j') : j.scalar? = j'.scalar? := by
  have same := Agree.scalar a
  rwa [Reading.source_ofJson, Reading.source_ofJson] at same

/-- Values that are alike say the same text. -/
lemma text? (a : role.Alike j j') : j.text? = j'.text? := by
  rw [Json.text?_eq, a.scalar, ← Json.text?_eq]

/-- Values that are alike stand for the same kind. -/
lemma kind (a : role.Alike j j') : Kind.ofTypeValue? j = Kind.ofTypeValue? j' := by
  rw [Kind.ofTypeValue?_eq, a.scalar, ← Kind.ofTypeValue?_eq]

/-- Values that are alike are null together, and what is read alike is read alike or null. -/
lemma orNull {α : Type} {read : Json → Option α} (a : role.Alike j j')
    (same : read j = read j') : j.orNull read = j'.orNull read := by
  have scalar := a.scalar
  unfold Json.orNull
  cases j <;> cases j' <;> simp_all [Json.scalar?]

/-- Values that are alike as spellings are read as the same spelling. -/
lemma spelling (a : Role.spelling.Alike j j') :
    SourceText.ofJson? j = SourceText.ofJson? j' := by
  have asked : SourceText.ofJson? (Reading.ofJson j).source =
      SourceText.ofJson? (Reading.ofJson j').source := Agree.asked a
  rwa [Reading.source_ofJson, Reading.source_ofJson] at asked

/-- Texts in two objects with corresponding members are the same. -/
lemma text_congr {key : String}
    (c : Corresponds Role.text.Alike (members.values key) (members'.values key)) :
    members.withDefault key none (Json.orNull Json.text?) =
      members'.withDefault key none (Json.orNull Json.text?) :=
  Fields.get_congr c fun _ _ a => a.orNull a.text?

/-- Spellings in two objects with corresponding members are the same. -/
lemma spelling_congr {key : String}
    (c : Corresponds Role.spelling.Alike (members.values key) (members'.values key)) :
    members.withDefault key none (Json.orNull SourceText.ofJson?) =
      members'.withDefault key none (Json.orNull SourceText.ofJson?) :=
  Fields.get_congr c fun _ _ a => a.orNull a.spelling

end Alike

/-- Members that agree under every key of the table are read as the same text. -/
lemma sourceText_congr
    (agree : ∀ rule ∈ Role.spelling.rules,
      Corresponds rule.role.Alike (members.values rule.key) (members'.values rule.key)) :
    SourceText.ofJson? (.object members) = SourceText.ofJson? (.object members') := by
  simp only [rules, List.forall_mem_cons] at agree
  obtain ⟨raw, value, _⟩ := agree
  simp only [SourceText.ofJson?]
  rw [Alike.text_congr raw, Alike.text_congr value]

/-- Members that agree under every key of the table are read as the same selector. -/
lemma selector_congr
    (agree : ∀ rule ∈ Role.selector.rules,
      Corresponds rule.role.Alike (members.values rule.key) (members'.values rule.key)) :
    Selector.ofJson? (.object members) = Selector.ofJson? (.object members') := by
  simp only [rules, List.forall_mem_cons] at agree
  simp only [Selector.ofJson?]
  rw [Alike.text_congr agree.1]

/-- Members that agree under every key of the table are read as the same spellings. -/
lemma raws_congr
    (agree : ∀ rule ∈ Role.raws.rules,
      Corresponds rule.role.Alike (members.values rule.key) (members'.values rule.key)) :
    Raws.ofFields? members = Raws.ofFields? members' := by
  simp only [rules, List.forall_mem_cons] at agree
  obtain ⟨before, selector, params, value, _⟩ := agree
  simp only [Raws.ofFields?]
  rw [Alike.text_congr before, Alike.spelling_congr selector, Alike.spelling_congr params,
    Alike.spelling_congr value]

/-- Objects are read as the same node when their members agree under all keys of a node. -/
lemma ofObject?_congr
    (type : Corresponds Role.text.Alike (members.values "type") (members'.values "type"))
    (agree : ∀ rule ∈ Role.node.rulesFor members,
      Corresponds rule.role.Alike (members.values rule.key) (members'.values rule.key)) :
    Document.ofObject? (Reading.ofJsonMembers members) =
      Document.ofObject? (Reading.ofJsonMembers members') := by
  rw [Document.ofObject?_eq, Document.ofObject?_eq, Reading.values_ofJsonMembers,
    Reading.values_ofJsonMembers]
  -- a node has one type; with none or with several there is no node on either side
  rcases types : members.values "type" with _ | ⟨j, _ | ⟨_, _⟩⟩ <;>
    rcases types' : members'.values "type" with _ | ⟨j', _ | ⟨_, _⟩⟩
  case nil.nil => rfl
  case cons.cons.cons.cons => rfl
  case cons.nil.cons.nil =>
    have a : Role.text.Alike j j' := type.single j j' types types'
    simp only [List.map_cons, List.map_nil, Reading.source_ofJson, Reading.text?, ← a.kind,
      a.text?]
    congr 1
    cases found : Kind.ofTypeValue? j with
    | none => rfl
    | some kind =>
      have declared : Kind.declared? members = some kind := by
        rw [Kind.declared?, Fields.required, Fields.get_eq, types, ← found]
      refine Document.ofFields?_congr fun rule mem => ?_
      rw [Reading.values_ofJsonMembers, Reading.values_ofJsonMembers]
      refine Corresponds.map (agree rule ?_)
      simpa [rulesFor, isNode, declared] using mem
  all_goals
    have length := type.length
    rw [types, types'] at length
    simp at length

/-- Objects are alike when their members agree under every key that is asked for. -/
lemma alike_object
    (type : role.isNode →
      Corresponds Role.text.Alike (members.values "type") (members'.values "type"))
    (agree : ∀ rule ∈ role.rulesFor members,
      Corresponds rule.role.Alike (members.values rule.key) (members'.values rule.key)) :
    role.Alike (.object members) (.object members') := by
  refine ⟨rfl, ?_⟩
  cases role
  case text => rfl
  case node => exact ofObject?_congr (type rfl) agree
  case content => exact ofObject?_congr (type rfl) agree
  case nodes => rfl
  case spelling => exact sourceText_congr agree
  case selector => exact selector_congr agree
  case raws => exact raws_congr agree

/-- Each key of a table has the role of its rule, and no table has the key of the type. -/
lemma roleOf_rulesFor {rule : FieldRule} (mem : rule ∈ role.rulesFor members) :
    FieldRule.roleOf (role.rulesFor members) rule.key = rule.role ∧ rule.key ≠ "type" := by
  unfold rulesFor at mem ⊢
  split at mem
  · split at mem
    · rename_i isNode _ kind declared
      rw [if_pos isNode]
      exact kind.roleOf_rules rule mem
    · cases mem
  · rename_i isPart
    rw [if_neg isPart]
    exact role.roleOf_rules rule mem

/-- The fields that are asked for do not depend on the value under a key other than the type. -/
lemma rulesFor_fill {before after : Fields Json} {key : String} (ne : key ≠ "type") (j : Json) :
    role.rulesFor (before ++ (key, j) :: after) = role.rulesFor (before ++ after) := by
  have declared : Kind.declared? (before ++ (key, j) :: after) =
      Kind.declared? (before ++ after) := by
    rw [Kind.declared?, Kind.declared?, Fields.required, Fields.required, Fields.get_eq,
      Fields.get_eq, Fields.values_insert_of_ne before after j ne]
  rw [rulesFor, declared, ← rulesFor]

/-- Arrays are alike as lists of nodes when their elements are alike as nodes. -/
lemma alike_item_nodes {before after : List Json} (a : Role.node.Alike j j') :
    Role.nodes.Alike (.array (before ++ j :: after)) (.array (before ++ j' :: after)) := by
  refine ⟨rfl, ?_⟩
  have node : (Reading.ofJson j).node? = (Reading.ofJson j').node? := Agree.node? a
  show (Reading.ofJson (.array (before ++ j :: after))).nodes? =
    (Reading.ofJson (.array (before ++ j' :: after))).nodes?
  simp only [Reading.ofJson, Reading.ofItems, Reading.ofJsons_eq_map, List.mapM_map,
    List.mapM_append, List.mapM_cons, Function.comp_apply, node]

/-- Fields from arrays that differ in one value correspond, when it is alike in its role. -/
lemma corresponds_slot {α : Type} {R : Role → α → α → Prop} {slot : Slot} {rule : FieldRule}
    {rules : List FieldRule} {fields more : Fields α} {x y : α} (refl : ∀ role x, R role x x)
    (own : FieldRule.roleOf rules rule.key = rule.role)
    (a : R (FieldRule.roleOf rules slot.name) x y) :
    Corresponds (R rule.role) (Fields.values (fields ++ (slot.name, x) :: more) rule.key)
      (Fields.values (fields ++ (slot.name, y) :: more) rule.key) := by
  refine Corresponds.fill (refl _) fun same => ?_
  rw [← own, ← same]
  exact a

/-- Arrays are read as the same node when they differ in one value that is alike in its role. -/
lemma ofArray?_congr {before after : List Json} (isNode : role.isNode)
    (a : ((Json.Layer.item before after).role role).Alike j j') :
    Document.ofArray? (Reading.ofJsons (before ++ j :: after)) =
      Document.ofArray? (Reading.ofJsons (before ++ j' :: after)) := by
  -- the first element is the type, and the place of the others tells their roles
  cases before with
  | nil =>
    simp only [List.nil_append, Reading.ofJsons, Document.ofArray?_cons, Reading.source_ofJson,
      Reading.text?, a.kind, a.text?]
  | cons type before =>
    simp only [List.cons_append, Reading.ofJsons_eq_map, List.map_cons, List.map_append,
      Document.ofArray?_cons, Reading.source_ofJson]
    have more (x : Reading) (before after : List Reading) :
        (before ++ x :: after).isEmpty = false := by
      simp
    simp only [more]
    congr 1
    cases found : Kind.ofTypeValue? type with
    | none => rfl
    | some kind =>
      rcases Slot.assign?_gap kind.slots (before.map Reading.ofJson) (after.map Reading.ofJson) with
        refused | ⟨slot, fields, rest, place, assigned⟩
      · simp only [Option.bind_some, refused]
      · simp only [Option.bind_some, assigned]
        rw [List.length_map] at place
        rw [Json.Layer.role_item_cons isNode found, Json.slotRole, place] at a
        refine Document.ofFields?_congr fun rule mem => ?_
        exact corresponds_slot Agree.refl (kind.roleOf_rules rule mem).1 a

/-- Arrays are alike as spellings when they differ in one value that is alike in its role. -/
lemma alike_item_raws {before after : List Json}
    (a : (Json.slotRole Role.raws.slots Role.raws.rules before.length).Alike j j') :
    Role.raws.Alike (.array (before ++ j :: after)) (.array (before ++ j' :: after)) := by
  refine ⟨rfl, ?_⟩
  show Raws.ofJson? (.array (before ++ j :: after)) = Raws.ofJson? (.array (before ++ j' :: after))
  rw [raws_array, raws_array]
  rcases Slot.assign?_gap Role.raws.slots before after with
    refused | ⟨slot, fields, rest, place, assigned⟩
  · rw [refused, refused]
  · rw [assigned, assigned]
    rw [Json.slotRole, place] at a
    refine raws_congr fun rule mem => ?_
    exact corresponds_slot Alike.refl (roleOf_rules .raws rule mem).1 a

/-- Arrays are alike when they differ in one value that is alike in its role. -/
lemma alike_item {before after : List Json}
    (a : ((Json.Layer.item before after).role role).Alike j j') :
    role.Alike (.array (before ++ j :: after)) (.array (before ++ j' :: after)) := by
  cases role
  case node => exact ⟨rfl, ofArray?_congr rfl a⟩
  case content => exact ⟨rfl, ofArray?_congr rfl a⟩
  case nodes => exact alike_item_nodes a
  case raws => exact alike_item_raws a
  all_goals exact ⟨rfl, rfl⟩

/-- A container is read the same when the value in its gap is, in the role of the gap. -/
lemma alike_fill {layer : Json.Layer} (a : (layer.role role).Alike j j') :
    role.Alike (layer.fill j) (layer.fill j') := by
  cases layer
  case member before key after =>
    refine alike_object (fun _ => Corresponds.fill (Alike.refl _) fun _ => a.toText) ?_
    intro rule mem
    refine Corresponds.fill (Alike.refl _) ?_
    rintro rfl
    have ne := (roleOf_rulesFor mem).2
    rw [rulesFor_fill ne] at mem
    rw [← (roleOf_rulesFor mem).1]
    exact a
  case item before after => exact alike_item a

end Role

namespace Json

variable {role : Role} {j j' : Json}

/-- One revision is not noticed in the role of the value. -/
lemma Revises.alike (revises : Revises role j j') : role.Alike j j' := by
  induction revises with
  | reorder perm =>
    have moved (key : String) := (perm.filter (·.1 == key)).map (·.2)
    exact Role.alike_object (fun _ => Corresponds.of_perm (Role.Alike.refl _) (moved _))
      fun _ _ => Corresponds.of_perm (Role.Alike.refl _) (moved _)
  | @add role before after key value unasked =>
    have unseen {asked : String} {r : Role} (ne : key ≠ asked) :
        Corresponds r.Alike (Fields.values (before ++ after) asked)
          (Fields.values (before ++ (key, value) :: after) asked) := by
      rw [Fields.values_insert_of_ne before after value ne]
      exact .of_perm (Role.Alike.refl _) (.refl _)
    refine Role.alike_object ?_ ?_
    · intro isNode
      exact unseen fun same => unasked (.inl ⟨isNode, same⟩)
    · intro rule mem
      exact unseen fun same => unasked (.inr ⟨rule, mem, same.symm⟩)
  | inside layer _ ih => exact Role.alike_fill ih

/-- Neither are any number of revisions, made or taken back. -/
lemma alike_of_eqvGen (revised : Relation.EqvGen (Revises role) j j') : role.Alike j j' := by
  induction revised with
  | rel _ _ revises => exact revises.alike
  | refl j => exact Role.Alike.refl role j
  | symm _ _ _ ih => exact ih.symm
  | trans _ _ _ _ _ ih ih' => exact ih.trans ih'

end Json

namespace Document

/-- A text that is one well-formed value holds what the value holds. -/
lemma ofText_eq {text : String} {j : Json} (read : Json.parse text = .ok ⟨j, false⟩) :
    ofText text =
      match ofJson? j with
      | some d => .ok d
      | none => .error .unfit := by
  rw [ofText, read]
  cases found : ofJson? j <;> simp [found]

end Document

/--
The loader depends on the members that it asks for: two well-formed texts whose values differ in the
order of members, or in members that nobody asks for, are loaded as the same tree with the same ids,
or both hold no node.
-/
theorem load_eq_of_revised {text text' : String} {j j' : Json}
    (read : Json.parse text = .ok ⟨j, false⟩) (read' : Json.parse text' = .ok ⟨j', false⟩)
    (revised : Relation.EqvGen (Json.Revises .node) j j') :
    load text = load text' ∧
      ((∃ t, load text = .ok t) ∨ load text = .error (.document .unfit)) := by
  have same : Document.ofJson? j = Document.ofJson? j' :=
    Role.Agree.node? (Json.alike_of_eqvGen revised)
  have texts : Document.ofText text = Document.ofText text' := by
    rw [Document.ofText_eq read, Document.ofText_eq read', same]
  refine ⟨?_, ?_⟩
  · rw [load, load, texts]
  · have text_eq := Document.ofText_eq read
    cases found : Document.ofJson? j with
    | none =>
      rw [found] at text_eq
      exact .inr (by rw [load, text_eq])
    | some d =>
      rw [found] at text_eq
      obtain ⟨t, h, _⟩ := d.exists_toTree
      exact .inl ⟨t, Document.load_of_ofText text_eq h⟩

/-- A member that its node does not have comes first, and the type of the root comes last. -/
theorem load_eq_of_revised_nested :
    let colon : Json := .object [("type", .string "value-colon")]
    let five : Json.Numeral := ⟨false, [5], [], false, []⟩
    let colon' : Json := .object [("groups", .number five), ("type", .string "value-colon")]
    let j : Json := .object [("type", .string "css-root"), ("nodes", .array [colon])]
    let j' : Json := .object [("nodes", .array [colon']), ("type", .string "css-root")]
    load j.write = load j'.write ∧
      ((∃ t, load j.write = .ok t) ∨ load j.write = .error (.document .unfit)) := by
  intro colon five colon' j j'
  have read : Json.parse j.write = .ok ⟨j, false⟩ := Json.parse_write (by decide)
  have read' : Json.parse j'.write = .ok ⟨j', false⟩ := Json.parse_write (by decide)
  have inner : Json.Revises .node j
      (.object [("type", .string "css-root"), ("nodes", .array [colon'])]) :=
    .inside (.member [("type", .string "css-root")] "nodes" [])
      (.inside (.item [] [])
        (@Json.Revises.add _ [] [("type", .string "value-colon")] _ _ (by decide)))
  have outer : Json.Revises .node
      (.object [("type", .string "css-root"), ("nodes", .array [colon'])]) j' :=
    .reorder (List.Perm.swap _ _ _)
  exact load_eq_of_revised read read' (.trans _ _ _ (.rel _ _ inner) (.rel _ _ outer))

end StyleTree
