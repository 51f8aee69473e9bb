import Mathlib.Data.Option.Basic
import StyleTree.Document.Fit

/-!
# Reading what fits

A reader succeeds exactly when what it reads fits. A field that is read as its rule says
(`FieldRule.ReadBy`) is read when it fits (`Fields.isSome_get`), and the fields of a part or of a
node are read one after the other in the order of its table (`Fields.isSome_field`). So the readers
are taken from the texts up to the nodes (`Document.isSome_ofFields?`).
-/

namespace StyleTree

/-- The field is read as its rule says: what is taken for a missing field, and what is read. -/
structure FieldRule.ReadBy {β : Type} (rule : FieldRule) (absent : Option β)
    (read : Json → Option β) : Prop where
  absent : absent.isSome ↔ rule.presence ≠ .required
  value : ∀ j, (read j).isSome ↔ rule.presence = .optional ∧ j = .null ∨ rule.role.Accepts j

/-- What stands in a field that fits can be read in the role of the field, or it is null. -/
lemma FieldRule.Fits.accepts {rule : FieldRule} {members : Fields Json} {j : Json}
    (fits : rule.Fits members) (mem : j ∈ members.values rule.key) (ne : j ≠ .null) :
    rule.role.Accepts j := by
  cases fits with
  | absent missing _ =>
    rw [missing] at mem
    cases mem
  | null only _ =>
    rw [only] at mem
    exact absurd (List.mem_singleton.mp mem) ne
  | value only accepted =>
    rw [only] at mem
    rwa [List.mem_singleton.mp mem]

namespace Fields

variable {α β γ : Type} {rule : FieldRule} {rules : List FieldRule} {members : Fields Json}

/-- Reading values that were made from others reads the others. -/
lemma get_map (fields : Fields α) (f : α → β) (key : String) (absent : Option γ)
    (read : β → Option γ) :
    get (fields.map fun field => (field.1, f field.2)) key absent read =
      fields.get key absent fun a => read (f a) := by
  rw [get_eq, get_eq, values_map]
  rcases fields.values key with _ | ⟨_, _ | ⟨_, _⟩⟩ <;> rfl

/-- A field is read exactly when it fits. -/
lemma isSome_get {absent : Option β} {read : Json → Option β} (readBy : rule.ReadBy absent read) :
    (members.get rule.key absent read).isSome ↔ rule.Fits members := by
  rw [get_eq]
  refine ⟨?_, ?_⟩
  · intro some
    split at some
    · rename_i missing
      exact .absent missing (readBy.absent.mp some)
    · rename_i j only
      rcases (readBy.value j).mp some with ⟨optional, rfl⟩ | accepted
      · exact .null only optional
      · exact .value only accepted
    · cases some
  · intro fits
    cases fits with
    | absent missing present =>
      rw [missing]
      exact readBy.absent.mpr present
    | null only optional =>
      rw [only]
      exact (readBy.value _).mpr (.inl ⟨optional, rfl⟩)
    | value only accepted =>
      rw [only]
      exact (readBy.value _).mpr (.inr accepted)

/-- Reading goes on after a field exactly when the field fits. -/
lemma isSome_field {absent : Option β} {read : Json → Option β} {next : β → Option γ}
    (readBy : rule.ReadBy absent read)
    (rest : ∀ b, (next b).isSome ↔ ∀ r ∈ rules, r.Fits members) :
    ((members.get rule.key absent read).bind next).isSome ↔
      ∀ r ∈ rule :: rules, r.Fits members := by
  rw [List.forall_mem_cons, ← isSome_get readBy]
  cases members.get rule.key absent read with
  | none => simp
  | some b => simpa using rest b

/-- After the last field nothing can fail. -/
lemma isSome_done (c : γ) : (some c).isSome ↔ ∀ r ∈ ([] : List FieldRule), r.Fits members := by
  simp

end Fields

open Fields (isSome_field isSome_done)

namespace Role

variable {β : Type} {key : String} {role : Role} {read : Json → Option β} {j : Json}
  {members : Fields Json}

/-- A field that must be there is read as its rule says. -/
lemma required (reads : ∀ j, (read j).isSome ↔ role.Accepts j) :
    FieldRule.ReadBy ⟨key, role, .required⟩ none read where
  absent := by simp
  value j := by simp [reads j]

/-- A field with a default is read as its rule says. -/
lemma defaulted {default : β} (reads : ∀ j, (read j).isSome ↔ role.Accepts j) :
    FieldRule.ReadBy ⟨key, role, .defaulted⟩ (some default) read where
  absent := by simp
  value j := by simp [reads j]

/-- A field that may be null is read as its rule says. -/
lemma optional (reads : ∀ j, (read j).isSome ↔ role.Accepts j) :
    FieldRule.ReadBy ⟨key, role, .optional⟩ (some none) (Json.orNull read) where
  absent := by simp
  value j := by
    rw [← reads j]
    cases j <;> simp [Json.orNull]

/-- A value is read as text when it fits as text. -/
lemma reads_text (j : Json) : j.text?.isSome ↔ Role.text.Accepts j := by
  refine ⟨?_, ?_⟩
  · intro some
    cases j with
    | string s => exact .text s
    | _ => cases some
  · intro accepted
    cases accepted with
    | text s => rfl
    | part has_rules _ => exact absurd rfl has_rules
    | list has_slots _ _ => exact absurd rfl has_slots

/-- A value is read as a spelling when it fits as a spelling. -/
lemma reads_spelling (j : Json) : (SourceText.ofJson? j).isSome ↔ Role.spelling.Accepts j := by
  have object (members : Fields Json) : (SourceText.ofJson? (.object members)).isSome ↔
      ∀ rule ∈ Role.spelling.rules, rule.Fits members :=
    isSome_field (optional reads_text) fun raw =>
      isSome_field (optional reads_text) fun _ => isSome_done _
  refine ⟨?_, ?_⟩
  · intro some
    cases j with
    | string s => exact .spellingText s
    | object members => exact .part (by decide) ((object members).mp some)
    | _ => cases some
  · intro accepted
    cases accepted with
    | spellingText s => rfl
    | part _ fits => exact (object _).mpr fits
    | list has_slots _ _ => exact absurd rfl has_slots

/-- A value is read as a selector when it fits as a selector. -/
lemma reads_selector (j : Json) : (Selector.ofJson? j).isSome ↔ Role.selector.Accepts j := by
  have object (members : Fields Json) : (Selector.ofJson? (.object members)).isSome ↔
      ∀ rule ∈ Role.selector.rules, rule.Fits members :=
    isSome_field (optional reads_text) fun _ => isSome_done _
  refine ⟨?_, ?_⟩
  · intro some
    cases j with
    | string s => exact .selectorText s
    | object members => exact .part (by decide) ((object members).mp some)
    | _ => cases some
  · intro accepted
    cases accepted with
    | selectorText s => rfl
    | part _ fits => exact (object _).mpr fits
    | list has_slots _ _ => exact absurd rfl has_slots

/-- A value is read as a set of spellings when it fits as one. -/
lemma reads_raws (j : Json) : (Raws.ofJson? j).isSome ↔ Role.raws.Accepts j := by
  have fields (members : Fields Json) : (Raws.ofFields? members).isSome ↔
      ∀ rule ∈ Role.raws.rules, rule.Fits members :=
    isSome_field (optional reads_text) fun before =>
      isSome_field (optional reads_spelling) fun selector =>
        isSome_field (optional reads_spelling) fun params =>
          isSome_field (optional reads_spelling) fun _ => isSome_done _
  refine ⟨?_, ?_⟩
  · intro some
    cases j with
    | object members => exact .part (by decide) ((fields members).mp some)
    | array items =>
      rw [raws_array] at some
      cases assigned : Slot.assign? Role.raws.slots items with
      | none =>
        rw [assigned] at some
        cases some
      | some members =>
        rw [assigned] at some
        exact .list (by decide) assigned ((fields members).mp some)
    | _ => cases some
  · intro accepted
    cases accepted with
    | part _ fits => exact (fields _).mpr fits
    | list _ assigned fits =>
      rw [raws_array, assigned]
      exact (fields _).mpr fits

/-- A value is read as a node when it fits as a node. -/
lemma reads_node (j : Json) : (Reading.ofJson j).node?.isSome ↔ Role.node.Accepts j := by
  rw [Option.isSome_iff_exists]
  refine ⟨?_, ?_⟩
  · intro some
    obtain ⟨d, read⟩ := some
    exact .node read
  · intro accepted
    cases accepted with
    | node read => exact ⟨_, read⟩
    | part has_rules _ => exact absurd rfl has_rules
    | list has_slots _ _ => exact absurd rfl has_slots

/-- Values that are read as nodes are read as a list of nodes, and the other way round. -/
lemma isSome_mapM_node? (js : List Json) :
    ((Reading.ofJsons js).mapM Reading.node?).isSome ↔
      ∀ j ∈ js, ∃ d, Document.ofJson? j = some d := by
  induction js with
  | nil => simp [Reading.ofJsons]
  | cons j js ih =>
    rw [List.forall_mem_cons, ← ih, ← Option.isSome_iff_exists, Document.ofJson?]
    simp only [Reading.ofJsons, List.mapM_cons]
    cases (Reading.ofJson j).node? <;> cases (Reading.ofJsons js).mapM Reading.node? <;> simp

/-- A value is read as a list of nodes when it fits as one. -/
lemma reads_nodes (j : Json) : (Reading.ofJson j).nodes?.isSome ↔ Role.nodes.Accepts j := by
  refine ⟨?_, ?_⟩
  · intro some
    cases j with
    | array items => exact .nodes ((isSome_mapM_node? items).mp some)
    | _ => cases some
  · intro accepted
    cases accepted with
    | nodes read => exact (isSome_mapM_node? _).mpr read
    | part has_rules _ => exact absurd rfl has_rules
    | list has_slots _ _ => exact absurd rfl has_slots

/-- A list fits as one of nodes when each of its elements is a node. -/
lemma accepts_nodes_iff (items : List Json) :
    Role.nodes.Accepts (.array items) ↔ ∀ j ∈ items, ∃ d, Document.ofJson? j = some d :=
  (reads_nodes (.array items)).symm.trans (isSome_mapM_node? items)

/-- A node, or failing that a text, is content. -/
lemma accepts_content_iff (j : Json) :
    Role.content.Accepts j ↔ Role.node.Accepts j ∨ Role.text.Accepts j := by
  refine ⟨?_, ?_⟩
  · intro accepted
    cases accepted with
    | contentText s => exact .inr (.text s)
    | contentNode read => exact .inl (.node read)
    | part has_rules _ => exact absurd rfl has_rules
    | list has_slots _ _ => exact absurd rfl has_slots
  · rintro (node | text)
    · obtain ⟨d, read⟩ := Option.isSome_iff_exists.mp ((reads_node j).mpr node)
      exact .contentNode read
    · obtain ⟨s, text⟩ := Option.isSome_iff_exists.mp ((reads_text j).mpr text)
      cases j <;> cases text
      exact .contentText s

/-- A value is read as that of a declaration when it fits as a node or as text. -/
lemma reads_value (j : Json) : (Reading.ofJson j).value?.isSome ↔ Role.content.Accepts j := by
  rw [accepts_content_iff, ← reads_node, ← reads_text, Reading.value?, Reading.text?,
    Reading.source_ofJson]
  cases (Reading.ofJson j).node? <;> simp

/-- The parameters of an at-rule are read as their rule says. -/
lemma params : FieldRule.ReadBy ⟨key, .content, .optional⟩ (some none)
    fun j => (Reading.ofJson j).params? where
  absent := by simp
  value j := by
    rw [accepts_content_iff, ← reads_node, ← reads_text]
    simp only [Reading.params?, Reading.source_ofJson]
    cases j <;> simp [Json.text?, Reading.ofJson]

end Role

namespace Reading

/-- Null is nothing in the reading of a value as in the value itself. -/
lemma orNull_ofJson {β : Type} (read : Reading → Option β) (j : Json) :
    (ofJson j).orNull read = j.orNull fun j => read (ofJson j) := by
  cases j <;> rfl

end Reading

namespace Document

variable {kind : Kind} {members : Fields Json}

open Role in
/-- The fields of a node are read exactly when they fit. -/
lemma isSome_ofFields? (known : kind ≠ .other) :
    (ofFields? kind (Reading.ofJsonMembers members)).isSome ↔ kind.Fits members := by
  have text (j : Json) : ((Reading.ofJson j).text?).isSome ↔ Role.text.Accepts j := by
    rw [Reading.text?, Reading.source_ofJson, reads_text]
  have raws (j : Json) : ((Reading.ofJson j).raws?).isSome ↔ Role.raws.Accepts j := by
    rw [Reading.raws?, Reading.source_ofJson, reads_raws]
  rw [Reading.ofJsonMembers_eq_map]
  cases kind <;>
    simp only [ofFields?, Fields.withDefault, Fields.required, Fields.get_map,
      Reading.orNull_ofJson, Reading.source_ofJson]
  -- each kind is read field after field, in the order of its rules
  case root => exact isSome_field (defaulted reads_nodes) fun _ => isSome_done _
  case declaration =>
    exact isSome_field (optional text) fun _ =>
      isSome_field (optional reads_value) fun _ =>
        isSome_field (defaulted raws) fun _ => isSome_done _
  case atRule =>
    exact isSome_field (defaulted text) fun _ =>
      isSome_field params fun _ =>
        isSome_field (defaulted raws) fun _ =>
          isSome_field (defaulted reads_nodes) fun _ => isSome_done _
  case rule =>
    exact isSome_field (optional reads_selector) fun _ =>
      isSome_field (defaulted raws) fun _ =>
        isSome_field (defaulted reads_nodes) fun _ => isSome_done _
  case valueRoot => exact isSome_field (optional reads_node) fun _ => isSome_done _
  case valueValue => exact isSome_field (optional reads_node) fun _ => isSome_done _
  case commaGroup => exact isSome_field (defaulted reads_nodes) fun _ => isSome_done _
  case parenGroup =>
    exact isSome_field (optional reads_spelling) fun _ =>
      isSome_field (optional reads_spelling) fun _ =>
        isSome_field (defaulted reads_nodes) fun _ => isSome_done _
  case function =>
    exact isSome_field (required text) fun _ =>
      isSome_field (optional reads_node) fun _ =>
        isSome_field (defaulted reads_nodes) fun _ => isSome_done _
  case word =>
    exact isSome_field (required text) fun _ =>
      isSome_field (defaulted raws) fun _ => isSome_done _
  case operator => exact isSome_field (required text) fun _ => isSome_done _
  case colon => simp [Kind.Fits, Kind.rules]
  case other => exact absurd rfl known

/-- What is read as a node of a kind is of that kind. -/
lemma kind_of_ofFields? {fields : Fields Reading} {d : Document}
    (read : ofFields? kind fields = some d) : d.kind = kind := by
  cases kind <;> simp only [ofFields?, Option.bind_eq_bind, Option.bind_eq_some_iff] at read <;>
    grind [Document.kind]

end Document

end StyleTree
