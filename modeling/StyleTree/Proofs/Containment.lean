import StyleTree.Proofs.Gap

/-!
# Damage is contained

An object that says once, in words, of what type it is, is always a node
(`Document.exists_of_type`), and a value that is no node makes a leaf of the object into whose list
it comes (`Document.ofJson?_spoiled`). Both put one node for another in a place of the document, and
so the tree that is loaded changes in that place alone (`Document.loadsAs_of_keepsGap`), or not at
all (`Document.load_eq_of_not_keepsGap`).
-/

namespace StyleTree

open Json (Layer gapRole fill KeepsGap parse_write)

/-- No type names the unknown kind. -/
lemma Kind.ofType?_ne_other {kind : Kind} {name : String} (found : ofType? name = some kind) :
    kind ≠ .other := by
  have known : ∀ type ∈ types, type.2 ≠ .other := by decide
  obtain ⟨l, r, eq, _⟩ := List.lookup_eq_some_iff.mp found
  exact known (name, kind) (by simp [eq])

namespace Json

variable {layers : List Layer} {outer : Role} {x : Json}

/-- The role of a gap follows from the innermost layer and the role of what is around that. -/
lemma gapRole_append (layers : List Layer) (layer : Layer) (outer : Role) :
    gapRole (layers ++ [layer]) outer = layer.role (gapRole layers outer) := by
  induction layers generalizing outer with
  | nil => rfl
  | cons inner layers ih => exact ih (inner.role outer)

/-- A gap that is kept is the place of a node. -/
lemma isNode_of_keepsGap (keeps : KeepsGap layers outer x) : (gapRole layers outer).isNode := by
  induction layers generalizing outer with
  | nil => exact keeps
  | cons layer layers ih => exact ih keeps.2

/-- Only a node has a field that is a list of nodes. -/
lemma Layer.isNode_of_role_member {before after : List (String × Json)} {key : String}
    (place : (member before key after).role outer = .nodes) : outer.isNode := by
  by_contra isPart
  rw [Layer.role, Role.rulesFor, if_neg isPart] at place
  obtain ⟨rule, mem, _, role⟩ := FieldRule.exists_of_roleOf (place.trans_ne (by decide))
  rcases outer.role_of_mem_rules rule mem with part | part
  all_goals
    rw [part, place] at role
    cases role

/-- A list of nodes does not stand in the place of a type. -/
lemma Layer.values_type {before after : Fields Json} {key : String}
    (place : (member before key after).role outer = .nodes) (j : Json) :
    Fields.values (before ++ (key, j) :: after) "type" =
      Fields.values (before ++ after) "type" := by
  obtain ⟨rule, mem, rfl, _⟩ := FieldRule.exists_of_roleOf (place.trans_ne (by decide))
  have ne := (Role.roleOf_rulesFor mem).2
  exact Fields.values_insert_of_ne before after j ne

end Json

namespace Document

variable {layers : List Layer} {members before after : Fields Json} {items : List Json}
  {key name : String} {x v : Json} {d : Document}

/-- An object with one type in words is read from its fields, or failing that named by its type. -/
lemma ofJson?_object (type : members.values "type" = [.string name]) :
    ofJson? (.object members) =
      ((Kind.ofType? name).bind (ofFields? · (Reading.ofJsonMembers members))).or
        (some (.other name)) := by
  show ofObject? (Reading.ofJsonMembers members) = _
  rw [ofObject?_eq, Reading.values_ofJsonMembers, type]
  rfl

/-- It is of the kind that the type names when all fields fit, and else of an unknown kind. -/
lemma exists_of_type (type : members.values "type" = [.string name]) :
    ∃ d, ofJson? (.object members) = some d ∧
      ((∃ kind, Kind.ofType? name = some kind ∧ kind.Fits members ∧ d.kind = kind) ∨
        (∀ kind, Kind.ofType? name = some kind → ¬kind.Fits members) ∧ d = .other name) := by
  rw [ofJson?_object type]
  cases found : Kind.ofType? name with
  | none => exact ⟨.other name, rfl, .inr ⟨nofun, rfl⟩⟩
  | some kind =>
    have fits : (ofFields? kind (Reading.ofJsonMembers members)).isSome ↔ kind.Fits members :=
      isSome_ofFields? (Kind.ofType?_ne_other found)
    rw [Option.bind_some]
    cases read : ofFields? kind (Reading.ofJsonMembers members) with
    | none =>
      rw [read] at fits
      refine ⟨.other name, rfl, .inr ⟨?_, rfl⟩⟩
      rintro _ ⟨⟩ all
      cases fits.mpr all
    | some d =>
      rw [read] at fits
      exact ⟨d, rfl, .inl ⟨kind, rfl, fits.mp rfl, kind_of_ofFields? read⟩⟩

/-- What is no node spoils the list that it is in, and the list spoils its node. -/
lemma ofJson?_spoiled {outer : Role}
    (type : Fields.values (before ++ after) "type" = [.string name])
    (place : (Layer.member before key after).role outer = .nodes) (mem : v ∈ items)
    (refused : ofJson? v = none) :
    ofJson? (.object (before ++ (key, .array items) :: after)) = some (.other name) := by
  obtain ⟨d, read, ⟨kind, found, fits, _⟩ | ⟨_, rfl⟩⟩ :=
    exists_of_type ((Layer.values_type place (.array items)).trans type)
  · -- the list is the value of a field, which does not fit
    have isNode := Layer.isNode_of_role_member place
    rw [Layer.role, Role.rulesFor, if_pos isNode, Kind.declared?, Fields.required, Fields.get_eq,
      type] at place
    simp only [Kind.ofTypeValue?, found] at place
    obtain ⟨rule, asked, rfl, role⟩ := FieldRule.exists_of_roleOf (place.trans_ne (by decide))
    have accepted : rule.role.Accepts (.array items) :=
      (fits rule asked).accepts (by simp) (by simp)
    rw [role, place, Role.accepts_nodes_iff] at accepted
    obtain ⟨_, found⟩ := accepted v mem
    rw [refused] at found
    cases found
  · exact read

/-- A text that holds one value and nothing else is loaded as the node that the value is. -/
lemma loadsAs {text : String} {j : Json} (parsed : Json.parse text = .ok ⟨j, false⟩)
    (read : ofJson? j = some d) : LoadsAs text d.nested := by
  obtain ⟨t, built, reads, _⟩ := d.exists_toTree
  exact ⟨t, load_of_ofText (ofText_eq_ok.mpr ⟨_, parsed, rfl, read⟩) built, reads⟩

/-- At a place that is kept every node is one subtree of the whole, and the rest stays the same. -/
lemma loadsAs_of_keepsGap (keeps : KeepsGap layers .node x) (read : ofJson? x = some d) :
    ∃ frames, ∀ y e, ofJson? y = some e →
      ∀ text, Json.parse text = .ok ⟨fill layers y, false⟩ →
        LoadsAs text (Rose.fill frames e.nested) := by
  rcases Json.gap layers .node (Json.isNode_of_keepsGap keeps) with lost | ⟨gap, kept⟩
  · exact absurd keeps (lost x x d d read read).1
  · refine ⟨gap.frames, fun y e read text parsed => ?_⟩
    obtain ⟨whole, found, nested⟩ := Option.map_eq_some_iff.mp (kept y e read).2
    have only : Rose.fill gap.frames e.nested ∈ [whole.nested] := by
      rw [nested]
      simp [Rose.Gap.fill]
    rw [List.mem_singleton.mp only]
    exact loadsAs parsed found

/-- At a place that is not kept it is not noticed which node is there. -/
lemma load_eq_of_not_keepsGap {y : Json} {e : Document} {text text' : String}
    (place : (gapRole layers .node).isNode) (lost : ¬KeepsGap layers .node x)
    (read : ofJson? x = some d) (read' : ofJson? y = some e)
    (parsed : Json.parse text = .ok ⟨fill layers x, false⟩)
    (parsed' : Json.parse text' = .ok ⟨fill layers y, false⟩) : load text = load text' := by
  rcases Json.gap layers .node place with alike | ⟨gap, kept⟩
  · have same : ofJson? (fill layers x) = ofJson? (fill layers y) :=
      Role.Agree.node? (alike x y d e read read').2
    rw [load, load, ofText_eq parsed, ofText_eq parsed', same]
  · exact absurd (kept x d read).1 lost

end Document

/--
Damage in a document stays where it is.

An object that says once, in words, of what type it is, is a node whatever else it says: of the kind
that the type names when all fields of that kind fit, and else a leaf of an unknown kind.

So in a place that is kept one such object can be put for another, and the tree that is loaded
changes only in the subtree of the object. And a value that is no node turns the object into whose
list of nodes it is put into a leaf, and changes nothing outside of that object.
-/
theorem damage_stays :
    (∀ members name, Fields.values members "type" = [.string name] →
      ∃ d, Document.ofJson? (.object members) = some d ∧
        ((∃ kind, Kind.ofType? name = some kind ∧ kind.Fits members ∧ d.kind = kind) ∨
          (∀ kind, Kind.ofType? name = some kind → ¬kind.Fits members) ∧ d = .other name)) ∧
    (∀ layers x type, Json.HasType x type → KeepsGap layers .node x →
      ∃ frames, ∀ y type', Json.HasType y type' →
        ∃ d, Document.ofJson? y = some d ∧
          ∀ text, Json.parse text = .ok ⟨fill layers y, false⟩ →
            LoadsAs text (Rose.fill frames d.nested)) ∧
    ∀ layers before key after name items items' v,
      let parent items := Json.object (before ++ (key, .array items) :: after)
      Fields.values (before ++ after) "type" = [.string name] →
      gapRole (layers ++ [.member before key after]) .node = .nodes →
      v ∈ items' → Document.ofJson? v = none →
      Document.ofJson? (parent items') = some (.other name) ∧
      (KeepsGap layers .node (parent items) →
        ∃ frames d, Document.ofJson? (parent items) = some d ∧
          ∀ text text', Json.parse text = .ok ⟨fill layers (parent items), false⟩ →
            Json.parse text' = .ok ⟨fill layers (parent items'), false⟩ →
            LoadsAs text (Rose.fill frames d.nested) ∧
              LoadsAs text' (Rose.fill frames (.node (.other name) []))) ∧
      (¬KeepsGap layers .node (parent items) →
        ∀ text text', Json.parse text = .ok ⟨fill layers (parent items), false⟩ →
          Json.parse text' = .ok ⟨fill layers (parent items'), false⟩ →
          load text = load text') := by
  refine ⟨fun members name type => Document.exists_of_type type, ?_, ?_⟩
  · rintro layers x type ⟨members, rfl, typed⟩ keeps
    obtain ⟨d, read, _⟩ := Document.exists_of_type typed
    obtain ⟨frames, kept⟩ := Document.loadsAs_of_keepsGap keeps read
    refine ⟨frames, ?_⟩
    rintro y type' ⟨members', rfl, typed'⟩
    obtain ⟨e, read', _⟩ := Document.exists_of_type typed'
    exact ⟨e, read', kept _ e read'⟩
  · intro layers before key after name items items' v parent type place mem refused
    rw [Json.gapRole_append] at place
    have spoiled : Document.ofJson? (parent items') = some (.other name) :=
      Document.ofJson?_spoiled type place mem refused
    obtain ⟨d, read, _⟩ :=
      Document.exists_of_type ((Layer.values_type place (.array items)).trans type)
    -- the spoiled object is still a node, so it comes into its place like any other
    refine ⟨spoiled, ?_, ?_⟩
    · intro keeps
      obtain ⟨frames, kept⟩ := Document.loadsAs_of_keepsGap keeps read
      exact ⟨frames, d, read, fun text text' parsed parsed' =>
        ⟨kept _ d read text parsed, kept _ (.other name) spoiled text' parsed'⟩⟩
    · intro lost text text' parsed parsed'
      exact Document.load_eq_of_not_keepsGap (Layer.isNode_of_role_member place) lost read spoiled
        parsed parsed'

/--
A function without a name takes the place of a colon, and null comes into the list of an at-rule.
-/
theorem damage_stays_in_root :
    let layers : List Layer := [.item [.string "css-root"] [], .item [] []]
    let typed (type : String) : Json := .object [("type", .string type)]
    let atRule (items : List Json) : Json :=
      .object [("type", .string "css-atrule"), ("nodes", .array items)]
    (∃ d, Document.ofJson? (typed "value-func") = some d ∧
      ((∃ kind, Kind.ofType? "value-func" = some kind ∧
          kind.Fits [("type", .string "value-func")] ∧ d.kind = kind) ∨
        (∀ kind, Kind.ofType? "value-func" = some kind →
          ¬kind.Fits [("type", .string "value-func")]) ∧ d = .other "value-func")) ∧
    (∃ frames,
      LoadsAs (fill layers (typed "value-colon")).write (Rose.fill frames (.node .colon [])) ∧
      LoadsAs (fill layers (typed "value-func")).write
        (Rose.fill frames (.node (.other "value-func") []))) ∧
    ∃ frames,
      LoadsAs (fill layers (atRule [])).write
        (Rose.fill frames (.node (.atRule "" "" none) [])) ∧
      LoadsAs (fill layers (atRule [.null])).write
        (Rose.fill frames (.node (.other "css-atrule") [])) := by
  intro layers typed atRule
  have keeps : KeepsGap layers .node (typed "value-colon") :=
    ⟨⟨.root [.colon], rfl, by decide⟩, ⟨[.colon], rfl⟩, rfl⟩
  have keeps' : KeepsGap layers .node (atRule []) :=
    ⟨⟨.root [.atRule "" none .empty []], rfl, by decide⟩, ⟨[.atRule "" none .empty []], rfl⟩, rfl⟩
  refine ⟨damage_stays.1 _ _ rfl, ?_, ?_⟩
  · obtain ⟨frames, kept⟩ := damage_stays.2.1 layers _ "value-colon" ⟨_, rfl, rfl⟩ keeps
    obtain ⟨d, read, loads⟩ := kept _ "value-colon" ⟨[("type", .string "value-colon")], rfl, rfl⟩
    obtain ⟨d', read', loads'⟩ := kept _ "value-func" ⟨[("type", .string "value-func")], rfl, rfl⟩
    cases read
    cases read'
    exact ⟨frames, loads _ (parse_write (by decide)), loads' _ (parse_write (by decide))⟩
  · obtain ⟨_, kept, _⟩ := damage_stays.2.2 layers [("type", .string "css-atrule")] "nodes" []
      "css-atrule" [] [.null] .null rfl rfl (by simp) rfl
    obtain ⟨frames, d, read, loads⟩ := kept keeps'
    cases read
    exact ⟨frames, loads _ _ (parse_write (by decide)) (parse_write (by decide))⟩

end StyleTree
