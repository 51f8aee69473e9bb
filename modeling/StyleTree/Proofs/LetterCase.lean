import StyleTree.Context
import StyleTree.Node.Label
import StyleTree.Proofs.Ancestry
import StyleTree.Proofs.AsciiCase
import StyleTree.Statement

/-!
# The letter case of names never matters

Two trees that differ in the letter case of names only have everything else in common: kinds,
children and so parents, hence the ancestors of every node and the nearest one of some kinds
(`nearest?_eq`). A question that goes on to a name gets two spellings of it, and these fold to the
same letters of ASCII (`nearest?_bind_fold`). What is asked of the name then is told by its folded
letters (`any_eq_of_fold`), in each of the ways in which the questions treat letter case: comparing
within ASCII, lower-casing (`lowercase_congr`), and looking for a sign that is no letter.
-/

namespace StyleTree

open Text

namespace Node.SameButCase

variable {x y : Node}

/-- Nodes that are the same but for letter case are of one kind. -/
lemma kind_eq (alike : x.SameButCase y) : x.kind = y.kind := by
  cases alike <;> rfl

/-- Nodes that are the same but for letter case have the same children. -/
lemma children_eq (alike : x.SameButCase y) : x.children = y.children := by
  cases alike <;> rfl

/-- Nodes that are the same but for letter case are groups together. -/
lemma isGroup_eq (alike : x.SameButCase y) : x.isGroup = y.isGroup := by
  cases alike <;> rfl

/-- Nodes that are the same but for letter case have the same value. -/
lemma value?_eq (alike : x.SameButCase y) : x.value? = y.value? := by
  cases alike <;> rfl

/-- Nodes that are the same but for letter case have the same group. -/
lemma group?_eq (alike : x.SameButCase y) : x.group? = y.group? := by
  cases alike <;> rfl

/-- Nodes that are the same but for letter case declare one property, folded. -/
lemma prop?_fold (alike : x.SameButCase y) : x.prop?.map foldAscii = y.prop?.map foldAscii := by
  cases alike with
  | declaration fold => exact congrArg some (sameFold_iff.mp fold)
  | _ => rfl

/-- Nodes that are the same but for letter case have one name, folded. -/
lemma name?_fold (alike : x.SameButCase y) : x.name?.map foldAscii = y.name?.map foldAscii := by
  cases alike with
  | atRule fold | function fold => exact congrArg some (sameFold_iff.mp fold)
  | _ => rfl

/-- Nodes that are the same but for letter case are functions of the same names. -/
lemma isFunctionNamed_eq (alike : x.SameButCase y) (name : String) :
    x.isFunctionNamed name = y.isFunctionNamed name := by
  cases alike with
  | function fold => simp only [isFunctionNamed, sameFold, sameFold_iff.mp fold]
  | _ => rfl

end Node.SameButCase

namespace Text

variable {v w : String}

/-- A text is empty when its folded letters are none. -/
lemma isEmpty_congr (same : foldAscii v = foldAscii w) : v.isEmpty = w.isEmpty := by
  have empty (u : String) : u.isEmpty = true ↔ foldAscii u = [] := by
    rw [String.isEmpty_iff, foldAscii, List.map_eq_nil_iff, String.toList_eq_nil_iff]
  rw [Bool.eq_iff_iff, empty, empty, same]

/-- Folding letters does not change whether a text begins with a dollar. -/
lemma isPrefixOf_dollar_congr (same : foldAscii v = foldAscii w) :
    ['$'].isPrefixOf v.toList = ['$'].isPrefixOf w.toList := by
  have folded (u : List Char) : ['$'].isPrefixOf u = ['$'].isPrefixOf (u.map Char.toLower) := by
    cases u with
    | nil => rfl
    | cons c u =>
      have first : ('$' == c) = ('$' == c.toLower) := by
        rcases isAlpha_or_toLower_eq c with ⟨letter, lower⟩ | unchanged
        · have ne : '$' ≠ c := by
            rintro rfl
            cases letter
          have ne' : '$' ≠ c.toLower := by
            intro dollar
            rw [← dollar] at lower
            cases lower
          rw [beq_false_of_ne ne, beq_false_of_ne ne']
        · rw [unchanged]
      rw [List.map_cons, List.isPrefixOf_cons_cons, List.isPrefixOf_cons_cons, first]
      rfl
  rw [folded, folded w.toList]
  exact congrArg (['$'].isPrefixOf ·) same

/-- A test of texts that depends on the folded letters only. -/
lemma any_eq_of_fold {o o' : Option String} {p q : String → Bool}
    (same : o.map foldAscii = o'.map foldAscii)
    (agree : ∀ {v w}, foldAscii v = foldAscii w → p v = q w) : o.any p = o'.any q := by
  cases o with
  | none =>
    cases o' with
    | none => rfl
    | some w => cases same
  | some v =>
    cases o' with
    | none => cases same
    | some w => exact agree (Option.some.inj same)

end Text

namespace Arena.SameButCase

variable {α : Type} {s t : Tree} {n : NodeId} {v w : String}

/-- What is read alike off alike nodes is the same in both trees. -/
lemma map_node?_eq (alike : s.arena.SameButCase t.arena) {f : Node → α}
    (agree : ∀ {x y}, x.SameButCase y → f x = f y) :
    (s.node? n).map f = (t.node? n).map f := by
  have rel : Option.Rel Node.SameButCase (s.node? n) (t.node? n) := alike n
  generalize s.node? n = x at rel ⊢
  generalize t.node? n = y at rel ⊢
  cases rel with
  | none => rfl
  | some same => exact congrArg some (agree same)

/-- What is read of a node without letter case is read the same in both trees. -/
lemma bind_node?_eq (alike : s.arena.SameButCase t.arena) {f : Node → Option α}
    (agree : ∀ {x y}, x.SameButCase y → f x = f y) :
    (s.node? n).bind f = (t.node? n).bind f := by
  have same : ((s.node? n).map f).bind id = ((t.node? n).map f).bind id :=
    congrArg (·.bind id) (alike.map_node?_eq agree)
  simpa only [Option.bind_map, Function.id_comp] using same

/-- What is tested of a node without letter case holds of it in both trees or in none. -/
lemma any_node?_eq (alike : s.arena.SameButCase t.arena) {f : Node → Bool}
    (agree : ∀ {x y}, x.SameButCase y → f x = f y) :
    (s.node? n).any f = (t.node? n).any f := by
  have same : ((s.node? n).map f).any id = ((t.node? n).map f).any id :=
    congrArg (·.any id) (alike.map_node?_eq agree)
  simpa only [Option.any_map, id_eq] using same

/-- The two trees have the same ids. -/
lemma has_eq (alike : s.arena.SameButCase t.arena) : s.has = t.has := by
  funext n
  have same : (s.node? n).map (fun _ => ()) = (t.node? n).map fun _ => () :=
    alike.map_node?_eq fun _ => rfl
  rw [Tree.has, Tree.has, ← Option.isSome_map, same, Option.isSome_map]

/-- In the two trees a node is of the same kind. -/
lemma isKind_eq (alike : s.arena.SameButCase t.arena) : s.isKind = t.isKind := by
  funext n kind
  rw [Tree.isKind, Tree.isKind, Tree.kind?, Tree.kind?, alike.map_node?_eq Node.SameButCase.kind_eq]

/-- In the two trees a node is a group or none. -/
lemma isGroup_eq (alike : s.arena.SameButCase t.arena) : s.isGroup = t.isGroup := by
  funext n
  exact alike.any_node?_eq Node.SameButCase.isGroup_eq

/-- In the two trees a node has the same value. -/
lemma value?_eq (alike : s.arena.SameButCase t.arena) : s.value? = t.value? := by
  funext n
  exact alike.bind_node?_eq Node.SameButCase.value?_eq

/-- In the two trees a node has the same group. -/
lemma group?_eq (alike : s.arena.SameButCase t.arena) : s.group? = t.group? := by
  funext n
  exact alike.bind_node?_eq Node.SameButCase.group?_eq

/-- In the two trees a node has the same children. -/
lemma children_eq (alike : s.arena.SameButCase t.arena) : s.children = t.children := by
  funext n
  have read (u : Tree) : u.children n = ((u.node? n).map Node.children).getD [] := by
    rw [Tree.children, Arena.children, Tree.node?]
    cases u.arena.node? n <;> rfl
  rw [read, read, alike.map_node?_eq Node.SameButCase.children_eq]

/-- In the two trees a node has the same child at a place. -/
lemma child?_eq (alike : s.arena.SameButCase t.arena) : s.child? = t.child? := by
  funext n i
  rw [Tree.child?, Tree.child?, alike.children_eq]

/-- In the two trees a node has the same parent. -/
lemma parent?_eq (alike : s.arena.SameButCase t.arena) : s.parent? = t.parent? := by
  funext n
  apply Option.ext
  intro p
  rw [Tree.parent?_eq_some, Tree.parent?_eq_some, alike.children_eq]

/-- The two trees have as many nodes. -/
lemma size_eq (alike : s.arena.SameButCase t.arena) : s.size = t.size := by
  apply eq_of_forall_lt_iff
  intro n
  rw [← Tree.has_iff, ← Tree.has_iff, alike.has_eq]

/-- In the two trees the same nodes are met on the way up. -/
lemma climb_eq (alike : s.arena.SameButCase t.arena) (bound : Nat) (n : NodeId) :
    s.climb bound n = t.climb bound n := by
  induction bound generalizing n with
  | zero => rfl
  | succ bound ih =>
    rw [Tree.climb, Tree.climb, alike.parent?_eq]
    cases t.parent? n with
    | none => rfl
    | some p => exact congrArg (p :: ·) (ih p)

/-- In the two trees a node has the same ancestors. -/
lemma ancestors_eq (alike : s.arena.SameButCase t.arena) : s.ancestors = t.ancestors := by
  funext n
  rw [Tree.ancestors, Tree.ancestors, alike.climb_eq, alike.size_eq]

/-- In the two trees a node has the same ancestor at a depth. -/
lemma ancestor?_eq (alike : s.arena.SameButCase t.arena) : s.ancestor? = t.ancestor? := by
  funext n depth
  rw [Tree.ancestor?, Tree.ancestor?, alike.ancestors_eq]

/-- Both trees have the same nearest ancestor of some kinds. -/
lemma nearest?_eq (alike : s.arena.SameButCase t.arena) : s.nearest? = t.nearest? := by
  funext n kinds
  have test : s.hasKindIn kinds = t.hasKindIn kinds := by
    funext m
    rw [Tree.hasKindIn, Tree.hasKindIn, alike.isKind_eq]
  rw [Tree.nearest?, Tree.nearest?, alike.ancestors_eq, test]

/-- In the two trees a node is a key and a value or is not. -/
lemma isKeyValuePair_eq (alike : s.arena.SameButCase t.arena) :
    s.isKeyValuePair = t.isKeyValuePair := by
  funext n
  rw [Tree.isKeyValuePair, Tree.isKeyValuePair, alike.isKind_eq, alike.child?_eq]

/-- In the two trees a node holds keys and values or does not. -/
lemma isKeyValueContainer_eq (alike : s.arena.SameButCase t.arena) :
    s.isKeyValueContainer = t.isKeyValueContainer := by
  funext n
  rw [Tree.isKeyValueContainer, Tree.isKeyValueContainer, Tree.isParenGroup, Tree.isParenGroup,
    alike.isKind_eq, alike.child?_eq, alike.isKeyValuePair_eq]

/-- In the two trees a declaration wraps the same value. -/
lemma wrappedValue?_eq (alike : s.arena.SameButCase t.arena) :
    s.wrappedValue? = t.wrappedValue? := by
  funext n
  rw [Tree.wrappedValue?, Tree.wrappedValue?, alike.value?_eq, alike.isKind_eq, alike.group?_eq]

/-- The property of a node that was found is spelled in two ways that fold to the same. -/
lemma prop?_fold (alike : s.arena.SameButCase t.arena) (found : Option NodeId) :
    (found.bind s.prop?).map foldAscii = (found.bind t.prop?).map foldAscii := by
  cases found with
  | none => rfl
  | some n =>
    simp only [Option.bind_some, Tree.prop?, Option.map_bind]
    exact alike.bind_node?_eq Node.SameButCase.prop?_fold

/-- The name of a node that was found is spelled in two ways that fold to the same. -/
lemma name?_fold (alike : s.arena.SameButCase t.arena) (found : Option NodeId) :
    (found.bind s.name?).map foldAscii = (found.bind t.name?).map foldAscii := by
  cases found with
  | none => rfl
  | some n =>
    simp only [Option.bind_some, Tree.name?, Option.map_bind]
    exact alike.bind_node?_eq Node.SameButCase.name?_fold

/-- A name is found equal to a query in both trees or in neither. -/
lemma any_sameFold_name? (alike : s.arena.SameButCase t.arena) (same : sameFold v w = true)
    (found : Option NodeId) :
    (found.bind s.name?).any (sameFold · v) = (found.bind t.name?).any (sameFold · w) := by
  apply any_eq_of_fold (alike.name?_fold found)
  intro name name' fold
  rw [sameFold, sameFold, fold, sameFold_iff.mp same]

/-- In the two trees a node composes classes or does not. -/
lemma hasComposesProperty_eq (alike : s.arena.SameButCase t.arena) (n : NodeId) :
    s.hasComposesProperty n = t.hasComposesProperty n := by
  have own : (s.prop? n).any (sameFold · "composes") = (t.prop? n).any (sameFold · "composes") := by
    apply any_eq_of_fold (alike.prop?_fold (some n))
    intro prop prop' fold
    rw [sameFold, sameFold, fold]
  rw [Tree.hasComposesProperty, Tree.hasComposesProperty, alike.wrappedValue?_eq, alike.isKind_eq,
    own]

/-- In the two trees the same property is around a node. -/
lemma enclosingProperty?_eq (alike : s.arena.SameButCase t.arena) (n : NodeId) :
    s.enclosingProperty? n = t.enclosingProperty? n := by
  have fold := alike.prop?_fold (t.nearest? n [.declaration])
  rw [Tree.enclosingProperty?, Tree.enclosingProperty?, alike.nearest?_eq]
  generalize (t.nearest? n [.declaration]).bind s.prop? = own at fold ⊢
  generalize (t.nearest? n [.declaration]).bind t.prop? = own' at fold ⊢
  cases own with
  | none =>
    cases own' with
    | none => rfl
    | some prop' => cases fold
  | some prop =>
    cases own' with
    | none => cases fold
    | some prop' =>
      have same : foldAscii prop = foldAscii prop' := Option.some.inj fold
      simp only [isEmpty_congr same, lowercase_congr same]

/--
In the two trees a word and one that differs from it in letter case name a position or do not.
-/
lemma isKeyframePosition_eq (alike : s.arena.SameButCase t.arena) (same : sameFold v w = true)
    (n : NodeId) : s.isKeyframePosition n v = t.isKeyframePosition n w := by
  have block : ((t.nearest? n [.atRule]).bind s.name?).any Tree.isKeyframesName =
      ((t.nearest? n [.atRule]).bind t.name?).any Tree.isKeyframesName := by
    apply any_eq_of_fold (alike.name?_fold _)
    intro name name' fold
    rw [Tree.isKeyframesName, Tree.isKeyframesName, lowercase_congr fold]
  have position : Vocabulary.isKeyframePosition v = Vocabulary.isKeyframePosition w := by
    simp only [Vocabulary.isKeyframePosition, sameFold, sameFold_iff.mp same]
  rw [Tree.isKeyframePosition, Tree.isKeyframePosition, alike.nearest?_eq, block, position]

/-- In the two trees a node is an entry of a map or is not. -/
lemma isMapEntry_eq (alike : s.arena.SameButCase t.arena) (n : NodeId) :
    s.isMapEntry n = t.isMapEntry n := by
  have inside : s.insideVariableDeclaration n = t.insideVariableDeclaration n := by
    rw [Tree.insideVariableDeclaration, Tree.insideVariableDeclaration, alike.nearest?_eq]
    exact any_eq_of_fold (alike.prop?_fold _) isPrefixOf_dollar_congr
  rw [Tree.isMapEntry, Tree.isMapEntry, inside, alike.isGroup_eq, alike.children_eq,
    alike.isKeyValueContainer_eq, alike.ancestor?_eq, alike.isKind_eq]

end Arena.SameButCase

/--
Two trees that differ in nothing but the letter case of the names of at-rules, functions and
properties give the same answers, also when the texts that are asked for differ in letter case.
-/
theorem Arena.finish_disregards_case {a b : Arena} {root : NodeId} {s t : Tree}
    (hs : a.finish root = .ok s) (ht : b.finish root = .ok t) (alike : a.SameButCase b)
    {v w : String} (same : Text.sameFold v w = true) (n : NodeId) :
    s.insideFunction n v = t.insideFunction n w ∧
      s.insideAtRule n v = t.insideAtRule n w ∧
      s.isUrlFunction n = t.isUrlFunction n ∧
      s.hasComposesProperty n = t.hasComposesProperty n ∧
      s.enclosingProperty? n = t.enclosingProperty? n ∧
      s.isKeyframePosition n v = t.isKeyframePosition n w ∧
      s.isMapEntry n = t.isMapEntry n := by
  obtain ⟨rfl, _⟩ := eq_of_finish hs
  obtain ⟨rfl, _⟩ := eq_of_finish ht
  refine ⟨?_, ?_, ?_, alike.hasComposesProperty_eq n, alike.enclosingProperty?_eq n,
    alike.isKeyframePosition_eq same n, alike.isMapEntry_eq n⟩
  · rw [Tree.insideFunction, Tree.insideFunction, alike.nearest?_eq]
    exact alike.any_sameFold_name? same _
  · rw [Tree.insideAtRule, Tree.insideAtRule, alike.nearest?_eq]
    exact alike.any_sameFold_name? same _
  · apply alike.any_node?_eq
    intro x y same
    exact same.isFunctionNamed_eq "url"

/-- The nodes of a declaration with a call as its value, in an at-rule, by their names. -/
def Arena.oneCall (atRule prop function : String) : Arena :=
  ⟨#[.word "a" "", .function function [0], .assignment prop 1, .plainAtRule atRule "" [2]]⟩

/-- The letter after a sigma has another case, and decides the form of the sigma all the same. -/
theorem Arena.finish_disregards_case_sigma :
    ∃ s t, (oneCall "Media" "ΑΣX" "URL").finish 3 = .ok s ∧
      (oneCall "media" "ΑΣx" "Url").finish 3 = .ok t ∧
      (oneCall "Media" "ΑΣX" "URL").SameButCase (oneCall "media" "ΑΣx" "Url") ∧
      Text.sameFold "uRL" "url" = true ∧
      s.insideFunction 0 "uRL" = t.insideFunction 0 "url" ∧
      s.isUrlFunction 1 = t.isUrlFunction 1 ∧
      s.enclosingProperty? 0 = t.enclosingProperty? 0 := by
  obtain ⟨s, hs⟩ : ∃ s, (oneCall "Media" "ΑΣX" "URL").finish 3 = .ok s := ⟨_, rfl⟩
  obtain ⟨t, ht⟩ : ∃ t, (oneCall "media" "ΑΣx" "Url").finish 3 = .ok t := ⟨_, rfl⟩
  have alike : (oneCall "Media" "ΑΣX" "URL").SameButCase (oneCall "media" "ΑΣx" "Url") := by
    intro n
    match n with
    | 0 => exact .some (.refl _)
    | 1 => exact .some (.function (by decide) [0])
    | 2 => exact .some (.declaration (by decide) (some 1) none)
    | 3 => exact .some (.atRule (by decide) "" none [2])
    | n + 4 => exact .none
  have same : Text.sameFold "uRL" "url" = true := by decide
  obtain ⟨function, _, _, _, property, _⟩ := Arena.finish_disregards_case hs ht alike same 0
  obtain ⟨_, _, url, _⟩ := Arena.finish_disregards_case hs ht alike same 1
  exact ⟨s, t, hs, ht, alike, same, function, url, property⟩

end StyleTree
