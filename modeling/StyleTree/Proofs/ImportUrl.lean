import StyleTree.Context
import StyleTree.Proofs.AsciiCase
import StyleTree.Proofs.Environment

/-!
# Imports by a call of `url`

Whether a group is the address of an import is asked in one question, and in two that are more
general: whether the nearest at-rule is an import, and whether the first child is a call of `url`.
The general ones disregard letter case, and the one question does not. A word without capitals is
the spelling that folds to it and has no capitals either (`Text.eq_iff_sameFold`), so the one
question is the two together and the absence of capitals from both names
(`isImportUrl_iff_uncapitalised`).
-/

namespace StyleTree

open Text

namespace Tree

variable {t : Tree} {n c d : NodeId} {name : String} {args : List NodeId}

/-- The name that was found is spelled like a word when it folds to it and has no capitals. -/
lemma beq_some_iff_sameFold {found : Option String} {w : String} (plain : Uncapitalised w) :
    (found == some w) = true ↔
      found.any (sameFold · w) = true ∧ ∀ s, found = some s → Uncapitalised s := by
  rw [beq_iff_eq]
  cases found with
  | none => simp
  | some s => simp [eq_iff_sameFold plain]

/-- A function is one of `url` when its name is, in any letter case. -/
lemma isUrlFunction_eq (call : t.node? c = some (.function name args)) :
    t.isUrlFunction c = sameFold name "url" :=
  holds_eq call

/-- A group of two is the address of an import when both names are spelled as they are here. -/
lemma isImportUrl_iff_spelled (group : t.isGroup n) (children : t.children n = [c, d])
    (call : t.node? c = some (.function name args)) :
    t.isImportUrl n = true ↔
      ((t.nearest? n [.atRule]).bind t.name? == some "import") = true ∧ name = "url" := by
  have first : t.child? n 0 = some c := by
    rw [child?, children]
    rfl
  have text : t.text? c = some name := by
    rw [text?, call]
    rfl
  rw [isImportUrl, group, children, first, Option.bind_some, text]
  simp

/--
Of a group of two that begins with a call, it is asked in one question whether it is the address of
an import. The answer is yes exactly when the nearest at-rule is an import and the call is one of
`url`, where letter case is disregarded, and neither of the two names has a capital letter.
-/
theorem isImportUrl_iff_uncapitalised (group : t.isGroup n) (children : t.children n = [c, d])
    (call : t.node? c = some (.function name args)) :
    t.isImportUrl n = true ↔
      (t.insideAtRule n "import" = true ∧ t.isUrlFunction c = true) ∧
        (∀ s, (t.nearest? n [.atRule]).bind t.name? = some s → Uncapitalised s) ∧
        Uncapitalised name := by
  have plain : Uncapitalised "import" := by decide
  have plain' : Uncapitalised "url" := by decide
  rw [isImportUrl_iff_spelled group children call, beq_some_iff_sameFold plain,
    eq_iff_sameFold plain', isUrlFunction_eq call, insideAtRule]
  exact and_and_and_comm

end Tree

/-- The nodes of an import of `foo.css` for screens, by the names of the at-rule and the call. -/
def Arena.ofImport (atRule function : String) : Arena :=
  ⟨#[.word "foo.css" "", .function function [0], .word "screen" " ", .commaGroup [1, 2],
    .valueValue (some 3), .valueRoot (some 4),
    .plainAtRule atRule (function ++ "(foo.css) screen") [5], .root [6]]⟩

/-- The tree of an import with a function and a word as its parameters, group by group. -/
lemma Arena.ofImport_finish {atRule function : String} {t : Tree}
    (h : (ofImport atRule function).finish 7 = .ok t) :
    t.isGroup 3 ∧ t.children 3 = [1, 2] ∧ t.node? 1 = some (.function function [0]) ∧
      (t.nearest? 3 [.atRule]).bind t.name? = some atRule := by
  obtain ⟨arena, root⟩ := t
  obtain ⟨rfl, rfl⟩ := eq_of_finish h
  refine ⟨rfl, rfl, rfl, ?_⟩
  -- the value and its root stand between the group and the at-rule
  rw [Tree.nearest?_child (p := 4) (Tree.parent?_eq_some.mpr (List.mem_singleton_self 3)),
    Tree.nearest?_child (p := 5) (Tree.parent?_eq_some.mpr (List.mem_singleton_self 4)),
    Tree.nearest?_child (p := 6) (Tree.parent?_eq_some.mpr (List.mem_singleton_self 5))]
  rfl

/-- Of an import that is written in small letters, the address is found. -/
theorem Tree.isImportUrl_iff_uncapitalised_small :
    ∃ t, (Arena.ofImport "import" "url").finish 7 = .ok t ∧ t.isGroup 3 ∧
      t.children 3 = [1, 2] ∧ t.node? 1 = some (.function "url" [0]) ∧ t.isImportUrl 3 = true := by
  obtain ⟨t, h⟩ : ∃ t, (Arena.ofImport "import" "url").finish 7 = .ok t := ⟨_, rfl⟩
  obtain ⟨group, children, call, name⟩ := Arena.ofImport_finish h
  refine ⟨t, h, group, children, call, ?_⟩
  refine (Tree.isImportUrl_iff_uncapitalised group children call).mpr ⟨⟨?_, ?_⟩, ?_, by decide⟩
  · rw [insideAtRule, name]
    decide
  · rw [isUrlFunction_eq call]
    decide
  · intro s found
    obtain rfl := Option.some.inj (name.symm.trans found)
    decide

/-- Not every address of an import is found: `@IMPORT url(foo.css) screen` has one that is not. -/
theorem Tree.not_every_import_isImportUrl :
    ¬ ∀ (a : Arena) (root : NodeId) (t : Tree), a.finish root = .ok t →
      ∀ n c d name args, t.isGroup n → t.children n = [c, d] →
        t.node? c = some (.function name args) →
          (t.isImportUrl n = true ↔
            t.insideAtRule n "import" = true ∧ t.isUrlFunction c = true) := by
  intro every
  obtain ⟨t, h⟩ : ∃ t, (Arena.ofImport "IMPORT" "url").finish 7 = .ok t := ⟨_, rfl⟩
  obtain ⟨group, children, call, name⟩ := Arena.ofImport_finish h
  have inside : t.insideAtRule 3 "import" = true := by
    rw [insideAtRule, name]
    decide
  have url : t.isUrlFunction 1 = true := by
    rw [isUrlFunction_eq call]
    decide
  have address := (every _ _ t h 3 1 2 _ _ group children call).mpr ⟨inside, url⟩
  rw [isImportUrl_iff_spelled group children call, name] at address
  exact absurd address (by decide)

end StyleTree
