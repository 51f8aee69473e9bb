import StyleTree.Proofs.Ancestry
import StyleTree.Statement

/-!
# Statements of Less

Two statements of Less reach the tree as a rule and as an at-rule, and are told by a text of theirs.
The recogniser of each accepts the texts of its shape (`isVariableDeclaration_iff`,
`isEmptyCall_iff`), wherever the runs of characters in it have to end. Which text is read depends on
the fields of the node: a selector may be plain or parsed, and parameters may be kept as written.
-/

namespace StyleTree

open Text Recogniser

variable {s : List Char}

/-- Of several colons any may end the name, but for one that directly follows the at sign. -/
lemma isVariableDeclaration_iff : isVariableDeclaration s = true ↔ VariableShape s := by
  simp only [isVariableDeclaration, word_iff, oneOrMore_iff, List.all_eq_true, bne_iff_ne]
  refine ⟨?_, ?_⟩
  · intro h
    obtain ⟨_, rfl, name, _, rfl, some_name, name_line, value, rfl, value_line⟩ := h
    have shape : VariableShape (['@'] ++ name ++ [':'] ++ value) :=
      .declaration some_name (fun mem => name_line _ mem rfl) (fun mem => value_line _ mem rfl)
    simpa only [List.append_assoc] using shape
  · intro shape
    cases shape with
    | @declaration name value some_name name_line value_line =>
      refine ⟨_, by simp only [List.append_assoc], name, _, rfl, some_name, ?_, value, rfl, ?_⟩
      · rintro _ mem rfl
        exact name_line mem
      · rintro _ mem rfl
        exact value_line mem

example : isVariableDeclaration ['@', ':'] = false := rfl

example : isVariableDeclaration ['@', ':', ':'] = true := rfl

example : isVariableDeclaration ['@', 'a', ':', '\n'] = false := rfl

/-- A text is found to be an empty call when it has the shape of one. -/
lemma isEmptyCall_iff : isEmptyCall s = true ↔ EmptyCallShape s := by
  simp only [isEmptyCall, word_iff, zeroOrMore_iff, List.isEmpty_iff]
  refine ⟨?_, ?_⟩
  · intro h
    obtain ⟨_, rfl, blanks, _, rfl, blank, _, rfl, rfl⟩ := h
    exact .parens blank
  · intro shape
    cases shape with
    | @parens blanks blank => exact ⟨_, rfl, blanks, _, rfl, blank, [], rfl, rfl⟩

namespace Tree

variable {t : Tree} {n : NodeId} {x : Node}

/-- A node is found to be a misread declaration when its selector has the shape of one. -/
lemma isMisparsedVariableDeclaration_iff (found : t.node? n = some x) :
    t.isMisparsedVariableDeclaration n = true ↔
      ∃ text, x.selector?.bind Selector.text? = some text ∧ VariableShape text.toList := by
  rw [isMisparsedVariableDeclaration, selector?, found, Option.bind_some]
  simp only [Option.any_eq_true, isVariableDeclaration_iff]

/-- A node is found to be a call of a ruleset when its parameters have the shape of one. -/
lemma isDetachedRulesetCall_iff (found : t.node? n = some x) :
    t.isDetachedRulesetCall n = true ↔
      ∃ text, x.rawParams? = some text ∧ EmptyCallShape text.toList := by
  rw [isDetachedRulesetCall, rawParams?, found, Option.bind_some]
  simp only [Option.any_eq_true, isEmptyCall_iff]

end Tree

/-- The text of a selector is there when it is plain, or parsed with its text kept. -/
lemma Selector.bind_text?_eq_some {o : Option Selector} {text : String} :
    o.bind Selector.text? = some text ↔
      o = some (.text text) ∨ o = some (.structured (some text)) := by
  cases o with
  | none => simp
  | some selector => cases selector <;> simp [Selector.text?]

/--
A rule is a misread declaration of a variable exactly when its selector has a text of that shape,
and an at-rule is the call of a detached ruleset exactly when its parameters as written, or else its
parameters, have the shape of an empty call. No node of any other kind is one or the other.
-/
theorem Tree.isLessStatement_iff_shape (t : Tree) {n : NodeId} {x : Node}
    (found : t.node? n = some x) :
    (∀ selector raw nodes, x = .rule selector raw nodes →
        (t.isMisparsedVariableDeclaration n = true ↔
          ∃ text, (selector = some (.text text) ∨ selector = some (.structured (some text))) ∧
            VariableShape text.toList)) ∧
      (∀ name params raw nodes, x = .atRule name params raw nodes →
        (t.isDetachedRulesetCall n = true ↔
          ∃ text, (raw = some text ∨ raw = none ∧ params = text) ∧
            EmptyCallShape text.toList)) ∧
      (x.kind ≠ .rule → t.isMisparsedVariableDeclaration n = false) ∧
      (x.kind ≠ .atRule → t.isDetachedRulesetCall n = false) := by
  refine ⟨?_, ?_, ?_, ?_⟩
  · rintro selector raw nodes rfl
    rw [isMisparsedVariableDeclaration_iff found]
    simp only [Node.selector?, Selector.bind_text?_eq_some]
  · rintro name params raw nodes rfl
    rw [isDetachedRulesetCall_iff found]
    cases raw <;> simp [Node.rawParams?]
  · intro kind
    rw [Bool.eq_false_iff, Ne, isMisparsedVariableDeclaration_iff found]
    rintro ⟨text, selector, _⟩
    cases x with
    | rule => exact kind rfl
    | _ => cases selector
  · intro kind
    rw [Bool.eq_false_iff, Ne, isDetachedRulesetCall_iff found]
    rintro ⟨text, params, _⟩
    cases x with
    | atRule => exact kind rfl
    | _ => cases params

/-- The nodes of a rule with a parsed selector, and of an at-rule with parameters as written. -/
def Arena.lessStatements (selector params rawParams : String) : Arena :=
  ⟨#[.rule (some (.structured (some selector))) none [],
    .atRule "detached" params (some rawParams) [], .root [0, 1]]⟩

/-- A second colon is part of the value, a line break is white space, and the root is neither. -/
theorem Tree.isLessStatement_iff_shape_both :
    ∃ t, (Arena.lessStatements "@a:b: c" "x" "(\n)").finish 2 = .ok t ∧
      t.node? 0 = some (.rule (some (.structured (some "@a:b: c"))) none []) ∧
      t.isMisparsedVariableDeclaration 0 = true ∧
      t.node? 1 = some (.atRule "detached" "x" (some "(\n)") []) ∧
      t.isDetachedRulesetCall 1 = true ∧
      t.node? 2 = some (.root [0, 1]) ∧ t.isMisparsedVariableDeclaration 2 = false ∧
      t.isDetachedRulesetCall 2 = false := by
  obtain ⟨t, h⟩ : ∃ t, (Arena.lessStatements "@a:b: c" "x" "(\n)").finish 2 = .ok t := ⟨_, rfl⟩
  have node (n : NodeId) : t.node? n = (Arena.lessStatements "@a:b: c" "x" "(\n)").node? n :=
    node?_of_finish h n
  obtain ⟨rule, _⟩ := t.isLessStatement_iff_shape (node 0)
  obtain ⟨_, atRule, _⟩ := t.isLessStatement_iff_shape (node 1)
  obtain ⟨_, _, no_rule, no_atRule⟩ := t.isLessStatement_iff_shape (node 2)
  refine ⟨t, h, node 0, (rule _ _ _ rfl).mpr ?_, node 1, (atRule _ _ _ _ rfl).mpr ?_, node 2,
    no_rule (by decide), no_atRule (by decide)⟩
  · have some_name : ['a', ':', 'b'] ≠ [] := by decide
    have value_line : '\n' ∉ [' ', 'c'] := by decide
    exact ⟨"@a:b: c", .inr rfl, .declaration some_name (by decide) value_line⟩
  · have blank : ∀ b ∈ ['\n'], isBlank b = true := List.forall_mem_singleton.mpr (by decide)
    exact ⟨"(\n)", .inl rfl, .parens blank⟩

end StyleTree
