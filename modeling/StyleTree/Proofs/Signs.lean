import Mathlib.Tactic.Lemma
import StyleTree.Identifier

/-!
# Which identifiers keep their letter case

A text keeps its letter case when it bears a sign of a chosen name, and is lower-cased otherwise,
but for one family of texts. The test for a call asks for both parentheses and not for their order
(`hasParens_iff`), so a text whose every `)` stands before every `(` passes it. Such a text has no
call (`HasReversedParens.not_hasCall`), and keeps its letter case all the same.
-/

namespace StyleTree.Identifier

variable {s : List Char}

/-- A marker is found when the text has a sigil or begins an interpolation. -/
lemma hasMarker_iff : hasMarker s = true ↔ ('$' ∈ s ∨ '@' ∈ s) ∨ '#' ∈ s := by
  simp only [hasMarker, Bool.or_eq_true, List.contains_iff_mem]

/-- A custom start is found when the text begins as one of the three does. -/
lemma hasCustomStart_iff :
    hasCustomStart s = true ↔
      (∃ rest, '%' :: rest = s) ∨ (∃ rest, '-' :: '-' :: rest = s) ∨
        ∃ rest, ':' :: '-' :: '-' :: rest = s := by
  simp only [hasCustomStart, Bool.or_eq_true, List.isPrefixOf_iff_prefix, or_assoc]
  rfl

/-- Both parentheses are in a text exactly when it has a call or has them in the wrong order. -/
lemma hasParens_iff : hasParens s = true ↔ HasCall s ∨ HasReversedParens s := by
  simp only [hasParens, Bool.and_eq_true, List.contains_iff_mem]
  refine ⟨?_, ?_⟩
  · intro h
    obtain ⟨opening, closing⟩ := h
    -- the first opening parenthesis decides
    obtain ⟨before, rest, rfl, first⟩ := List.eq_append_cons_of_mem opening
    by_cases later : ')' ∈ rest
    · have call : ['(', ')'].Sublist ('(' :: rest) :=
        (List.singleton_sublist.mpr later).cons_cons '('
      exact .inl (call.trans (List.sublist_append_right before _))
    · have earlier : ')' ∈ before := by simpa [later] using closing
      exact .inr ⟨before, '(' :: rest, rfl, earlier, first, by simp, by simp [later]⟩
  · intro h
    rcases h with call | ⟨before, after, rfl, closing, _, opening, _⟩
    · exact ⟨call.subset (by simp), call.subset (by simp)⟩
    · simp [opening, closing]

/-- Parentheses in the wrong order only are no call. -/
lemma HasReversedParens.not_hasCall (reversed : HasReversedParens s) : ¬ HasCall s := by
  intro call
  obtain ⟨before, after, rfl, _, no_opening, _, no_closing⟩ := reversed
  obtain ⟨l, r, split, left, right⟩ := List.sublist_append_iff.mp call
  cases l with
  | nil =>
    -- then the closing parenthesis is among the later characters
    rw [List.nil_append] at split
    exact no_closing (right.subset (split ▸ by simp))
  | cons c l =>
    obtain ⟨rfl, _⟩ := List.cons_eq_cons.mp split
    exact no_opening (left.subset List.mem_cons_self)

/-- The tests for a sign other than a call find just these signs. -/
lemma signed_iff : Signed s ↔ hasMarker s = true ∨ hasCustomStart s = true ∨ HasCall s := by
  rw [hasMarker_iff, hasCustomStart_iff]
  refine ⟨?_, ?_⟩
  · intro signed
    cases signed with
    | sigil mem => exact .inl (.inl mem)
    | interpolation mem => exact .inl (.inr mem)
    | placeholder => exact .inr (.inl (.inl ⟨_, rfl⟩))
    | customProperty => exact .inr (.inl (.inr (.inl ⟨_, rfl⟩)))
    | customSelector => exact .inr (.inl (.inr (.inr ⟨_, rfl⟩)))
    | call call => exact .inr (.inr call)
  · intro h
    rcases h with (sigil | hash) | (⟨rest, rfl⟩ | ⟨rest, rfl⟩ | ⟨rest, rfl⟩) | call
    · exact .sigil sigil
    · exact .interpolation hash
    · exact .placeholder
    · exact .customProperty
    · exact .customSelector
    · exact .call call

/-- The letter case is kept for a sign, and for parentheses in the wrong order. -/
lemma keepsCase_iff (s : String) :
    keepsCase s = true ↔ Signed s.toList ∨ HasReversedParens s.toList := by
  rw [keepsCase, Bool.or_eq_true, Bool.or_eq_true, hasParens_iff, signed_iff]
  simp only [or_assoc]

/-- A text whose letter case may matter is kept. -/
lemma normalize_of_keepsCase {s : String} (keeps : keepsCase s = true) : normalize s = s :=
  if_pos keeps

/-- A text whose letter case does not matter is lower-cased. -/
lemma normalize_of_not_keepsCase {s : String} (folds : keepsCase s = false) :
    normalize s = Text.lowercase s := by
  rw [normalize, folds, if_neg Bool.false_ne_true]

/--
A text that bears a sign is kept as it is. So is a text with its parentheses in the wrong order
only, although that is no call. Every other text is lower-cased.
-/
theorem normalize_by_signs (s : String) :
    (Signed s.toList → keepsCase s = true ∧ normalize s = s) ∧
      (HasReversedParens s.toList →
        ¬ HasCall s.toList ∧ keepsCase s = true ∧ normalize s = s) ∧
      (¬ Signed s.toList → ¬ HasReversedParens s.toList →
        keepsCase s = false ∧ normalize s = Text.lowercase s) := by
  refine ⟨?_, ?_, ?_⟩
  · intro signed
    have keeps := (keepsCase_iff s).mpr (.inl signed)
    exact ⟨keeps, normalize_of_keepsCase keeps⟩
  · intro reversed
    have keeps := (keepsCase_iff s).mpr (.inr reversed)
    exact ⟨reversed.not_hasCall, keeps, normalize_of_keepsCase keeps⟩
  · intro unsigned ordered
    have folds : keepsCase s = false := by
      rw [Bool.eq_false_iff, Ne, keepsCase_iff]
      exact not_or.mpr ⟨unsigned, ordered⟩
    exact ⟨folds, normalize_of_not_keepsCase folds⟩

/-- A call is kept, and a parenthesis by itself is not. -/
theorem normalize_by_signs_parens :
    normalize "Foo(Bar)" = "Foo(Bar)" ∧ normalize ")A(" = ")A(" ∧
      normalize "Foo(" = Text.lowercase "Foo(" := by
  have call : Signed "Foo(Bar)".toList := .call (by decide)
  have reversed : HasReversedParens ")A(".toList :=
    ⟨[')'], ['A', '('], rfl, by decide, by decide, by decide, by decide⟩
  have folds : ¬ (Signed "Foo(".toList ∨ HasReversedParens "Foo(".toList) := by
    rw [← keepsCase_iff]
    decide
  obtain ⟨unsigned, ordered⟩ := not_or.mp folds
  obtain ⟨kept, _⟩ := normalize_by_signs "Foo(Bar)"
  obtain ⟨_, kept_reversed, _⟩ := normalize_by_signs ")A("
  obtain ⟨_, _, lowered⟩ := normalize_by_signs "Foo("
  exact ⟨(kept call).2, (kept_reversed reversed).2.2, (lowered unsigned ordered).2⟩

/-- Not every text without a sign is lower-cased: `)A(` has no call, and stays. -/
theorem not_every_unsigned_lowercase :
    ¬ ∀ s : String,
      (Signed s.toList → normalize s = s) ∧
        (¬ Signed s.toList → normalize s = Text.lowercase s) := by
  intro every
  have reversed : HasReversedParens ")A(".toList :=
    ⟨[')'], ['A', '('], rfl, by decide, by decide, by decide, by decide⟩
  have unsigned : ¬ Signed ")A(".toList := by
    rw [signed_iff]
    rintro (marker | start | call)
    · cases marker
    · cases start
    · exact reversed.not_hasCall call
  have lowered : normalize ")A(" = Text.lowercase ")A(" := (every ")A(").2 unsigned
  have kept : normalize ")A(" = ")A(" := rfl
  have differs : Text.lowercase ")A(" ≠ ")A(" := by decide +kernel
  exact differs (lowered.symm.trans kept)

end StyleTree.Identifier
