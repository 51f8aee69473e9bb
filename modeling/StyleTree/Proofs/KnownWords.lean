import StyleTree.MarkupTag
import StyleTree.Proofs.AsciiCase
import StyleTree.Proofs.Normalizing
import StyleTree.Proofs.Signs
import StyleTree.Vocabulary

/-!
# Known words

The words of a fixed set are found in two ways that disregard letter case: names of elements by
lower-casing, and keywords by the letters of ASCII alone. Both find what normalizing finds. None of
the words bears a sign of a chosen name, and lower-casing does not change whether a text does, so
whatever is lower-cased to one of the words was free of such signs (`keepsCase_of_mem`), and
normalizing lower-cases it too (`normalize_mem_iff`). For the keywords it makes no difference that
only ASCII is compared, because none of them has a letter that other characters are lower-cased to
(`any_sameFold_iff`).
-/

namespace StyleTree

namespace Identifier

open Text

/-- The keywords that are found by comparing the letters of ASCII alone. -/
def keywords : List String :=
  Vocabulary.wideKeywords ++ Vocabulary.keyframePositions

/-- No word that is found in any letter case bears a sign of a chosen name. -/
lemma keepsCase_words :
    ((MarkupTag.names ++ keywords).all fun word => !keepsCase word) = true := by
  decide +kernel

/-- Every keyword is written in small letters of ASCII. -/
lemma isSmall_keywords :
    (keywords.all fun word => word.toList.all fun c => decide (IsSmall c)) = true := by
  decide +kernel

variable {words : List String} {s : String}

/-- A text that is lower-cased to a word without a sign of a chosen name has no such sign. -/
lemma keepsCase_of_mem (folds : ∀ word ∈ words, keepsCase word = false)
    (mem : lowercase s ∈ words) : keepsCase s = false := by
  rw [← keepsCase_lowercase]
  exact folds _ mem

/-- Among words without such signs, a text is found when it is normalized or when lower-cased. -/
lemma normalize_mem_iff (folds : ∀ word ∈ words, keepsCase word = false) :
    normalize s ∈ words ↔ lowercase s ∈ words := by
  cases keeps : keepsCase s with
  | false => rw [normalize_of_not_keepsCase keeps]
  | true =>
    rw [normalize_of_keepsCase keeps]
    refine iff_of_false ?_ ?_
    · intro mem
      rw [folds s mem] at keeps
      cases keeps
    · intro mem
      rw [keepsCase_of_mem folds mem] at keeps
      cases keeps

/-- Among words of small letters, comparing within ASCII finds what lower-casing finds. -/
lemma any_sameFold_iff (small : ∀ word ∈ words, ∀ c ∈ word.toList, IsSmall c) :
    words.any (sameFold · s) = true ↔ lowercase s ∈ words := by
  rw [List.any_eq_true]
  refine ⟨?_, ?_⟩
  · intro h
    obtain ⟨word, mem, same⟩ := h
    rw [(sameFold_small (small word mem)).mp same]
    exact mem
  · intro mem
    exact ⟨_, mem, (sameFold_small (small _ mem)).mpr rfl⟩

/--
A text names an element, is a keyword of every property or is a position of keyframes exactly when
it is normalized to one of these words as it is spelled in its table. The letter case of such a text
never counts as significant, so normalizing lower-cases it.
-/
theorem normalize_finds_words (s : String) :
    (MarkupTag.isKnown s = true ↔ normalize s ∈ MarkupTag.names) ∧
      (Vocabulary.isWideKeyword s = true ↔ normalize s ∈ Vocabulary.wideKeywords) ∧
      (Vocabulary.isKeyframePosition s = true ↔ normalize s ∈ Vocabulary.keyframePositions) ∧
      (MarkupTag.isKnown s = true ∨ Vocabulary.isWideKeyword s = true ∨
          Vocabulary.isKeyframePosition s = true →
        keepsCase s = false ∧ normalize s = lowercase s) := by
  have folds : ∀ word ∈ MarkupTag.names ++ keywords, keepsCase word = false := by
    simpa using List.all_eq_true.mp keepsCase_words
  obtain ⟨folds_names, folds_keywords⟩ := List.forall_mem_append.mp folds
  obtain ⟨folds_wide, folds_positions⟩ := List.forall_mem_append.mp folds_keywords
  have small : ∀ word ∈ keywords, ∀ c ∈ word.toList, IsSmall c := by
    simpa using isSmall_keywords
  obtain ⟨small_wide, small_positions⟩ := List.forall_mem_append.mp small
  have element : MarkupTag.isKnown s = true ↔ lowercase s ∈ MarkupTag.names :=
    List.contains_iff_mem
  have wide : Vocabulary.isWideKeyword s = true ↔ lowercase s ∈ Vocabulary.wideKeywords :=
    any_sameFold_iff small_wide
  have position :
      Vocabulary.isKeyframePosition s = true ↔ lowercase s ∈ Vocabulary.keyframePositions :=
    any_sameFold_iff small_positions
  refine ⟨element.trans (normalize_mem_iff folds_names).symm,
    wide.trans (normalize_mem_iff folds_wide).symm,
    position.trans (normalize_mem_iff folds_positions).symm, ?_⟩
  intro found
  have mem : lowercase s ∈ MarkupTag.names ++ keywords := by
    rw [List.mem_append, keywords, List.mem_append, ← element, ← wide, ← position]
    exact found
  have folded : keepsCase s = false := keepsCase_of_mem folds mem
  exact ⟨folded, normalize_of_not_keepsCase folded⟩

/-- The sign for kelvin is lower-cased to a letter of ASCII, and ends the name of an element. -/
theorem normalize_finds_words_kelvin :
    MarkupTag.isKnown "LIN\u212A" = true ∧ normalize "LIN\u212A" ∈ MarkupTag.names ∧
      keepsCase "LIN\u212A" = false ∧ normalize "LIN\u212A" = lowercase "LIN\u212A" := by
  obtain ⟨element, _, _, folds⟩ := normalize_finds_words "LIN\u212A"
  have known : MarkupTag.isKnown "LIN\u212A" = true := by decide +kernel
  exact ⟨known, element.mp known, folds (.inl known)⟩

end Identifier

end StyleTree
