import StyleTree.Identifier
import StyleTree.Proofs.Lowercase

/-!
# Normalizing identifiers

Whether the letter case of a text may matter is told by signs that are no letters, and lower-casing
neither makes nor removes one of these (`keepsCase_lowercase`). So a text that was lower-cased is
lower-cased when it is met again, which changes nothing, and a text that was kept is kept.
-/

namespace StyleTree.Identifier

open Text

variable {s : List Char}

/-- Lower-casing neither makes nor removes a character in front of the letters. -/
lemma contains_lowerAfter {d : Char} (low : BelowLetters d) :
    (lowerAfter [] s).contains d = s.contains d := by
  rw [Bool.eq_iff_iff, List.contains_iff_mem, List.contains_iff_mem, mem_lowerAfter_iff low]

/-- Lower-casing neither makes nor removes a marker. -/
lemma hasMarker_lowerAfter : hasMarker (lowerAfter [] s) = hasMarker s := by
  have dollar : BelowLetters '$' := by decide
  have at_sign : BelowLetters '@' := by decide
  have hash : BelowLetters '#' := by decide
  rw [hasMarker, contains_lowerAfter dollar, contains_lowerAfter at_sign, contains_lowerAfter hash]
  rfl

/-- Lower-casing neither makes nor removes parentheses. -/
lemma hasParens_lowerAfter : hasParens (lowerAfter [] s) = hasParens s := by
  have opening : BelowLetters '(' := by decide
  have closing : BelowLetters ')' := by decide
  rw [hasParens, contains_lowerAfter opening, contains_lowerAfter closing]
  rfl

/-- Lower-casing leaves it to a text whether it begins as a custom name does. -/
lemma hasCustomStart_lowerAfter : hasCustomStart (lowerAfter [] s) = hasCustomStart s := by
  have percent : ∀ d ∈ ['%'], BelowLetters d := by simp [BelowLetters]
  have dashes : ∀ d ∈ ['-', '-'], BelowLetters d := by simp [BelowLetters]
  have colon : ∀ d ∈ [':', '-', '-'], BelowLetters d := by simp [BelowLetters]
  rw [hasCustomStart, isPrefixOf_lowerAfter percent, isPrefixOf_lowerAfter dashes,
    isPrefixOf_lowerAfter colon]
  rfl

/-- Lower-casing a text does not change whether its letter case may matter. -/
lemma keepsCase_lowercase (s : String) : keepsCase (lowercase s) = keepsCase s := by
  rw [keepsCase, toList_lowercase, hasMarker_lowerAfter, hasCustomStart_lowerAfter,
    hasParens_lowerAfter]
  rfl

/--
Normalizing twice is normalizing once, and the second time the letter case is kept exactly when it
was kept the first time.
-/
theorem normalize_normalize (s : String) :
    normalize (normalize s) = normalize s ∧ keepsCase (normalize s) = keepsCase s := by
  by_cases kept : keepsCase s = true
  · have unchanged : normalize s = s := if_pos kept
    rw [unchanged]
    exact ⟨unchanged, rfl⟩
  · have lowered : normalize s = lowercase s := if_neg kept
    have lowered_again : normalize (lowercase s) = lowercase (lowercase s) :=
      if_neg (by rwa [keepsCase_lowercase])
    rw [lowered, lowered_again]
    exact ⟨lowercase_lowercase s, keepsCase_lowercase s⟩

/-- The sigma that ends a word is lower-cased to its final form, which stays. -/
example : normalize "ΟΔΟΣ" = "οδος" ∧ normalize "οδος" = "οδος" := by
  decide +kernel

end StyleTree.Identifier
