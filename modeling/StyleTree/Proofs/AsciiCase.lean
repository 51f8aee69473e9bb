import Mathlib
import StyleTree.Proofs.Lowercase

/-!
# Lower case and the letters of ASCII

Two ways to disregard letter case meet here, the one that knows the capitals of ASCII alone and the
full mapping. On a character of ASCII they do the same (`IsAscii.lowerForm_eq`). Whether a sigma
ends a word is seen at the characters around it, for which a letter of ASCII counts the same as
capital and as small letter (`meetsCased_congr`), so texts that differ in the case of such letters
only are lower-cased to the same (`lowercase_congr`).

A character outside of ASCII never becomes one of ASCII, but for two that become an i with a dot
above and a k (`exists_mem_lowerForm`). So a text is lower-cased to a word of small letters without
a k exactly when it differs from the word in the case of these letters only (`sameFold_small`).
-/

namespace StyleTree.Text

/-- The span of the capitals of ASCII. -/
def capitalSpan : CaseSpan :=
  ⟨0x0041, 0x005A, 1, 32⟩

/-- The span of the sign for kelvin, which lands on the letter k. -/
def kelvinSpan : CaseSpan :=
  ⟨0x212A, 0x212A, 1, -8383⟩

/-- Of the other spans none begins in ASCII, and none but the sign for kelvin lands there. -/
lemma lowerSpans_beyond_ascii :
    (lowerSpans.all fun span => span == capitalSpan ||
      Nat.blt 0x7F span.first && (span == kelvinSpan || Nat.blt 0x7F span.landFirst)) = true := by
  decide +kernel

/-- The letters of ASCII are in no range of the characters that are ignored. -/
lemma caseIgnorableRanges_beside_letters :
    (caseIgnorableRanges.all fun range => Nat.blt range.last 0x41 ||
      Nat.blt 0x5A range.first && Nat.blt range.last 0x61 || Nat.blt 0x7A range.first) = true := by
  decide +kernel

/-- The character is one of ASCII. -/
def IsAscii (c : Char) : Prop :=
  c.toNat ≤ 0x7F

instance : DecidablePred IsAscii := fun c =>
  inferInstanceAs (Decidable (c.toNat ≤ 0x7F))

/-- The character is one of ASCII, no capital letter, and not the letter k. -/
def IsSmall (c : Char) : Prop :=
  IsAscii c ∧ c.isUpper = false ∧ c ≠ 'k'

instance : DecidablePred IsSmall := fun _ =>
  inferInstanceAs (Decidable (_ ∧ _ ∧ _))

variable {c d : Char} {before before' after after' s s' : List Char} {span : CaseSpan}

/--
Beside the span of the capitals, a span begins beyond ASCII, and but for the Kelvin sign it lands
there too.
-/
lemma mem_lowerSpans (mem : span ∈ lowerSpans) :
    span = capitalSpan ∨
      0x7F < span.first ∧ (span = kelvinSpan ∨ 0x7F < span.landFirst) := by
  have checked := List.all_eq_true.mp lowerSpans_beyond_ascii span mem
  simpa only [Bool.or_eq_true, Bool.and_eq_true, beq_iff_eq, Nat.blt_eq] using checked

/-- The capitals of ASCII by their code points. -/
lemma isUpper_iff : c.isUpper = true ↔ 0x41 ≤ c.toNat ∧ c.toNat ≤ 0x5A := by
  simp only [Char.isUpper, decide_eq_true_iff]
  rfl

/-- The small letters of ASCII by their code points. -/
lemma isLower_iff : c.isLower = true ↔ 0x61 ≤ c.toNat ∧ c.toNat ≤ 0x7A := by
  simp only [Char.isLower, Bool.and_eq_true, decide_eq_true_iff]
  rfl

/-- The letters of ASCII by their code points. -/
lemma isAlpha_iff :
    c.isAlpha = true ↔ 0x41 ≤ c.toNat ∧ c.toNat ≤ 0x5A ∨ 0x61 ≤ c.toNat ∧ c.toNat ≤ 0x7A := by
  rw [Char.isAlpha, Bool.or_eq_true, isUpper_iff, isLower_iff]

/-- The span of the capitals of ASCII holds these and nothing else. -/
lemma has_capitalSpan : capitalSpan.has c = true ↔ c.isUpper = true := by
  rw [CaseSpan.has_iff, isUpper_iff]
  simp only [capitalSpan, Nat.mod_one, and_true]

/-- A capital of ASCII and its small letter are 32 code points apart. -/
lemma toNat_toLower (upper : c.isUpper = true) : c.toLower.toNat = c.toNat + 32 := by
  have bounds := isUpper_iff.mp upper
  have valid : (c.toNat + 32).isValidChar := .inl (by omega)
  rw [Char.toLower_eq_of_isUpper upper, Char.toNat_ofNat, if_pos valid]

/-- The span of the capitals of ASCII moves each to its small letter. -/
lemma move_capitalSpan (upper : c.isUpper = true) : capitalSpan.move c = c.toLower := by
  have bounds := isUpper_iff.mp upper
  obtain ⟨place, _⟩ := CaseSpan.toNat_move (by decide) (has_capitalSpan.mpr upper)
  have first : capitalSpan.first = 0x41 ∧ capitalSpan.landFirst = 0x61 := ⟨rfl, rfl⟩
  rw [← Char.toNat_inj, place, toNat_toLower upper]
  omega

/-- What changes its case within ASCII is a letter before and after. -/
lemma isAlpha_or_toLower_eq (c : Char) :
    c.isAlpha = true ∧ c.toLower.isAlpha = true ∨ c.toLower = c := by
  by_cases upper : c.isUpper = true
  · have letter : c.isAlpha = true := by
      rw [Char.isAlpha, upper, Bool.true_or]
    exact .inl ⟨letter, by rwa [Char.isAlpha_toLower_eq_isAlpha]⟩
  · exact .inr (Char.toLower_eq_of_not_isUpper upper)

/-- Letters of ASCII are in ASCII. -/
lemma isAscii_of_isAlpha (letter : c.isAlpha = true) : IsAscii c := by
  have bounds := isAlpha_iff.mp letter
  unfold IsAscii
  omega

/-- Folding neither leads into ASCII nor out of it. -/
lemma isAscii_toLower : IsAscii c.toLower ↔ IsAscii c := by
  rcases isAlpha_or_toLower_eq c with ⟨letter, lower⟩ | same
  · exact iff_of_true (isAscii_of_isAlpha lower) (isAscii_of_isAlpha letter)
  · rw [same]

/-- Folding leaves a character beyond ASCII alone. -/
lemma toLower_of_not_isAscii (beyond : ¬ IsAscii c) : c.toLower = c := by
  rcases isAlpha_or_toLower_eq c with ⟨letter, _⟩ | same
  · exact absurd (isAscii_of_isAlpha letter) beyond
  · exact same

/-- Characters that differ in letter case only are both of ASCII, or they are the same. -/
lemma isAscii_or_eq_of_toLower (same : c.toLower = d.toLower) :
    IsAscii c ∧ IsAscii d ∨ c = d := by
  by_cases ascii : IsAscii c
  · have ascii' : IsAscii d := by rwa [← isAscii_toLower, ← same, isAscii_toLower]
    exact .inl ⟨ascii, ascii'⟩
  · have beyond : ¬ IsAscii d := by rwa [← isAscii_toLower, ← same, isAscii_toLower]
    rw [toLower_of_not_isAscii ascii, toLower_of_not_isAscii beyond] at same
    exact .inr same

namespace IsAscii

/-- A character of ASCII is none beyond it. -/
lemma ne_of_lt (ascii : IsAscii c) (beyond : 0x7F < d.toNat) : c ≠ d := by
  rintro rfl
  exact Nat.not_lt_of_le ascii beyond

/-- Within ASCII only capitals have a lower-case form of their own. -/
lemma settled (ascii : IsAscii c) (lower : ¬ c.isUpper = true) : Settled c := by
  intro span mem
  rw [Bool.eq_false_iff]
  intro has
  obtain ⟨first, _⟩ := CaseSpan.has_iff.mp has
  unfold IsAscii at ascii
  rcases List.mem_cons.mp mem with rfl | mem
  · have dotted : dottedSpan.first = 0x0130 := rfl
    omega
  · rcases mem_lowerSpans mem with rfl | ⟨beyond, _⟩
    · exact lower (has_capitalSpan.mp has)
    · omega

/-- On a character of ASCII, lower-casing does what it does within ASCII. -/
lemma lowerForm_eq (ascii : IsAscii c) : lowerForm before c after = [c.toLower] := by
  by_cases upper : c.isUpper = true
  · have first : lowerSpans.find? (·.has c) = some capitalSpan :=
      List.find?_cons_of_pos (has_capitalSpan.mpr upper)
    rw [lowerForm, if_neg (ascii.ne_of_lt (by decide)), lowerChar,
      if_neg (ascii.ne_of_lt (by decide)), first]
    exact congrArg (fun e => [e]) (move_capitalSpan upper)
  · rw [(ascii.settled upper).lowerForm_eq, Char.toLower_eq_of_not_isUpper upper]

end IsAscii

/-- A letter of ASCII has a case and is not ignored. -/
lemma isCased_of_isAlpha (letter : c.isAlpha = true) :
    isCased c = true ∧ isCaseIgnorable c = false := by
  have bounds := isAlpha_iff.mp letter
  refine ⟨?_, ?_⟩
  · rw [isCased, List.any_eq_true]
    rcases bounds with capital | small
    · exact ⟨⟨0x41, 0x5A⟩, by decide, by simpa [CodeRange.has] using capital⟩
    · exact ⟨⟨0x61, 0x7A⟩, by decide, by simpa [CodeRange.has] using small⟩
  · rw [isCaseIgnorable, List.any_eq_false]
    intro range mem has
    have beside := List.all_eq_true.mp caseIgnorableRanges_beside_letters range mem
    simp only [Bool.or_eq_true, Bool.and_eq_true, Nat.blt_eq] at beside
    simp only [CodeRange.has, Bool.and_eq_true, decide_eq_true_iff] at has
    omega

/-- Folding a character changes nothing in whether it has a case. -/
lemma isCased_toLower (c : Char) : isCased c.toLower = isCased c := by
  rcases isAlpha_or_toLower_eq c with ⟨letter, lower⟩ | same
  · rw [(isCased_of_isAlpha letter).1, (isCased_of_isAlpha lower).1]
  · rw [same]

/-- Folding a character changes nothing in whether letter case passes over it. -/
lemma isCaseIgnorable_toLower (c : Char) : isCaseIgnorable c.toLower = isCaseIgnorable c := by
  rcases isAlpha_or_toLower_eq c with ⟨letter, lower⟩ | same
  · rw [(isCased_of_isAlpha letter).2, (isCased_of_isAlpha lower).2]
  · rw [same]

/-- Folding a text changes nothing in whether letter case is met in it. -/
lemma meetsCased_map_toLower (s : List Char) : meetsCased (s.map Char.toLower) = meetsCased s := by
  have ignored : isCaseIgnorable ∘ Char.toLower = isCaseIgnorable := funext isCaseIgnorable_toLower
  rw [meetsCased, meetsCased, List.dropWhile_map, ignored]
  cases s.dropWhile isCaseIgnorable with
  | nil => rfl
  | cons c rest => exact isCased_toLower c

/-- The form of a sigma does not depend on the case of the letters of ASCII around it. -/
lemma lowerSigma_congr (same : before.map Char.toLower = before'.map Char.toLower)
    (same' : after.map Char.toLower = after'.map Char.toLower) :
    lowerSigma before after = lowerSigma before' after' := by
  rw [lowerSigma, lowerSigma, ← meetsCased_map_toLower before, ← meetsCased_map_toLower after,
    same, same', meetsCased_map_toLower, meetsCased_map_toLower]

/-- A character has one form among neighbours that differ in the case of ASCII only. -/
lemma lowerForm_congr (here : c.toLower = d.toLower)
    (same : before.map Char.toLower = before'.map Char.toLower)
    (same' : after.map Char.toLower = after'.map Char.toLower) :
    lowerForm before c after = lowerForm before' d after' := by
  rcases isAscii_or_eq_of_toLower here with ⟨ascii, ascii'⟩ | rfl
  · rw [ascii.lowerForm_eq, ascii'.lowerForm_eq, here]
  · rw [lowerForm, lowerForm, lowerSigma_congr same same']

/-- Texts that differ in the case of ASCII only have one lower-case form. -/
lemma lowerAfter_congr (same : before.map Char.toLower = before'.map Char.toLower)
    (same' : s.map Char.toLower = s'.map Char.toLower) :
    lowerAfter before s = lowerAfter before' s' := by
  induction s generalizing before before' s' with
  | nil =>
    cases s' with
    | nil => rfl
    | cons d s' => cases same'
  | cons c s ih =>
    cases s' with
    | nil => cases same'
    | cons d s' =>
      obtain ⟨here, rest⟩ := List.cons.inj same'
      have before_eq : (c :: before).map Char.toLower = (d :: before').map Char.toLower := by
        rw [List.map_cons, List.map_cons, here, same]
      rw [lowerAfter_cons, lowerAfter_cons, lowerForm_congr here same rest, ih before_eq rest]

/-- Texts that differ in the case of letters of ASCII only are lower-cased to the same text. -/
lemma lowercase_congr {s t : String} (same : foldAscii s = foldAscii t) :
    lowercase s = lowercase t := by
  rw [lowercase, lowercase, lowerAfter_congr rfl same]

/-- What a character beyond ASCII is lower-cased to has a part that is no small letter. -/
lemma exists_mem_lowerForm (beyond : ¬ IsAscii c) :
    ∃ d ∈ lowerForm before c after, ¬ IsSmall d := by
  unfold lowerForm
  split
  · rcases lowerSigma_eq before after with sigma | sigma
    · exact ⟨'ς', by simp [sigma], by decide⟩
    · exact ⟨'σ', by simp [sigma], by decide⟩
  · unfold lowerChar
    split
    · exact ⟨'\u0307', by simp, by decide⟩
    · cases found : lowerSpans.find? (·.has c) with
      | none => exact ⟨c, List.mem_singleton_self c, fun small => beyond small.1⟩
      | some span =>
        refine ⟨span.move c, List.mem_singleton_self _, ?_⟩
        rintro ⟨ascii, _, ne⟩
        have has := List.find?_some found
        have mem := List.mem_of_find?_eq_some found
        obtain ⟨place, high⟩ := CaseSpan.toNat_move (lands_and_misses mem).1 has
        rcases mem_lowerSpans mem with rfl | ⟨_, rfl | outside⟩
        · have bounds := isUpper_iff.mp (has_capitalSpan.mp has)
          unfold IsAscii at beyond
          omega
        · -- the sign for kelvin is the one character of its span
          have land : kelvinSpan.landFirst = 'k'.toNat ∧ kelvinSpan.landLast = 'k'.toNat :=
            ⟨rfl, rfl⟩
          exact ne (Char.toNat_inj.mp (by omega))
        · unfold IsAscii at ascii
          omega

/-- A text that is lower-cased to small letters changes within ASCII only. -/
lemma lowerAfter_eq_map_toLower (small : ∀ d ∈ lowerAfter before s, IsSmall d) :
    lowerAfter before s = s.map Char.toLower := by
  induction s generalizing before with
  | nil => rfl
  | cons c s ih =>
    rw [lowerAfter_cons] at small
    obtain ⟨here, rest⟩ := List.forall_mem_append.mp small
    have ascii : IsAscii c := by
      apply Decidable.byContradiction
      intro beyond
      obtain ⟨d, mem, other⟩ := exists_mem_lowerForm beyond
      exact other (here d mem)
    rw [lowerAfter_cons, ascii.lowerForm_eq, ih rest]
    rfl

/-- A text without capital letters is folded to itself. -/
lemma foldAscii_eq_self {s : String} (plain : Uncapitalised s) : foldAscii s = s.toList := by
  refine (List.map_congr_left ?_).trans (List.map_id _)
  intro c mem
  exact Char.toLower_eq_of_not_isUpper (Bool.eq_false_iff.mp (plain c mem))

/-- To be spelled like a word without capitals is to fold to it and to have no capitals. -/
lemma eq_iff_sameFold {s w : String} (plain : Uncapitalised w) :
    s = w ↔ sameFold s w = true ∧ Uncapitalised s := by
  rw [sameFold_iff]
  refine ⟨?_, ?_⟩
  · rintro rfl
    exact ⟨rfl, plain⟩
  · intro h
    obtain ⟨same, plain'⟩ := h
    rw [foldAscii_eq_self plain', foldAscii_eq_self plain] at same
    exact String.toList_inj.mp same

/-- A text is lower-cased to a word of small letters when it differs from the word in case only. -/
lemma sameFold_small {w s : String} (small : ∀ c ∈ w.toList, IsSmall c) :
    sameFold w s = true ↔ lowercase s = w := by
  have plain : Uncapitalised w := by
    intro c mem
    obtain ⟨_, lower, _⟩ := small c mem
    exact lower
  have folded : foldAscii w = w.toList := foldAscii_eq_self plain
  have settled : lowercase w = w := by
    have unchanged : lowerAfter [] w.toList = w.toList :=
      lowerAfter_eq_self fun c mem =>
        (small c mem).1.settled (Bool.eq_false_iff.mp (plain c mem))
    rw [lowercase, unchanged, String.ofList_toList]
  rw [sameFold_iff]
  refine ⟨?_, ?_⟩
  · intro same
    rw [← lowercase_congr same, settled]
  · intro same
    have lowered : lowerAfter [] s.toList = w.toList := by rw [← toList_lowercase, same]
    rw [folded, ← lowered]
    exact lowerAfter_eq_map_toLower (lowered ▸ small)

end StyleTree.Text
