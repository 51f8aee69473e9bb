import Mathlib.Tactic.Lemma
import StyleTree.Dialect

/-!
# Choosing a dialect by the text

A text looks like SCSS exactly when one of the shapes of SCSS stands somewhere in it. The recogniser
of each shape says what the text begins with (`opensProperty_iff`, `opensInterpolation_iff`,
`opensImport_iff`), where every run of characters may end at any place that lets the rest succeed.
Together they accept the texts that begin with a shape (`opens_iff`), and the search over all tails
turns the beginning into any place.
-/

namespace StyleTree.Dialect

open Text Recogniser

variable {s : List Char}

/-- The characters of words are found. -/
lemma isWordChar_iff {c : Char} : isWordChar c = true ↔ WordChar c := by
  delta isWordChar Char.isAlphanum Char.isAlpha Char.isUpper Char.isLower Char.isDigit
  simp [WordChar, Char.le_def, or_assoc]

/-- The characters between a property and its block are found. -/
lemma staysInProperty_iff {c : Char} : staysInProperty c = true ↔ c ≠ '}' ∧ c ≠ ':' := by
  simp [staysInProperty]

/-- A property is found when the text begins with one. -/
lemma opensProperty_iff :
    opensProperty s = true ↔
      ∃ c blanks value rest, s = c :: blanks ++ [':', ' '] ++ value ++ ['{'] ++ rest ∧
        WordChar c ∧ (∀ b ∈ blanks, isBlank b = true) ∧ value ≠ [] ∧
        ∀ b ∈ value, b ≠ '}' ∧ b ≠ ':' := by
  cases s with
  | nil => simp [opensProperty]
  | cons c s =>
    simp only [opensProperty, Bool.and_eq_true, isWordChar_iff, zeroOrMore_iff, word_iff,
      oneOrMore_iff, staysInProperty_iff]
    refine ⟨?_, ?_⟩
    · intro h
      obtain ⟨word, blanks, _, rfl, blank, _, rfl, value, _, rfl, some_value, stays, rest, rfl,
        _⟩ := h
      exact ⟨c, blanks, value, rest, by simp, word, blank, some_value, stays⟩
    · intro h
      obtain ⟨d, blanks, value, rest, split, word, blank, some_value, stays⟩ := h
      obtain ⟨rfl, rfl⟩ : c = d ∧ s = blanks ++ ([':', ' '] ++ (value ++ (['{'] ++ rest))) := by
        simpa using split
      exact ⟨word, blanks, _, rfl, blank, _, rfl, value, _, rfl, some_value, stays, rest, rfl,
        trivial⟩

/-- An interpolation is found when the text begins with one. -/
lemma opensInterpolation_iff : opensInterpolation s = true ↔ ∃ rest, s = ['#', '{'] ++ rest := by
  simp [opensInterpolation, word_iff]

/-- A target is found when the text begins with a call of `url` or with a comma. -/
lemma opensTarget_iff :
    opensTarget s = true ↔
      ∃ target rest, s = target ++ rest ∧ (target = ['u', 'r', 'l'] ∨ target = [',']) := by
  simp only [opensTarget, Bool.or_eq_true, word_iff]
  refine ⟨?_, ?_⟩
  · intro h
    rcases h with ⟨rest, split, _⟩ | ⟨rest, split, _⟩
    · exact ⟨_, rest, split, .inl rfl⟩
    · exact ⟨_, rest, split, .inr rfl⟩
  · intro h
    obtain ⟨_, rest, split, rfl | rfl⟩ := h
    · exact .inl ⟨rest, split, trivial⟩
    · exact .inr ⟨rest, split, trivial⟩

/-- An import is found when the text begins with one. -/
lemma opensImport_iff :
    opensImport s = true ↔
      ∃ path target rest, s = ['@', 'i', 'm', 'p', 'o', 'r', 't'] ++ path ++ target ++ rest ∧
        path ≠ [] ∧ (∀ b ∈ path, b ≠ '\n') ∧ (target = ['u', 'r', 'l'] ∨ target = [',']) := by
  simp only [opensImport, word_iff, oneOrMore_iff, opensTarget_iff, bne_iff_ne]
  refine ⟨?_, ?_⟩
  · intro h
    obtain ⟨_, rfl, path, _, rfl, some_path, line, target, rest, rfl, targets⟩ := h
    exact ⟨path, target, rest, by simp, some_path, line, targets⟩
  · intro h
    obtain ⟨path, target, rest, rfl, some_path, line, targets⟩ := h
    exact ⟨_, by simp, path, target ++ rest, rfl, some_path, line, target, rest, rfl, targets⟩

/-- The three recognisers accept the texts that begin with a shape. -/
lemma opens_iff :
    (opensProperty s || opensInterpolation s || opensImport s) = true ↔
      ∃ v, v <+: s ∧ ScssShape v := by
  simp only [Bool.or_eq_true, opensProperty_iff, opensInterpolation_iff, opensImport_iff]
  refine ⟨?_, ?_⟩
  · intro h
    rcases h with (⟨c, blanks, value, rest, rfl, word, blank, some_value, stays⟩ | ⟨rest, rfl⟩) |
      ⟨path, target, rest, rfl, some_path, line, targets⟩
    · exact ⟨_, List.prefix_append _ rest, .property word blank some_value stays⟩
    · exact ⟨_, List.prefix_append _ rest, .interpolation⟩
    · exact ⟨_, List.prefix_append _ rest, .importing some_path line targets⟩
  · intro h
    obtain ⟨v, ⟨rest, rfl⟩, shape⟩ := h
    cases shape with
    | property word blank some_value stays =>
      exact .inl (.inl ⟨_, _, _, rest, rfl, word, blank, some_value, stays⟩)
    | interpolation => exact .inl (.inr ⟨rest, rfl⟩)
    | importing some_path line targets =>
      exact .inr ⟨_, _, rest, rfl, some_path, line, targets⟩

/-- A text looks like SCSS exactly when a shape of SCSS stands somewhere in it. -/
lemma looksLikeScss_iff : looksLikeScss s = true ↔ ∃ v, v <:+: s ∧ ScssShape v := by
  simp only [looksLikeScss, anywhere_iff, opens_iff]
  refine ⟨?_, ?_⟩
  · intro h
    obtain ⟨before, tail, rfl, v, begins, shape⟩ := h
    exact ⟨v, begins.isInfix.trans (List.suffix_append before tail).isInfix, shape⟩
  · intro h
    obtain ⟨v, inside, shape⟩ := h
    obtain ⟨tail, begins, before, rfl⟩ := List.infix_iff_prefix_suffix.mp inside
    exact ⟨before, tail, rfl, v, begins, shape⟩

/--
Without a hint, or with one at CSS, a text is SCSS exactly when a shape of SCSS stands somewhere in
it. The dialect chosen is SCSS when the text is, Less when that is the hint, and CSS in all other
cases.
-/
theorem isScss_iff_shape (text : String) :
    (isScss none text = true ↔ ∃ v, v <:+: text.toList ∧ ScssShape v) ∧
      (isScss (some .css) text = true ↔ ∃ v, v <:+: text.toList ∧ ScssShape v) ∧
      ∀ hint,
        (resolve hint text = .scss ↔ isScss hint text = true) ∧
        (resolve hint text = .less ↔ hint = some .less) ∧
        (resolve hint text = .css ↔ isScss hint text = false ∧ hint ≠ some .less) := by
  refine ⟨looksLikeScss_iff, looksLikeScss_iff, ?_⟩
  intro hint
  cases hint with
  | none => cases found : isScss none text <;> simp [resolve, found]
  | some d =>
    cases d with
    | css => cases found : isScss (some .css) text <;> simp [resolve, found]
    | scss => simp [resolve, isScss]
    | less => simp [resolve, isScss]

end StyleTree.Dialect
