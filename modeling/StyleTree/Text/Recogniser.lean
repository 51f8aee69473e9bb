/-!
# Recognisers

A recogniser says whether a text, read from its first character, has a given shape. Each takes the
recogniser of what must follow, so that shapes are chained. `oneOrMore_iff`, `zeroOrMore_iff` and
`anywhere_iff` say which texts each accepts.
-/

namespace StyleTree.Text

/-- A test of a text from its first character on. -/
abbrev Recogniser := List Char → Bool

namespace Recogniser

/-- One or more characters of a class, then the rest. -/
def oneOrMore (allowed : Char → Bool) (rest : Recogniser) : Recogniser
  | [] => false
  | c :: s => allowed c && (rest s || oneOrMore allowed rest s)

/-- Any number of characters of a class, then the rest. -/
def zeroOrMore (allowed : Char → Bool) (rest : Recogniser) : Recogniser :=
  fun s => rest s || oneOrMore allowed rest s

/-- A fixed word, then the rest. -/
def word : List Char → Recogniser → Recogniser
  | [], rest => rest
  | w :: ws, rest => fun s =>
    match s with
    | c :: s => c == w && word ws rest s
    | [] => false

/-- The text, or one of its tails, has the shape. -/
def anywhere (shape : Recogniser) : Recogniser
  | [] => shape []
  | c :: s => shape (c :: s) || anywhere shape s

/-- The texts of at least one allowed character, and then the rest. -/
theorem oneOrMore_iff {allowed : Char → Bool} {rest : Recogniser} {s : List Char} :
    oneOrMore allowed rest s = true ↔
      ∃ u v, s = u ++ v ∧ u ≠ [] ∧ (∀ c ∈ u, allowed c = true) ∧ rest v = true := by
  induction s with
  | nil =>
    simp only [oneOrMore, Bool.false_eq_true, false_iff, not_exists, not_and]
    intro u v split nonempty
    simp_all
  | cons c s ih =>
    simp only [oneOrMore, Bool.and_eq_true, Bool.or_eq_true, ih]
    constructor
    · rintro ⟨head, tail | ⟨u, v, rfl, _, run, tail⟩⟩
      · exact ⟨[c], s, rfl, by simp, by simpa using head, tail⟩
      · exact ⟨c :: u, v, rfl, by simp, by simpa using ⟨head, run⟩, tail⟩
    · rintro ⟨u, v, split, nonempty, run, tail⟩
      cases u with
      | nil => exact absurd rfl nonempty
      | cons d u =>
        obtain ⟨rfl, rfl⟩ := List.cons_eq_cons.mp split
        refine ⟨run c (by simp), ?_⟩
        cases u with
        | nil => exact Or.inl tail
        | cons d u =>
          exact Or.inr ⟨d :: u, v, rfl, by simp, fun x hx => run x (by simp [hx]), tail⟩

/-- The texts of allowed characters, and then the rest. -/
theorem zeroOrMore_iff {allowed : Char → Bool} {rest : Recogniser} {s : List Char} :
    zeroOrMore allowed rest s = true ↔
      ∃ u v, s = u ++ v ∧ (∀ c ∈ u, allowed c = true) ∧ rest v = true := by
  simp only [zeroOrMore, Bool.or_eq_true, oneOrMore_iff]
  constructor
  · rintro (tail | ⟨u, v, split, _, run, tail⟩)
    · exact ⟨[], s, rfl, by simp, tail⟩
    · exact ⟨u, v, split, run, tail⟩
  · rintro ⟨u, v, split, run, tail⟩
    cases u with
    | nil => exact Or.inl (split ▸ tail)
    | cons d u => exact Or.inr ⟨d :: u, v, split, by simp, run, tail⟩

/-- The texts of the word, and then the rest. -/
theorem word_iff {w : List Char} {rest : Recogniser} {s : List Char} :
    word w rest s = true ↔ ∃ v, s = w ++ v ∧ rest v = true := by
  induction w generalizing s with
  | nil => simp [word]
  | cons c w ih =>
    cases s with
    | nil => simp [word]
    | cons d s =>
      simp only [word, Bool.and_eq_true, beq_iff_eq, ih, List.cons_append, List.cons.injEq]
      constructor
      · rintro ⟨rfl, v, rfl, tail⟩
        exact ⟨v, ⟨rfl, rfl⟩, tail⟩
      · rintro ⟨v, ⟨rfl, rfl⟩, tail⟩
        exact ⟨rfl, v, rfl, tail⟩

/-- The texts that have the shape from some place on. -/
theorem anywhere_iff {shape : Recogniser} {s : List Char} :
    anywhere shape s = true ↔ ∃ u v, s = u ++ v ∧ shape v = true := by
  induction s with
  | nil =>
    simp only [anywhere]
    constructor
    · intro h
      exact ⟨[], [], rfl, h⟩
    · rintro ⟨u, v, split, h⟩
      obtain ⟨rfl, rfl⟩ := List.append_eq_nil_iff.mp split.symm
      exact h
  | cons c s ih =>
    simp only [anywhere, Bool.or_eq_true, ih]
    constructor
    · rintro (h | ⟨u, v, rfl, h⟩)
      · exact ⟨[], c :: s, rfl, h⟩
      · exact ⟨c :: u, v, rfl, h⟩
    · rintro ⟨u, v, split, h⟩
      cases u with
      | nil => exact Or.inl (split ▸ h)
      | cons d u =>
        obtain ⟨rfl, rfl⟩ := List.cons_eq_cons.mp split
        exact Or.inr ⟨u, v, rfl, h⟩

end Recogniser

end StyleTree.Text
