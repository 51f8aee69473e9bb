import Mathlib.Tactic.Lemma
import StyleTree.Text.Lowercase

/-!
# Lower-case texts

A character is settled when lower-casing leaves it as it is. All that lower-casing gives is settled
(`settled_of_mem_lowerAfter`), so a second time it changes nothing (`lowercase_lowercase`). That is
a fact about the table of case mappings, where a chain of two mappings would break it: no span of
the table may land on a character that lower-casing moves on. The table is checked for this span by
span and not character by character (`lowerSpans_land`).

The letters of ASCII follow upon the at sign, and the characters up to it mark a text whatever its
letters are. Such a character is settled (`BelowLetters.settled`) and comes from itself alone
(`BelowLetters.eq_of_mem_lowerForm`), so lower-casing neither makes nor removes one
(`mem_lowerAfter_iff`), also at the start of a text (`isPrefixOf_lowerAfter`).
-/

namespace StyleTree.Text

namespace CaseSpan

variable {span other : CaseSpan} {c : Char}

/-- Where the span moves its first character. -/
def landFirst (span : CaseSpan) : Nat :=
  (span.first + span.shift).toNat

/-- Where the span moves its last character. -/
def landLast (span : CaseSpan) : Nat :=
  (span.last + span.shift).toNat

/-- The span begins and lands behind the at sign, and it lands on characters. -/
def lands (span : CaseSpan) : Bool :=
  Nat.blt 0x40 span.first && Nat.blt 0x40 span.landFirst &&
    (Nat.blt span.landLast 0xD800 ||
      Nat.blt 0xDFFF span.landFirst && Nat.blt span.landLast 0x110000)

/--
The span lands before the other one or behind it, or on the characters between those that the other
one moves.
-/
def misses (span other : CaseSpan) : Bool :=
  Nat.blt span.landLast other.first || Nat.blt other.last span.landFirst ||
    Nat.beq other.stride 2 && (Nat.beq span.stride 2 || Nat.beq span.first span.last) &&
      Nat.beq ((span.landFirst + other.first) % 2) 1

/-- A span holds a character by its code point. -/
lemma has_iff :
    span.has c = true ↔
      span.first ≤ c.toNat ∧ c.toNat ≤ span.last ∧ (c.toNat - span.first) % span.stride = 0 := by
  simp [has, and_assoc]

/-- A span that lands well, by its bounds. -/
lemma lands_iff :
    span.lands = true ↔
      0x40 < span.first ∧ 0x40 < span.landFirst ∧
        (span.landLast < 0xD800 ∨ 0xDFFF < span.landFirst ∧ span.landLast < 0x110000) := by
  simp only [lands, Bool.and_eq_true, Bool.or_eq_true, Nat.blt_eq, and_assoc]

/-- A span that misses another one, by the bounds of both. -/
lemma misses_iff :
    span.misses other = true ↔
      span.landLast < other.first ∨ other.last < span.landFirst ∨
        other.stride = 2 ∧ (span.stride = 2 ∨ span.first = span.last) ∧
          (span.landFirst + other.first) % 2 = 1 := by
  simp only [misses, Bool.and_eq_true, Bool.or_eq_true, Nat.blt_eq, Nat.beq_eq, or_assoc, and_assoc]

/-- A character moves as far as the first one of its span does. -/
lemma toNat_move (lands : span.lands = true) (has : span.has c = true) :
    (span.move c).toNat = span.landFirst + (c.toNat - span.first) ∧
      (span.move c).toNat ≤ span.landLast := by
  obtain ⟨_, low, valid⟩ := lands_iff.mp lands
  obtain ⟨first, last, _⟩ := has_iff.mp has
  unfold landFirst landLast at *
  have char : (c.toNat + span.shift).toNat.isValidChar := by
    unfold Nat.isValidChar
    omega
  have place : (span.move c).toNat = (c.toNat + span.shift).toNat := by
    rw [move, Char.ofNat, dif_pos char]
    rfl
  omega

/-- A span that misses another one moves no character to where the other one moves it on. -/
lemma has_move (lands : span.lands = true) (misses : span.misses other = true)
    (has : span.has c = true) : other.has (span.move c) = false := by
  obtain ⟨place, high⟩ := toNat_move lands has
  obtain ⟨first, last, step⟩ := has_iff.mp has
  rw [Bool.eq_false_iff]
  intro moved
  obtain ⟨first', last', step'⟩ := has_iff.mp moved
  rcases misses_iff.mp misses with before | behind | ⟨stride', stride, parity⟩
  · omega
  · omega
  · -- the other span takes every second place, and this one lands on the places between
    have even : (c.toNat - span.first) % 2 = 0 := by
      rcases stride with stride | single
      · rw [stride] at step
        exact step
      · omega
    rw [stride'] at step'
    omega

end CaseSpan

/-- The span of the one character whose lower-case form is two characters. -/
def dottedSpan : CaseSpan :=
  ⟨0x0130, 0x0130, 1, 0⟩

/-- No span lands on a character that lower-casing moves on. -/
lemma lowerSpans_land :
    (lowerSpans.all fun span =>
      span.lands && (dottedSpan :: lowerSpans).all span.misses) = true := by
  decide +kernel

/-- Lower-casing leaves the character as it is. -/
def Settled (c : Char) : Prop :=
  ∀ span ∈ dottedSpan :: lowerSpans, span.has c = false

instance : DecidablePred Settled := fun c =>
  inferInstanceAs (Decidable (∀ span ∈ dottedSpan :: lowerSpans, span.has c = false))

/-- The character comes before the letters of ASCII, as signs and digits do. -/
def BelowLetters (c : Char) : Prop :=
  c.toNat ≤ 0x40

instance : DecidablePred BelowLetters := fun c =>
  inferInstanceAs (Decidable (c.toNat ≤ 0x40))

/-- What takes the place of a character between the texts around it. -/
def lowerForm (before : List Char) (c : Char) (after : List Char) : List Char :=
  if c = 'Σ' then [lowerSigma before after] else lowerChar c

variable {c d : Char} {before after s w : List Char} {span : CaseSpan}

/-- Every span of the table lands well, and misses every one of them. -/
lemma lands_and_misses (mem : span ∈ lowerSpans) :
    span.lands = true ∧ ∀ other ∈ dottedSpan :: lowerSpans, span.misses other = true := by
  have checked := List.all_eq_true.mp lowerSpans_land span mem
  obtain ⟨lands, misses⟩ := Bool.and_eq_true_iff.mp checked
  exact ⟨lands, List.all_eq_true.mp misses⟩

/-- The dotted capital is the one character in its span. -/
lemma has_dottedSpan : dottedSpan.has c = true ↔ c = 'İ' := by
  rw [CaseSpan.has_iff, ← Char.toNat_inj]
  simp only [dottedSpan, Nat.mod_one, and_true, show 'İ'.toNat = 0x0130 from rfl]
  omega

/-- A character is settled when no rule of the table is for it. -/
lemma settled_iff : Settled c ↔ c ≠ 'İ' ∧ lowerSpans.find? (·.has c) = none := by
  rw [Settled, List.forall_mem_cons, ← Bool.not_eq_true, has_dottedSpan, List.find?_eq_none]
  simp only [Bool.not_eq_true]

/-- Where a span of the table moves a character, it is settled. -/
lemma settled_move (mem : span ∈ lowerSpans) (has : span.has c = true) : Settled (span.move c) := by
  obtain ⟨lands, misses⟩ := lands_and_misses mem
  intro other mem'
  exact CaseSpan.has_move lands (misses other mem') has

/-- No span of the table moves a character in front of the letters of ASCII. -/
lemma not_belowLetters_move (mem : span ∈ lowerSpans) (has : span.has c = true) :
    ¬ BelowLetters (span.move c) := by
  obtain ⟨lands, _⟩ := lands_and_misses mem
  obtain ⟨_, low, _⟩ := CaseSpan.lands_iff.mp lands
  obtain ⟨place, _⟩ := CaseSpan.toNat_move lands has
  unfold BelowLetters
  omega

/-- The capital sigma is not settled. -/
lemma Settled.ne_sigma (settled : Settled c) : c ≠ 'Σ' := by
  rintro rfl
  revert settled
  decide +kernel

/-- A settled character is its own form, whatever is around it. -/
lemma Settled.lowerForm_eq (settled : Settled c) : lowerForm before c after = [c] := by
  obtain ⟨undotted, unmoved⟩ := settled_iff.mp settled
  rw [lowerForm, if_neg settled.ne_sigma, lowerChar, if_neg undotted, unmoved]

/-- The characters in front of the letters of ASCII are settled. -/
lemma BelowLetters.settled (low : BelowLetters c) : Settled c := by
  unfold BelowLetters at low
  intro span mem
  rw [Bool.eq_false_iff]
  intro has
  obtain ⟨first, _⟩ := CaseSpan.has_iff.mp has
  rcases List.mem_cons.mp mem with rfl | mem
  · have dotted : dottedSpan.first = 0x0130 := rfl
    omega
  · obtain ⟨above, _⟩ := CaseSpan.lands_iff.mp (lands_and_misses mem).1
    omega

/-- A text is lower-cased one character after the other. -/
lemma lowerAfter_cons :
    lowerAfter before (c :: after) = lowerForm before c after ++ lowerAfter (c :: before) after :=
  rfl

/-- The capital sigma has two lower-case forms. -/
lemma lowerSigma_eq (before after : List Char) :
    lowerSigma before after = 'ς' ∨ lowerSigma before after = 'σ' := by
  unfold lowerSigma
  split
  · exact .inl rfl
  · exact .inr rfl

/-- What takes the place of a character is special, or moved by a span, or the character itself. -/
lemma mem_lowerForm (mem : d ∈ lowerForm before c after) :
    d ∈ ['ς', 'σ', 'i', '\u0307'] ∨
      (∃ span ∈ lowerSpans, span.has c = true ∧ d = span.move c) ∨ d = c ∧ Settled c := by
  unfold lowerForm at mem
  split at mem
  · obtain rfl := List.mem_singleton.mp mem
    rcases lowerSigma_eq before after with sigma | sigma <;> simp [sigma]
  · unfold lowerChar at mem
    split at mem
    · exact .inl (List.mem_append_right ['ς', 'σ'] mem)
    · rename_i undotted
      cases found : lowerSpans.find? (·.has c) with
      | some span =>
        rw [found] at mem
        obtain rfl := List.mem_singleton.mp mem
        have has := List.find?_some found
        exact .inr (.inl ⟨span, List.mem_of_find?_eq_some found, has, rfl⟩)
      | none =>
        rw [found] at mem
        obtain rfl := List.mem_singleton.mp mem
        exact .inr (.inr ⟨rfl, settled_iff.mpr ⟨undotted, found⟩⟩)

/-- The form of a character is settled. -/
lemma settled_of_mem_lowerForm (mem : d ∈ lowerForm before c after) : Settled d := by
  rcases mem_lowerForm mem with special | ⟨span, moves, has, rfl⟩ | ⟨rfl, settled⟩
  · have all : ∀ e ∈ ['ς', 'σ', 'i', '\u0307'], Settled e := by
      simp only [List.forall_mem_cons, List.not_mem_nil, false_imp_iff, implies_true, and_true]
      decide +kernel
    exact all d special
  · exact settled_move moves has
  · exact settled

/-- A character below the letters comes from itself alone. -/
lemma BelowLetters.eq_of_mem_lowerForm (low : BelowLetters d)
    (mem : d ∈ lowerForm before c after) : d = c := by
  rcases mem_lowerForm mem with special | ⟨span, moves, has, rfl⟩ | ⟨same, _⟩
  · have none_low : ∀ e ∈ ['ς', 'σ', 'i', '\u0307'], ¬ BelowLetters e := by
      simp [BelowLetters]
    exact absurd low (none_low d special)
  · exact absurd low (not_belowLetters_move moves has)
  · exact same

/-- Every character has a form of at least one character. -/
lemma lowerForm_ne_nil (before : List Char) (c : Char) (after : List Char) :
    lowerForm before c after ≠ [] := by
  unfold lowerForm lowerChar
  split
  · simp
  · split
    · simp
    · split <;> simp

/-- Lower-casing leaves a text as it is when all its characters are settled. -/
lemma lowerAfter_eq_self (settled : ∀ c ∈ s, Settled c) : lowerAfter before s = s := by
  induction s generalizing before with
  | nil => rfl
  | cons c s ih =>
    obtain ⟨first, rest⟩ := List.forall_mem_cons.mp settled
    rw [lowerAfter_cons, first.lowerForm_eq, ih rest]
    rfl

/-- All characters of a lower-cased text are settled. -/
lemma settled_of_mem_lowerAfter (mem : d ∈ lowerAfter before s) : Settled d := by
  induction s generalizing before with
  | nil => cases mem
  | cons c s ih =>
    rw [lowerAfter_cons] at mem
    rcases List.mem_append.mp mem with first | rest
    · exact settled_of_mem_lowerForm first
    · exact ih rest

/-- Lower-casing keeps the characters below the letters, and makes none. -/
lemma mem_lowerAfter_iff (low : BelowLetters d) : d ∈ lowerAfter before s ↔ d ∈ s := by
  induction s generalizing before with
  | nil => rfl
  | cons c s ih =>
    rw [lowerAfter_cons, List.mem_append, ih, List.mem_cons]
    refine or_congr_left ⟨low.eq_of_mem_lowerForm, ?_⟩
    rintro rfl
    rw [low.settled.lowerForm_eq]
    exact List.mem_singleton_self d

/-- Lower-casing neither makes nor removes signs at the start of a text. -/
lemma isPrefixOf_lowerAfter (low : ∀ d ∈ w, BelowLetters d) :
    w.isPrefixOf (lowerAfter before s) = w.isPrefixOf s := by
  induction w generalizing before s with
  | nil => simp
  | cons d w ih =>
    obtain ⟨first, rest⟩ := List.forall_mem_cons.mp low
    cases s with
    | nil => rfl
    | cons c s =>
      rw [lowerAfter_cons]
      by_cases same : d = c
      · subst same
        rw [first.settled.lowerForm_eq, List.singleton_append, List.isPrefixOf_cons_cons,
          List.isPrefixOf_cons_cons, ih rest]
      · -- the form begins with a character other than `d`, because `d` comes from itself alone
        obtain ⟨e, form, split⟩ := List.exists_cons_of_ne_nil (lowerForm_ne_nil before c s)
        have other : d ≠ e := by
          rintro rfl
          exact same (first.eq_of_mem_lowerForm (split ▸ List.mem_cons_self))
        rw [split, List.cons_append, List.isPrefixOf_cons_cons, List.isPrefixOf_cons_cons,
          beq_false_of_ne other, beq_false_of_ne same]
        rfl

/-- A text is lower-cased with nothing before it. -/
lemma toList_lowercase (s : String) : (lowercase s).toList = lowerAfter [] s.toList :=
  String.toList_ofList

/-- Lower-casing twice is lower-casing once. -/
lemma lowercase_lowercase (s : String) : lowercase (lowercase s) = lowercase s := by
  have again : lowerAfter [] (lowercase s).toList = (lowercase s).toList := by
    rw [toList_lowercase]
    exact lowerAfter_eq_self fun c mem => settled_of_mem_lowerAfter mem
  rw [lowercase, again, String.ofList_toList]

end StyleTree.Text
