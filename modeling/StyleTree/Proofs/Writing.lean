import Mathlib.Tactic.IntervalCases
import Mathlib.Tactic.Lemma
import StyleTree.Json.Writer

/-!
# Written values are read back

A reader that stands before a value takes what is written for the value, and after that it has
delivered the value (`reads_written`). This goes by the value: a word, a numeral or a quoted text is
taken character by character, and a container is opened, filled with one part after the other, and
closed. So every value that is not too deep has a text, and the text holds that value and nothing
else (`parse_write`).
-/

namespace StyleTree.Json

namespace Advances

variable {σ α : Type} {step : σ → Char → Advance σ α} {state state' state'' : σ}
  {cs ds : List Char}

/-- Characters are taken one row after the other. -/
lemma append (first : Advances step state cs state') (second : Advances step state' ds state'') :
    Advances step state (cs ++ ds) state'' := by
  induction first with
  | none => exact second
  | next more _ ih => exact .next more (ih second)

/-- One character is taken. -/
lemma single {c : Char} (more : step state c = .more state') : Advances step state [c] state' :=
  .next more (.none state')

end Advances

namespace Reader

variable {r r' r'' : Reader} {cs ds : List Char} {frames : List Frame}

/-- Characters are taken one row after the other. -/
lemma Reads.append (first : r.Reads cs r') (second : r'.Reads ds r'') :
    r.Reads (cs ++ ds) r'' := by
  rw [Reads, List.foldlM_append, first]
  exact second

/-- One character is taken. -/
lemma reads_single {c : Char} (taken : r.step c = .ok r') : r.Reads [c] r' := by
  rw [Reads, List.foldlM_cons, taken]
  rfl

/-- What a part of the reader takes is taken by the reader, as long as the part asks for more. -/
lemma reads_of_advances {σ α : Type} {next : σ → Char → Advance σ α} {place : σ → Place}
    {state state' : σ}
    (stays : ∀ {state state' c}, next state c = .more state' →
      step ⟨frames, place state⟩ c = .ok ⟨frames, place state'⟩)
    (h : Advances next state cs state') :
    Reads ⟨frames, place state⟩ cs ⟨frames, place state'⟩ := by
  induction h with
  | none => rfl
  | next more _ ih => exact (reads_single (stays more)).append ih

/-- A value in quotes is taken as its part of the reader takes it. -/
lemma reads_string {q q' : QuotedReader} (h : Advances QuotedReader.step q cs q') :
    Reads ⟨frames, .string q⟩ cs ⟨frames, .string q'⟩ := by
  apply reads_of_advances ?_ h
  intro _ _ _ more
  simp only [step, more]

/-- A key is taken as its part of the reader takes it. -/
lemma reads_key {q q' : QuotedReader} {members : List (String × Json)}
    (h : Advances QuotedReader.step q cs q') :
    Reads ⟨frames, .key members q⟩ cs ⟨frames, .key members q'⟩ := by
  apply reads_of_advances ?_ h
  intro _ _ _ more
  simp only [step, more]

/-- A numeral is taken as its part of the reader takes it. -/
lemma reads_numeral {n n' : NumeralReader} (h : Advances NumeralReader.step n cs n') :
    Reads ⟨frames, .numeral n⟩ cs ⟨frames, .numeral n'⟩ := by
  apply reads_of_advances ?_ h
  intro _ _ _ more
  simp only [step, more]

end Reader

/-- Every decimal digit is read as itself. -/
lemma digit?_digitChar {d : Nat} (lt : d < 10) : digit? d.digitChar = some d := by
  interval_cases d <;> rfl

/-- Every hexadecimal digit is read as itself, and is one byte. -/
lemma hexDigit?_digitChar {d : Nat} (lt : d < 16) :
    hexDigit? d.digitChar = some d ∧ d.digitChar.utf8Size = 1 := by
  interval_cases d <;> exact ⟨rfl, rfl⟩

namespace QuotedReader

variable {text : List Char}

/-- The number of a control, two digits after two zeros, is read as this control. -/
lemma advances_control {c : Char} (control : c.toNat < 0x20) :
    Advances step (.plain text)
      ['\\', 'u', '0', '0', Nat.digitChar (c.toNat / 16), Nat.digitChar (c.toNat % 16)]
      (.plain (c :: text)) := by
  obtain ⟨high, high_size⟩ := hexDigit?_digitChar (d := c.toNat / 16) (by omega)
  obtain ⟨low, low_size⟩ := hexDigit?_digitChar (d := c.toNat % 16) (by omega)
  have third : step (.number text none 2 (some 0)) (c.toNat / 16).digitChar =
      .more (.number text none 3 (some (c.toNat / 16))) := by
    simp [step, high, high_size]
  have fourth : step (.number text none 3 (some (c.toNat / 16))) (c.toNat % 16).digitChar =
      .more (.plain (c :: text)) := by
    have unit : 16 * (c.toNat / 16) + c.toNat % 16 = c.toNat := Nat.div_add_mod _ _
    -- a control is no half of a pair
    have trail : isTrail c.toNat = false := by
      simp only [isTrail, Bool.and_eq_false_imp, decide_eq_true_eq]
      omega
    have lead : isLead c.toNat = false := by
      simp only [isLead, Bool.and_eq_false_imp, decide_eq_true_eq]
      omega
    simp [step, low, low_size, unit, takeUnit, trail, lead, Char.ofNat_toNat]
  exact .next rfl (.next rfl (.next rfl (.next rfl (.next third (.single fourth)))))

/-- What is written for a character is read as this character. -/
lemma advances_writtenChar (c : Char) :
    Advances step (.plain text) (writtenChar c) (.plain (c :: text)) := by
  by_cases quote : c = '"'
  · rw [quote]
    exact .next rfl (.single rfl)
  by_cases solidus : c = '\\'
  · rw [solidus]
    exact .next rfl (.single rfl)
  by_cases control : c.toNat < 0x20
  · rw [writtenChar, if_neg quote, if_neg solidus, if_pos control]
    exact advances_control control
  · rw [writtenChar, if_neg quote, if_neg solidus, if_neg control]
    refine .single ?_
    rw [step, if_neg quote, if_neg solidus, if_neg control]

/-- What is written for the inside of a text is read as this text. -/
lemma advances_flatMap (s : List Char) :
    Advances step (.plain text) (s.flatMap writtenChar) (.plain (s.reverse ++ text)) := by
  induction s generalizing text with
  | nil => exact .none _
  | cons c s ih =>
    rw [List.flatMap_cons, List.reverse_cons, List.append_assoc]
    exact (advances_writtenChar c).append ih

end QuotedReader

namespace NumeralReader

/-- A row of digits goes to the end of the digits that a part of the numeral has. -/
lemma advances_row {part : NumeralPart} {row : List Nat → Numeral}
    (stays : ∀ ds, ∀ d < 10, step ⟨part, row ds⟩ d.digitChar = .more ⟨part, row (ds ++ [d])⟩)
    (ds : List Nat) {es : List Nat} (digits : ∀ d ∈ es, d < 10) :
    Advances step ⟨part, row ds⟩ (es.map Nat.digitChar) ⟨part, row (ds ++ es)⟩ := by
  induction es generalizing ds with
  | nil =>
    rw [List.append_nil]
    exact .none _
  | cons e es ih =>
    obtain ⟨digit, digits⟩ := List.forall_mem_cons.mp digits
    have rest := ih (ds ++ [e]) digits
    rw [List.append_assoc] at rest
    exact .next (stays ds e digit) rest

/-- A row of digits begins a part of the numeral when there is at least one. -/
lemma advances_part {before part : NumeralPart} {row : List Nat → Numeral}
    (begins : ∀ d < 10, step ⟨before, row []⟩ d.digitChar = .more ⟨part, row [d]⟩)
    (stays : ∀ ds, ∀ d < 10, step ⟨part, row ds⟩ d.digitChar = .more ⟨part, row (ds ++ [d])⟩)
    {ds : List Nat} (some_digit : ds ≠ []) (digits : ∀ d ∈ ds, d < 10) :
    Advances step ⟨before, row []⟩ (ds.map Nat.digitChar) ⟨part, row ds⟩ := by
  obtain ⟨d, ds, rfl⟩ := List.exists_cons_of_ne_nil some_digit
  obtain ⟨digit, digits⟩ := List.forall_mem_cons.mp digits
  exact .next (begins d digit) (advances_row stays [d] digits)

/-- The digits of the whole part after the first are taken as such. -/
lemma advances_whole {n : Numeral} {ds : List Nat} (digits : ∀ d ∈ ds, d < 10) :
    Advances step ⟨.whole, n⟩ (ds.map Nat.digitChar)
      ⟨.whole, { n with whole := n.whole ++ ds }⟩ := by
  refine @advances_row .whole (fun ds => { n with whole := ds }) ?_ n.whole ds digits
  intro ds d lt
  simp only [step, digit?_digitChar lt, takeWhole]

/-- A point and the digits after it are taken as the fraction. -/
lemma advances_fraction {n : Numeral} {r : NumeralReader}
    (place : r.part = .zero ∨ r.part = .whole) (empty : r.numeral.fraction = [])
    (digits : ∀ d ∈ n.fraction, d < 10) :
    ∃ r', Advances step r n.writtenFraction r' ∧
      (r'.part = .zero ∨ r'.part = .whole ∨ r'.part = .fraction) ∧
      r'.numeral = { r.numeral with fraction := n.fraction } := by
  obtain ⟨part, m⟩ := r
  let row (ds : List Nat) : Numeral := { m with fraction := ds }
  have start : m = row [] := by
    simp only [row, ← empty]
  unfold Numeral.writtenFraction
  by_cases no_digit : n.fraction = []
  · rw [no_digit]
    exact ⟨⟨part, m⟩, .none _, place.imp_right .inl, start⟩
  · rw [if_neg (no_digit ∘ List.isEmpty_iff.mp)]
    have point : step ⟨part, m⟩ '.' = .more ⟨.point, row []⟩ := by
      rw [← start]
      rcases place with rfl | rfl <;> rfl
    have digits : Advances step ⟨.point, row []⟩ (n.fraction.map Nat.digitChar)
        ⟨.fraction, row n.fraction⟩ := by
      refine advances_part ?_ ?_ no_digit digits
      · intro d lt
        simp only [step, digit?_digitChar lt, takeFraction, row, List.nil_append]
      · intro ds d lt
        simp only [step, digit?_digitChar lt, takeFraction, row]
    exact ⟨_, .next point digits, .inr (.inr rfl), rfl⟩

/-- A minus sign may come after the mark of an exponent. -/
lemma exists_advances_sign {m : Numeral} (unsigned : m.exponentNegative = false)
    (negative : Bool) :
    ∃ part, (part = .mark ∨ part = .markSign) ∧
      Advances step ⟨.mark, m⟩ (if negative then ['-'] else [])
        ⟨part, { m with exponentNegative := negative }⟩ := by
  cases negative with
  | false =>
    have same : { m with exponentNegative := false } = m := by
      rw [← unsigned]
    rw [same]
    exact ⟨.mark, .inl rfl, .none _⟩
  | true => exact ⟨.markSign, .inr rfl, .single rfl⟩

/-- A mark, a sign if there is one and the digits after it are taken as the exponent. -/
lemma advances_exponent {n : Numeral} {r : NumeralReader}
    (place : r.part = .zero ∨ r.part = .whole ∨ r.part = .fraction)
    (empty : r.numeral.exponent = []) (unsigned : r.numeral.exponentNegative = false)
    (sign : n.exponent = [] → n.exponentNegative = false)
    (digits : ∀ d ∈ n.exponent, d < 10) :
    ∃ r', Advances step r n.writtenExponent r' ∧ r'.canEnd = true ∧
      r'.numeral =
        { r.numeral with exponentNegative := n.exponentNegative, exponent := n.exponent } := by
  obtain ⟨part, m⟩ := r
  unfold Numeral.writtenExponent
  by_cases no_digit : n.exponent = []
  · rw [no_digit, sign no_digit]
    refine ⟨⟨part, m⟩, .none _, ?_, ?_⟩
    · rcases place with rfl | rfl | rfl <;> rfl
    · rw [← empty, ← unsigned]
  · rw [if_neg (no_digit ∘ List.isEmpty_iff.mp)]
    have mark : step ⟨part, m⟩ 'e' = .more ⟨.mark, m⟩ := by
      rcases place with rfl | rfl | rfl <;> rfl
    obtain ⟨part', after_mark, signed⟩ := exists_advances_sign unsigned n.exponentNegative
    let row (ds : List Nat) : Numeral :=
      { m with exponentNegative := n.exponentNegative, exponent := ds }
    have start : { m with exponentNegative := n.exponentNegative } = row [] := by
      simp only [row, ← empty]
    rw [start] at signed
    have digits : Advances step ⟨part', row []⟩ (n.exponent.map Nat.digitChar)
        ⟨.exponent, row n.exponent⟩ := by
      refine advances_part ?_ ?_ no_digit digits
      · intro d lt
        rcases after_mark with rfl | rfl <;>
          simp only [step, digit?_digitChar lt, takeExponent, row, List.nil_append]
      · intro ds d lt
        simp only [step, digit?_digitChar lt, takeExponent, row]
    exact ⟨_, ((Advances.single mark).append signed).append digits, rfl, rfl⟩

/-- A numeral is taken to its last digit, and its reader knows that it may end there. -/
lemma advances_numeral {n : Numeral} (h : n.Readable) :
    ∃ d ds, n.whole = d :: ds ∧ d < 10 ∧ ∃ r,
      Advances step ((start n.negative).takeFirst d)
        (ds.map Nat.digitChar ++ n.writtenFraction ++ n.writtenExponent) r ∧
      r.canEnd = true ∧ r.numeral = n := by
  obtain ⟨whole, digits, sign, _⟩ := h
  simp only [List.forall_mem_append] at digits
  obtain ⟨⟨whole_digits, fraction_digits⟩, exponent_digits⟩ := digits
  have begins : ∃ d ds, n.whole = d :: ds ∧ (d = 0 → ds = []) := by
    rcases whole with zero | ⟨d, head, ne⟩
    · exact ⟨0, [], zero, fun _ => rfl⟩
    · obtain ⟨ds, split⟩ := List.head?_eq_some_iff.mp head
      exact ⟨d, ds, split, fun zero => absurd zero ne⟩
  obtain ⟨d, ds, split, zero⟩ := begins
  rw [split] at whole_digits
  obtain ⟨digit, whole_digits⟩ := List.forall_mem_cons.mp whole_digits
  have row : ∃ r, Advances step ((start n.negative).takeFirst d) (ds.map Nat.digitChar) r ∧
      (r.part = .zero ∨ r.part = .whole) ∧ r.numeral = ⟨n.negative, n.whole, [], false, []⟩ := by
    rw [split]
    by_cases is_zero : d = 0
    · rw [zero is_zero, is_zero]
      exact ⟨_, .none _, .inl rfl, rfl⟩
    · rw [takeFirst, if_neg is_zero]
      exact ⟨_, advances_whole whole_digits, .inr rfl, rfl⟩
  obtain ⟨r, taken, place, numeral⟩ := row
  obtain ⟨r', taken', place', numeral'⟩ :=
    advances_fraction place (by rw [numeral]) fraction_digits
  obtain ⟨r'', taken'', ends, numeral''⟩ :=
    advances_exponent place' (by rw [numeral', numeral]) (by rw [numeral', numeral]) sign
      exponent_digits
  refine ⟨d, ds, split, digit, r'', (taken.append taken').append taken'', ends, ?_⟩
  rw [numeral'', numeral', numeral]

/-- A space ends a numeral that may end. -/
lemma step_space {r : NumeralReader} (ends : r.canEnd = true) : r.step ' ' = .done r.numeral := by
  obtain ⟨part, n⟩ := r
  cases part with
  | zero | whole | fraction | exponent => rfl
  | sign | point | mark | markSign => cases ends

end NumeralReader

namespace Reader

variable {r' : Reader} {cs : List Char} {frames : List Frame} {room : Nat}

/-- A numeral is taken as a value. -/
lemma reads_number {n : Numeral} (h : n.Readable) :
    Reads ⟨frames, .gap .value⟩ (n.written ++ [' ']) (between (deliver frames (.number n))) := by
  obtain ⟨d, ds, split, digit, r, taken, ends, rfl⟩ := NumeralReader.advances_numeral h
  have first : Reads ⟨frames, .gap .value⟩
      ((if r.numeral.negative then ['-'] else []) ++ [d.digitChar])
      ⟨frames, .numeral ((NumeralReader.start r.numeral.negative).takeFirst d)⟩ := by
    cases r.numeral.negative with
    | false =>
      refine reads_single ?_
      interval_cases d <;> rfl
    | true =>
      have sign : Reads ⟨frames, .gap .value⟩ ['-'] ⟨frames, .numeral (.start true)⟩ := rfl
      refine sign.append (reads_numeral (.single ?_))
      simp only [NumeralReader.step, NumeralReader.start, digit?_digitChar digit]
  have last : step ⟨frames, .numeral r⟩ ' ' =
      .ok (between (deliver frames (.number r.numeral))) := by
    simp only [step, NumeralReader.step_space ends, deliverNumeral, if_pos h.2.2.2]
    rfl
  have whole := (first.append (reads_numeral taken)).append (reads_single last)
  simpa [Numeral.written, split] using whole

/-- A text is taken as a value. -/
lemma reads_text (s : String) :
    Reads ⟨frames, .gap .value⟩ (writtenText s) (between (deliver frames (.string s))) := by
  have opened : Reads ⟨frames, .gap .value⟩ ['"'] ⟨frames, .string .start⟩ := rfl
  have inside : Reads ⟨frames, .string .start⟩ (s.toList.flatMap writtenChar)
      ⟨frames, .string (.plain (s.toList.reverse ++ []))⟩ :=
    reads_string (QuotedReader.advances_flatMap s.toList)
  refine (opened.append inside).append (reads_single ?_)
  simp [step, QuotedReader.step]

/-- A text and a colon are taken as a key, wherever a quote opens one. -/
lemma reads_member {gap : Gap} {members : List (String × Json)} (key : String)
    (opens : Reads ⟨frames, .gap gap⟩ ['"'] ⟨frames, .key members .start⟩) :
    Reads ⟨frames, .gap gap⟩ (writtenText key ++ [':'])
      ⟨.object members key :: frames, .gap .value⟩ := by
  have inside : Reads ⟨frames, .key members .start⟩ (key.toList.flatMap writtenChar)
      ⟨frames, .key members (.plain (key.toList.reverse ++ []))⟩ :=
    reads_key (QuotedReader.advances_flatMap key.toList)
  have closed : Reads ⟨frames, .key members (.plain (key.toList.reverse ++ []))⟩ ['"']
      ⟨frames, .gap (.colon members key)⟩ := by
    refine reads_single ?_
    simp [step, QuotedReader.step]
  exact ((opens.append inside).append closed).append rfl

/-- What is written for a value begins neither with a space nor as an array ends. -/
lemma exists_cons_written {j : Json} (h : j.Readable room) :
    ∃ c cs, j.written = c :: cs ∧ isSpace c = false ∧ c ≠ ']' := by
  cases j with
  | null => exact ⟨_, _, rfl, rfl, by decide⟩
  | bool value => cases value <;> exact ⟨_, _, rfl, rfl, by decide⟩
  | string s => exact ⟨_, _, rfl, rfl, by decide⟩
  | array items => exact ⟨_, _, rfl, rfl, by decide⟩
  | object members => exact ⟨_, _, rfl, rfl, by decide⟩
  | number n =>
    obtain ⟨d, ds, split, digit, _⟩ := NumeralReader.advances_numeral h
    rw [written, Numeral.written, split]
    cases n.negative with
    | true => exact ⟨_, _, rfl, rfl, by decide⟩
    | false =>
      refine ⟨d.digitChar, _, rfl, ?_⟩
      interval_cases d <;> exact ⟨rfl, by decide⟩

/-- The first element is taken as a value inside of the array. -/
lemma reads_first {j : Json} (h : j.Readable room)
    (taken : Reads ⟨.array [] :: frames, .gap .value⟩ j.written r') :
    Reads ⟨frames, .gap .firstItem⟩ j.written r' := by
  obtain ⟨c, cs, split, visible, ne⟩ := exists_cons_written h
  rw [split] at taken ⊢
  have same : step ⟨frames, .gap .firstItem⟩ c = step ⟨.array [] :: frames, .gap .value⟩ c := by
    simp [step, stepGap, visible, ne]
  rw [Reads, List.foldlM_cons, same]
  exact taken

mutual

/-- What is written for a value is taken as this value. -/
theorem reads_written (frames : List Frame) (room : Nat) (deep : frames.length + room ≤ maxDepth) :
    (j : Json) → j.Readable room →
      Reads ⟨frames, .gap .value⟩ j.written (between (deliver frames j))
  | .null, _ => rfl
  | .bool true, _ => rfl
  | .bool false, _ => rfl
  | .number _, h => reads_number h
  | .string s, _ => reads_text s
  | .array items, h => by
    obtain ⟨some_room, h⟩ := h
    have deeper : frames.length + 1 + (room - 1) ≤ maxDepth := by omega
    have free : frames.length < maxDepth := by omega
    have opened : Reads ⟨frames, .gap .value⟩ ['['] ⟨frames, .gap .firstItem⟩ :=
      reads_single (if_pos free)
    cases items with
    | nil => exact opened.append rfl
    | cons j js =>
      obtain ⟨first_ok, rest_ok⟩ := h
      -- the elements stand reversed on the stack while the array is open
      have first := reads_first first_ok
        (reads_written (.array [] :: frames) (room - 1) deeper j first_ok)
      have rest := reads_items frames (room - 1) deeper js rest_ok [j]
      have closed : Reads ⟨frames, .gap (.nextItem (js.reverse ++ [j]))⟩ [']']
          (between (deliver frames (.array (j :: js)))) := by
        refine reads_single ?_
        simp [step, stepGap, isSpace]
      exact (opened.append (first.append rest)).append closed
  | .object members, h => by
    obtain ⟨some_room, h⟩ := h
    have deeper : frames.length + 1 + (room - 1) ≤ maxDepth := by omega
    have free : frames.length < maxDepth := by omega
    have opened : Reads ⟨frames, .gap .value⟩ ['{'] ⟨frames, .gap .firstKey⟩ :=
      reads_single (if_pos free)
    cases members with
    | nil => exact opened.append rfl
    | cons member members =>
      obtain ⟨key, j⟩ := member
      obtain ⟨first_ok, rest_ok⟩ := h
      have value : Reads ⟨.object [] key :: frames, .gap .value⟩ j.written
          ⟨frames, .gap (.nextMember [(key, j)])⟩ :=
        reads_written (.object [] key :: frames) (room - 1) deeper j first_ok
      have quote : Reads ⟨frames, .gap .firstKey⟩ ['"'] ⟨frames, .key [] .start⟩ := rfl
      have first := (reads_member key quote).append value
      have rest := reads_members frames (room - 1) deeper members rest_ok [(key, j)]
      have closed : Reads ⟨frames, .gap (.nextMember (members.reverse ++ [(key, j)]))⟩ ['}']
          (between (deliver frames (.object ((key, j) :: members)))) := by
        refine reads_single ?_
        simp [step, stepGap, isSpace]
      exact (opened.append (first.append rest)).append closed

/-- What is written for the elements after the first is taken as these elements. -/
theorem reads_items (frames : List Frame) (room : Nat)
    (deep : frames.length + 1 + room ≤ maxDepth) :
    (js : List Json) → ReadableAll room js → (items : List Json) →
      Reads ⟨frames, .gap (.nextItem items)⟩ ((writtenItems js).flatMap ([','] ++ ·))
        ⟨frames, .gap (.nextItem (js.reverse ++ items))⟩
  | [], _, _ => rfl
  | j :: js, h, items => by
    obtain ⟨first_ok, rest_ok⟩ := h
    have comma : Reads ⟨frames, .gap (.nextItem items)⟩ [',']
        ⟨.array items :: frames, .gap .value⟩ := rfl
    have first : Reads ⟨.array items :: frames, .gap .value⟩ j.written
        ⟨frames, .gap (.nextItem (j :: items))⟩ :=
      reads_written (.array items :: frames) room deep j first_ok
    have rest := reads_items frames room deep js rest_ok (j :: items)
    rw [List.reverse_cons, List.append_assoc, writtenItems, List.flatMap_cons]
    exact (comma.append first).append rest

/-- What is written for the members after the first is taken as these members. -/
theorem reads_members (frames : List Frame) (room : Nat)
    (deep : frames.length + 1 + room ≤ maxDepth) :
    (ms : List (String × Json)) → ReadableMembers room ms → (members : List (String × Json)) →
      Reads ⟨frames, .gap (.nextMember members)⟩ ((writtenMembers ms).flatMap ([','] ++ ·))
        ⟨frames, .gap (.nextMember (ms.reverse ++ members))⟩
  | [], _, _ => rfl
  | (key, j) :: ms, h, members => by
    obtain ⟨first_ok, rest_ok⟩ := h
    have comma : Reads ⟨frames, .gap (.nextMember members)⟩ [',']
        ⟨frames, .gap (.nextKey members)⟩ := rfl
    have value : Reads ⟨.object members key :: frames, .gap .value⟩ j.written
        ⟨frames, .gap (.nextMember ((key, j) :: members))⟩ :=
      reads_written (.object members key :: frames) room deep j first_ok
    have quote : Reads ⟨frames, .gap (.nextKey members)⟩ ['"'] ⟨frames, .key members .start⟩ := rfl
    have first := (reads_member key quote).append value
    have rest := reads_members frames room deep ms rest_ok ((key, j) :: members)
    rw [List.reverse_cons, List.append_assoc, writtenMembers, List.flatMap_cons]
    exact (comma.append first).append rest

end

end Reader

/--
Every value has a text: when no more than the allowed containers are inside of each other, and a
text can have its numerals, what is written for it is read as this value and nothing after it.
-/
theorem parse_write {j : Json} (h : j.Readable maxDepth) : parse j.write = .ok ⟨j, false⟩ := by
  have taken : j.written.foldlM Reader.step .start = .ok ⟨[], .gap (.finished j false)⟩ :=
    Reader.reads_written [] maxDepth (Nat.le_of_eq (Nat.zero_add _)) j h
  rw [parse, write, String.toList_ofList, taken]
  rfl

end StyleTree.Json
