import Mathlib.Data.List.TakeWhile
import Mathlib.Logic.Function.Iterate
import Mathlib.Tactic.Lemma
import StyleTree.Statement
import StyleTree.Text.Trivia

/-!
# Comments after a selector

Of the comments after a selector only the first of each kind is removed, and a block comment only if
it ends on the line on which it opens. The removal steps over what stands before (`StepsOver`): text
without a slash, and, where block comments are removed, line comments and the first line of a longer
block comment. By induction on what follows the selector, nothing but white space is left of it
exactly when there are no more comments than can be removed (`isClear_iterate`). A comment that
stays begins with a slash, so the selector is not what the text ends with (`getLast?_trim_append`).
-/

namespace StyleTree

namespace Text

variable {s u v : List Char} {c d : Char}

/-- All of the text is white space. -/
def IsClear (s : List Char) : Prop :=
  ∀ c ∈ s, isBlank c = true

/-- A text that begins with a solidus is not clear. -/
lemma not_isClear_slash : ¬ IsClear ('/' :: s) := by
  intro clear
  have blank : isBlank '/' = true := clear '/' List.mem_cons_self
  exact absurd blank (by decide)

/-- White space at the front changes nothing in whether a text is clear. -/
lemma isClear_blank (white : isBlank c = true) : IsClear (c :: s) ↔ IsClear s := by
  rw [IsClear, List.forall_mem_cons, and_iff_right white]
  rfl

/-- What a trimmed text ends with is the last of its characters that is not white space. -/
lemma getLast?_trim (s : List Char) : (trim s).getLast? = s.reverse.find? (! isBlank ·) := by
  have last (u : List Char) : (trimEnd u).getLast? = u.reverse.find? (! isBlank ·) := by
    rw [trimEnd, List.getLast?_reverse, List.find?_not_eq_head?_dropWhile]
  have start : (s.takeWhile isBlank).reverse.find? (! isBlank ·) = none := by
    rw [List.find?_eq_none]
    intro c mem
    simp [List.mem_takeWhile_imp (List.mem_reverse.mp mem)]
  have split : s.reverse = (s.dropWhile isBlank).reverse ++ (s.takeWhile isBlank).reverse := by
    rw [← List.reverse_append, List.takeWhile_append_dropWhile]
  rw [trim, last, split, List.find?_append, start, Option.or_none]

/-- White space at the end does not matter, and before anything else the start does not. -/
lemma getLast?_trim_append :
    (IsClear v → (trim (u ++ v)).getLast? = (trim u).getLast?) ∧
      (¬ IsClear v → (trim (u ++ v)).getLast? = (trim v).getLast?) := by
  simp only [getLast?_trim, List.reverse_append, List.find?_append]
  refine ⟨?_, ?_⟩
  · intro clear
    have none_left : v.reverse.find? (! isBlank ·) = none := by
      rw [List.find?_eq_none]
      intro c mem
      simp [clear c (List.mem_reverse.mp mem)]
    rw [none_left, Option.none_or]
  · intro dark
    have some_left : (v.reverse.find? (! isBlank ·)).isSome := by
      rw [List.find?_isSome]
      simpa [IsClear] using dark
    rw [Option.or_of_isSome some_left]

section Passes

variable {after : List Char → Option (List Char)}

/-- A character at which no piece begins stays, and the search goes on after it. -/
lemma removeFirst_of_none (stays : after (c :: s) = none) :
    removeFirst after (c :: s) = c :: removeFirst after s := by
  rw [removeFirst, stays]

/-- A piece at the front is what is removed. -/
lemma removeFirst_of_some (found : after (c :: s) = some v) : removeFirst after (c :: s) = v := by
  rw [removeFirst, found]

/-- Whatever follows the text, the removal leaves the text alone and goes on after it. -/
def StepsOver (after : List Char → Option (List Char)) (u : List Char) : Prop :=
  Function.Semiconj (u ++ ·) (removeFirst after) (removeFirst after)

/-- What is stepped over stays in front of what is left of the rest. -/
lemma StepsOver.removeFirst_append (steps : StepsOver after u) (s : List Char) :
    removeFirst after (u ++ s) = u ++ removeFirst after s :=
  (steps s).symm

/-- Nothing is stepped over. -/
lemma StepsOver.nil : StepsOver after [] :=
  fun _ => rfl

/-- A character at which no piece begins is stepped over with what is stepped over after it. -/
lemma StepsOver.cons (stays : ∀ v, after (c :: (u ++ v)) = none) (rest : StepsOver after u) :
    StepsOver after (c :: u) := by
  intro v
  change c :: (u ++ removeFirst after v) = removeFirst after (c :: (u ++ v))
  rw [removeFirst_of_none (stays v), rest.removeFirst_append]

/-- What is stepped over once is stepped over again and again. -/
lemma StepsOver.iterate (steps : StepsOver after u) (n : Nat) (s : List Char) :
    (removeFirst after)^[n] (u ++ s) = u ++ (removeFirst after)^[n] s :=
  (Function.Semiconj.iterate_right steps n s).symm

/-- What is looked for begins with a slash. -/
def BeginsWithSlash (after : List Char → Option (List Char)) : Prop :=
  ∀ c s, c ≠ '/' → after (c :: s) = none

/-- Pieces that begin with a solidus are not found where there is none. -/
lemma stepsOver_of_not_mem (begins : BeginsWithSlash after) (bare : '/' ∉ u) :
    StepsOver after u := by
  induction u with
  | nil => exact .nil
  | cons c u ih =>
    obtain ⟨ne, bare⟩ := List.ne_and_not_mem_of_not_mem_cons bare
    exact .cons (fun v => begins c (u ++ v) ne.symm) (ih bare)

end Passes

/-- A block comment begins with a solidus. -/
lemma beginsWithSlash_block : BeginsWithSlash afterBlockComment := by
  intro c s ne
  unfold afterBlockComment
  split
  · rename_i split
    exact absurd (List.cons_eq_cons.mp split).1 ne
  · rfl

/-- A line comment begins with a solidus. -/
lemma beginsWithSlash_line : BeginsWithSlash afterLineComment := by
  intro c s ne
  unfold afterLineComment
  split
  · rename_i split
    exact absurd (List.cons_eq_cons.mp split).1 ne
  · rfl

/-- A front without a solidus stays when comments are removed. -/
lemma removeComments_append (bare : '/' ∉ u) :
    removeComments (u ++ v) = u ++ removeComments v := by
  rw [removeComments, (stepsOver_of_not_mem beginsWithSlash_block bare).removeFirst_append,
    (stepsOver_of_not_mem beginsWithSlash_line bare).removeFirst_append, removeComments]

/-- A mark that is not in a text does not come about at its start by what follows the text. -/
lemma not_prefix_append (outside : ¬ ['*', '/'] <:+: c :: u) (ne : d ≠ '/') :
    ¬ ['*', '/'] <+: c :: (u ++ d :: v) := by
  intro begins
  obtain ⟨rfl, next⟩ := List.cons_prefix_cons.mp begins
  cases u with
  | nil =>
    obtain ⟨same, _⟩ := List.cons_prefix_cons.mp next
    exact ne same.symm
  | cons e u =>
    obtain ⟨rfl, _⟩ := List.cons_prefix_cons.mp next
    exact outside (List.prefix_append ['*', '/'] u).isInfix

/-- A character that neither closes a block comment nor ends the line is passed over. -/
lemma afterBlockEnd_cons (stays : ¬ ['*', '/'] <+: c :: s) (ne : c ≠ '\n') :
    afterBlockEnd (c :: s) = afterBlockEnd s := by
  rw [afterBlockEnd.eq_def]
  split
  · rename_i rest split
    exact absurd (split ▸ List.prefix_append ['*', '/'] rest) stays
  · rename_i split
    exact absurd (List.cons_eq_cons.mp split).1 ne
  · rename_i split
    rw [(List.cons_eq_cons.mp split).2]
  · rename_i split
    cases split

/-- The search for the end of a block comment passes over a text on one line without that mark. -/
lemma afterBlockEnd_append (no_close : ¬ ['*', '/'] <:+: u) (one_line : '\n' ∉ u)
    (ne : d ≠ '/') :
    afterBlockEnd (u ++ d :: v) = afterBlockEnd (d :: v) := by
  induction u with
  | nil => rfl
  | cons c u ih =>
    obtain ⟨ne_line, one_line⟩ := List.ne_and_not_mem_of_not_mem_cons one_line
    have no_close_tail : ¬ ['*', '/'] <:+: u := mt List.infix_cons no_close
    rw [List.cons_append, afterBlockEnd_cons (not_prefix_append no_close ne) ne_line.symm,
      ih no_close_tail one_line]

/-- A block comment that does not close on its line is none. -/
lemma afterBlockEnd_of_line (no_close : ¬ ['*', '/'] <:+: u) (one_line : '\n' ∉ u) :
    afterBlockEnd (u ++ '\n' :: v) = none := by
  rw [afterBlockEnd_append no_close one_line (by decide)]
  rfl

/-- A line comment goes to the first line break. -/
lemma afterLineEnd_append (one_line : '\n' ∉ u) : afterLineEnd (u ++ '\n' :: v) = some v := by
  induction u with
  | nil => rfl
  | cons c u ih =>
    obtain ⟨ne, one_line⟩ := List.ne_and_not_mem_of_not_mem_cons one_line
    rw [List.cons_append, ← ih one_line, afterLineEnd.eq_def]
    split
    · rename_i split
      exact absurd (List.cons_eq_cons.mp split).1.symm ne
    · rename_i split
      rw [(List.cons_eq_cons.mp split).2]
    · rename_i split
      cases split

/-- The removal of block comments steps over a line in which none ends. -/
lemma stepsOver_line (no_close : ¬ ['*', '/'] <:+: u) (one_line : '\n' ∉ u) :
    StepsOver afterBlockComment (u ++ ['\n']) := by
  induction u with
  | nil => exact stepsOver_of_not_mem beginsWithSlash_block (by decide)
  | cons c u ih =>
    have no_close_tail : ¬ ['*', '/'] <:+: u := mt List.infix_cons no_close
    have one_line_tail := List.not_mem_of_not_mem_cons one_line
    rw [List.cons_append]
    refine .cons ?_ (ih no_close_tail one_line_tail)
    intro v
    rw [List.append_assoc, afterBlockComment.eq_def]
    split
    · -- a block comment opens here, but does not end on this line
      rename_i rest split
      obtain ⟨_, next⟩ := List.cons_eq_cons.mp split
      cases u with
      | nil => cases next
      | cons d u =>
        obtain ⟨_, rfl⟩ := List.cons_eq_cons.mp next
        exact afterBlockEnd_of_line (mt List.infix_cons no_close_tail)
          (List.not_mem_of_not_mem_cons one_line_tail)
    · rfl

namespace Trivia

variable {body : CommentBody} {w : List Trivia}

/-- Pieces are written one after the other. -/
lemma spelledAll_cons (x : Trivia) (w : List Trivia) :
    spelledAll (x :: w) = x.spelled ++ spelledAll w := rfl

/-- White space is stepped over. -/
lemma stepsOver_blank {after : List Char → Option (List Char)} (begins : BeginsWithSlash after)
    (white : isBlank c = true) : StepsOver after (blank c white).spelled := by
  apply stepsOver_of_not_mem begins
  intro mem
  obtain rfl := List.mem_singleton.mp mem
  exact absurd white (by decide)

/-- The removal of block comments steps over a line comment. -/
lemma stepsOver_line (one_line : '\n' ∉ body.chars) :
    StepsOver afterBlockComment (line body one_line).spelled := by
  have no_close : ¬ ['*', '/'] <:+: '/' :: '/' :: body.chars := by
    simp [List.infix_cons_iff, body.no_close]
  have one_line : '\n' ∉ '/' :: '/' :: body.chars := by simp [one_line]
  exact Text.stepsOver_line no_close one_line

/-- The removal of line comments steps over the opening of a block comment. -/
lemma stepsOver_opening : StepsOver afterLineComment ['/', '*'] :=
  .cons (fun _ => rfl) (.cons (fun _ => rfl) .nil)

/-- The removal of block comments steps over the first line of one that goes on. -/
lemma exists_stepsOver_long (long : '\n' ∈ body.chars) :
    ∃ u v, (block body).spelled = ['/', '*'] ++ u ++ v ∧
      StepsOver afterBlockComment (['/', '*'] ++ u) := by
  obtain ⟨first, rest, split, one_line⟩ := List.eq_append_cons_of_mem long
  have no_close : ¬ ['*', '/'] <:+: first := by
    intro inside
    apply body.no_close
    rw [split]
    exact inside.trans (List.prefix_append first _).isInfix
  refine ⟨first ++ ['\n'], rest ++ ['*', '/'], by simp [spelled, split], ?_⟩
  have opens (v : List Char) : afterBlockComment ('/' :: '*' :: (first ++ ['\n'] ++ v)) = none := by
    rw [List.append_assoc]
    exact afterBlockEnd_of_line no_close one_line
  have star (v : List Char) : afterBlockComment ('*' :: (first ++ ['\n'] ++ v)) = none :=
    beginsWithSlash_block '*' _ (by decide)
  exact .cons opens (.cons star (Text.stepsOver_line no_close one_line))

/-- A block comment on one line, in front of a text, is what is removed. -/
lemma removeFirst_short (short : '\n' ∉ body.chars) :
    removeFirst afterBlockComment ((block body).spelled ++ s) = s := by
  have found : afterBlockEnd (body.chars ++ ['*', '/'] ++ s) = some s := by
    rw [List.append_assoc, List.cons_append, afterBlockEnd_append body.no_close short (by decide)]
    rfl
  exact removeFirst_of_some found

/-- A line comment in front of a text is what is removed. -/
lemma removeFirst_line (one_line : '\n' ∉ body.chars) :
    removeFirst afterLineComment ((line body one_line).spelled ++ s) = s := by
  have found : afterLineEnd (body.chars ++ ['\n'] ++ s) = some s := by
    rw [List.append_assoc]
    exact afterLineEnd_append one_line
  exact removeFirst_of_some found

/-- A text that begins with a block comment keeps the opening of it when line comments go. -/
lemma not_isClear_opening (lines : Nat) :
    ¬ IsClear ((removeFirst afterLineComment)^[lines] (['/', '*'] ++ s)) := by
  rw [stepsOver_opening.iterate]
  exact not_isClear_slash

/--
After some block comments are removed, and then some line comments, nothing but white space is left
exactly when there were no more of them, and each block comment was on one line.
-/
lemma isClear_iterate (blocks lines : Nat) (w : List Trivia) :
    IsClear ((removeFirst afterLineComment)^[lines]
        ((removeFirst afterBlockComment)^[blocks] (spelledAll w))) ↔
      Sparse blocks lines w := by
  -- a removal is spent on the first comment of its kind, so both counts vary along the pieces
  induction w generalizing blocks lines with
  | nil =>
    have fixed (after : List Char → Option (List Char)) : removeFirst after [] = [] := rfl
    rw [spelledAll, List.flatMap_nil, Function.iterate_fixed (fixed afterBlockComment),
      Function.iterate_fixed (fixed afterLineComment)]
    exact iff_of_true (List.forall_mem_nil _) trivial
  | cons x w ih =>
    rw [spelledAll_cons]
    cases x with
    | blank c white =>
      rw [(stepsOver_blank beginsWithSlash_block white).iterate,
        (stepsOver_blank beginsWithSlash_line white).iterate]
      exact (isClear_blank white).trans (ih blocks lines)
    | block body =>
      by_cases long : '\n' ∈ body.chars
      · -- it stays with all that it opens, however many comments may go
        obtain ⟨u, v, spelled, steps⟩ := exists_stepsOver_long long
        rw [spelled, List.append_assoc, steps.iterate, List.append_assoc]
        exact iff_of_false (not_isClear_opening lines) (fun h => h.2.1 long)
      · cases blocks with
        | zero => exact iff_of_false (not_isClear_opening lines) (fun h => Nat.lt_irrefl 0 h.1)
        | succ blocks =>
          rw [Function.iterate_succ_apply, removeFirst_short long, ih]
          exact ⟨fun h => ⟨Nat.succ_pos _, long, h⟩, fun h => h.2.2⟩
    | line body one_line =>
      rw [(stepsOver_line one_line).iterate]
      cases lines with
      | zero => exact iff_of_false not_isClear_slash (fun h => Nat.lt_irrefl 0 h.1)
      | succ lines =>
        rw [Function.iterate_succ_apply, removeFirst_line one_line, ih]
        exact ⟨fun h => ⟨Nat.succ_pos _, h⟩, fun h => h.2⟩

/-- Of comments and white space, one removal of each kind leaves white space or more than that. -/
lemma isClear_removeComments : IsClear (removeComments (spelledAll w)) ↔ Sparse 1 1 w :=
  isClear_iterate 1 1 w

end Trivia

/-- White space and few comments after a text do not change what it ends with. -/
lemma endsWithColon_of_sparse {w : List Trivia} (bare : '/' ∉ u) (sparse : Trivia.Sparse 1 1 w) :
    endsWithColon (u ++ Trivia.spelledAll w) = ((trim u).getLast? == some ':') := by
  have clear := Trivia.isClear_removeComments.mpr sparse
  rw [endsWithColon, removeComments_append bare, getLast?_trim_append.1 clear]

/-- More comments than that tell by themselves what the whole ends with. -/
lemma endsWithColon_of_not_sparse {w : List Trivia} (bare : '/' ∉ u)
    (many : ¬ Trivia.Sparse 1 1 w) :
    endsWithColon (u ++ Trivia.spelledAll w) = endsWithColon (Trivia.spelledAll w) := by
  have dark := mt Trivia.isClear_removeComments.mp many
  rw [endsWithColon, removeComments_append bare, getLast?_trim_append.2 dark, endsWithColon]

end Text

open Text

namespace Tree

variable {t : Tree} {n : NodeId} {s : String} {h : List Char} {w : List Trivia}

/--
A rule with a plain selector is a block of nested properties when the selector ends with a colon.
-/
lemma isNestedPropertyBlock_eq (selector : t.selector? n = some (.text s)) :
    t.isNestedPropertyBlock n = endsWithColon s.toList := by
  rw [isNestedPropertyBlock, selector]
  rfl

/--
After the words of a selector, white space, one block comment on one line and one line comment do
not matter, in whatever order they come: the rule holds nested properties exactly when the words end
with a colon. More comments than these decide alone, whatever the words.
-/
theorem isNestedPropertyBlock_of_comments (selector : t.selector? n = some (.text s))
    (spelling : s.toList = h ++ Trivia.spelledAll w) (bare : '/' ∉ h) :
    (Trivia.Sparse 1 1 w →
        (t.isNestedPropertyBlock n = true ↔ (trim h).getLast? = some ':')) ∧
      (¬ Trivia.Sparse 1 1 w →
        t.isNestedPropertyBlock n = endsWithColon (Trivia.spelledAll w)) := by
  rw [isNestedPropertyBlock_eq selector, spelling]
  refine ⟨?_, ?_⟩
  · intro sparse
    rw [endsWithColon_of_sparse bare sparse, beq_iff_eq]
  · intro many
    exact endsWithColon_of_not_sparse bare many

end Tree

/-- The inside of the comment `/* a */`. -/
def Text.CommentBody.letter : CommentBody :=
  ⟨[' ', 'a', ' '], by decide, by decide, by decide⟩

/-- A space and the comment `/* a */`, as often as given. -/
def Text.Trivia.letters : Nat → List Trivia
  | 0 => []
  | count + 1 => .blank ' ' (by decide) :: .block .letter :: letters count

/-- The nodes of a stylesheet with one rule, which has nothing in it. -/
def Arena.ofRule (selector : String) : Arena :=
  ⟨#[.plainRule selector [], .root [0]]⟩

/-- In a tree of one rule the selector is the given one. -/
lemma Arena.selector?_ofRule {selector : String} {t : Tree}
    (h : (ofRule selector).finish 1 = .ok t) : t.selector? 0 = some (.text selector) := by
  obtain ⟨arena, root⟩ := t
  obtain ⟨rfl, rfl⟩ := eq_of_finish h
  rfl

/-- After `font:`, one comment does not matter, and of two the second is all that matters. -/
theorem Tree.isNestedPropertyBlock_of_comments_font :
    ∃ t u, (Arena.ofRule "font: /* a */").finish 1 = .ok t ∧
      (Arena.ofRule "font: /* a */ /* a */").finish 1 = .ok u ∧
      t.isNestedPropertyBlock 0 = true ∧
      u.isNestedPropertyBlock 0 = endsWithColon (Trivia.spelledAll (Trivia.letters 2)) := by
  obtain ⟨t, one⟩ : ∃ t, (Arena.ofRule "font: /* a */").finish 1 = .ok t := ⟨_, rfl⟩
  obtain ⟨u, two⟩ : ∃ u, (Arena.ofRule "font: /* a */ /* a */").finish 1 = .ok u := ⟨_, rfl⟩
  have bare : '/' ∉ "font:".toList := by decide
  have sparse : Trivia.Sparse 1 1 (Trivia.letters 1) := ⟨Nat.one_pos, by decide, trivial⟩
  have many : ¬ Trivia.Sparse 1 1 (Trivia.letters 2) := fun h => Nat.lt_irrefl 0 h.2.2.1
  obtain ⟨few, _⟩ := Tree.isNestedPropertyBlock_of_comments (w := Trivia.letters 1)
    (Arena.selector?_ofRule one) rfl bare
  obtain ⟨_, more⟩ := Tree.isNestedPropertyBlock_of_comments (w := Trivia.letters 2)
    (Arena.selector?_ofRule two) rfl bare
  exact ⟨t, u, one, two, (few sparse).mpr rfl, more many⟩

/-- Comments do matter at times: behind two of them, the colon of `font:` is not found. -/
theorem Tree.not_every_comment_stripped :
    ¬ ∀ (t : Tree) (n : NodeId) (s : String) (h : List Char) (w : List Trivia),
      t.selector? n = some (.text s) → s.toList = h ++ Trivia.spelledAll w → '/' ∉ h →
        (t.isNestedPropertyBlock n = true ↔ (trim h).getLast? = some ':') := by
  intro every
  obtain ⟨t, h⟩ : ∃ t, (Arena.ofRule "font: /* a */ /* a */").finish 1 = .ok t := ⟨_, rfl⟩
  have selector := Arena.selector?_ofRule h
  have bare : '/' ∉ "font:".toList := by decide
  have holds := (every t 0 _ "font:".toList (Trivia.letters 2) selector rfl bare).mpr rfl
  rw [isNestedPropertyBlock_eq selector] at holds
  exact absurd holds (by decide)

end StyleTree
