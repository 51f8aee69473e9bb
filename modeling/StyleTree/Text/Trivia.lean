import StyleTree.Text.CodeRange

/-!
# White space and comments

The characters of the property White_Space, and trimming by them. Removal of the first comment of
each kind: a block comment that opens and closes on one line, and a line comment together with the
line break that ends it.

What may stand after the words of a selector without being part of it is told piece by piece, with
any number of comments of either kind.
-/

namespace StyleTree.Text

/-- The property White_Space. -/
def blankRanges : List CodeRange :=
  [
    ⟨0x0009, 0x000D⟩, ⟨0x0020, 0x0020⟩, ⟨0x0085, 0x0085⟩, ⟨0x00A0, 0x00A0⟩, ⟨0x1680, 0x1680⟩,
    ⟨0x2000, 0x200A⟩, ⟨0x2028, 0x2029⟩, ⟨0x202F, 0x202F⟩, ⟨0x205F, 0x205F⟩, ⟨0x3000, 0x3000⟩
  ]

/-- The character is white space. -/
def isBlank (c : Char) : Bool :=
  blankRanges.any (·.has c)

/-- The text without the white space at its end. -/
def trimEnd (s : List Char) : List Char :=
  (s.reverse.dropWhile isBlank).reverse

/-- The text without the white space at its two ends. -/
def trim (s : List Char) : List Char :=
  trimEnd (s.dropWhile isBlank)

/-- What follows the end of a block comment, when it ends on this line. -/
def afterBlockEnd : List Char → Option (List Char)
  | '*' :: '/' :: rest => some rest
  | '\n' :: _ => none
  | _ :: rest => afterBlockEnd rest
  | [] => none

/-- What follows the line break that ends this line. -/
def afterLineEnd : List Char → Option (List Char)
  | '\n' :: rest => some rest
  | _ :: rest => afterLineEnd rest
  | [] => none

/-- What follows the block comment that the text begins with. -/
def afterBlockComment : List Char → Option (List Char)
  | '/' :: '*' :: rest => afterBlockEnd rest
  | _ => none

/-- What follows the line comment that the text begins with. -/
def afterLineComment : List Char → Option (List Char)
  | '/' :: '/' :: rest => afterLineEnd rest
  | _ => none

/-- The text without the first piece that `after` passes over. -/
def removeFirst (after : List Char → Option (List Char)) : List Char → List Char
  | [] => []
  | c :: rest =>
    match after (c :: rest) with
    | some tail => tail
    | none => c :: removeFirst after rest

/-- The text without its first block comment, and then without its first line comment. -/
def removeComments (s : List Char) : List Char :=
  -- in this order: where a block comment was taken out, a line comment may have come about
  removeFirst afterLineComment (removeFirst afterBlockComment s)

/-- The inside of a comment: any characters, as long as no comment opens or closes among them. -/
structure CommentBody where
  chars : List Char
  no_block : ¬ ['/', '*'] <:+: chars
  no_close : ¬ ['*', '/'] <:+: chars
  no_line : ¬ ['/', '/'] <:+: chars

/-- White space or a comment. -/
inductive Trivia where
  | blank (c : Char) (white : isBlank c = true)
  /-- A block comment, which may go over several lines. -/
  | block (body : CommentBody)
  /-- A line comment and the line break after it. -/
  | line (body : CommentBody) (one_line : '\n' ∉ body.chars)

namespace Trivia

/-- The piece as it is written. -/
def spelled : Trivia → List Char
  | blank c _ => [c]
  | block body => '/' :: '*' :: (body.chars ++ ['*', '/'])
  | line body _ => '/' :: '/' :: (body.chars ++ ['\n'])

/-- The pieces as they are written one after the other. -/
def spelledAll (w : List Trivia) : List Char :=
  w.flatMap spelled

/--
There are no more than `blocks` block comments, each on one line, and no more than `lines` line
comments.
-/
def Sparse (blocks lines : Nat) : List Trivia → Prop
  | [] => True
  | blank _ _ :: w => Sparse blocks lines w
  | block body :: w => 0 < blocks ∧ '\n' ∉ body.chars ∧ Sparse (blocks - 1) lines w
  | line _ _ :: w => 0 < lines ∧ Sparse blocks (lines - 1) w

end Trivia

end StyleTree.Text
