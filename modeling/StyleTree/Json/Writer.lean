import StyleTree.Json.Reader

/-!
# Writing values

Every value as a text that means it, without white space but for the space that ends each numeral:
only at the character after it a reader knows a numeral for whole. A value is read back when it is
not too deep and its numerals are ones that a text can have.
-/

namespace StyleTree.Json

/-- A character as it stands between quotes. -/
def writtenChar (c : Char) : List Char :=
  if c = '"' then ['\\', '"']
  else if c = '\\' then ['\\', '\\']
  else if c.toNat < 0x20 then
    ['\\', 'u', '0', '0', Nat.digitChar (c.toNat / 16), Nat.digitChar (c.toNat % 16)]
  else [c]

/-- A text from quote to quote. -/
def writtenText (s : String) : List Char :=
  ['"'] ++ s.toList.flatMap writtenChar ++ ['"']

namespace Numeral

/-- The point and what follows it, when there is a fraction. -/
def writtenFraction (n : Numeral) : List Char :=
  if n.fraction.isEmpty then [] else ['.'] ++ n.fraction.map Nat.digitChar

/-- The mark and what follows it, when there is an exponent. -/
def writtenExponent (n : Numeral) : List Char :=
  if n.exponent.isEmpty then []
  else ['e'] ++ (if n.exponentNegative then ['-'] else []) ++ n.exponent.map Nat.digitChar

/-- The numeral digit by digit. -/
def written (n : Numeral) : List Char :=
  (if n.negative then ['-'] else []) ++ n.whole.map Nat.digitChar ++ n.writtenFraction ++
    n.writtenExponent

/--
A text has the numeral: its whole part begins with zero only when it is zero, there is no sign of an
exponent without one, and it is in range.
-/
def Readable (n : Numeral) : Prop :=
  (n.whole = [0] ∨ ∃ d ∈ n.whole.head?, d ≠ 0) ∧
    (∀ d ∈ n.whole ++ n.fraction ++ n.exponent, d < 10) ∧
    (n.exponent = [] → n.exponentNegative = false) ∧ n.inRange = true

instance (n : Numeral) : Decidable n.Readable :=
  inferInstanceAs (Decidable (_ ∧ _ ∧ _ ∧ _))

end Numeral

/-- Pieces with a comma between each and the next. -/
def separated : List (List Char) → List Char
  | [] => []
  | piece :: pieces => piece ++ pieces.flatMap ([','] ++ ·)

mutual

/-- The value character by character. -/
def written : Json → List Char
  | .null => ['n', 'u', 'l', 'l']
  | .bool true => ['t', 'r', 'u', 'e']
  | .bool false => ['f', 'a', 'l', 's', 'e']
  | .number n => n.written ++ [' ']
  | .string s => writtenText s
  | .array items => ['['] ++ separated (writtenItems items) ++ [']']
  | .object members => ['{'] ++ separated (writtenMembers members) ++ ['}']

/-- The elements of an array, each character by character. -/
def writtenItems : List Json → List (List Char)
  | [] => []
  | j :: js => written j :: writtenItems js

/-- The members of an object, each character by character. -/
def writtenMembers : List (String × Json) → List (List Char)
  | [] => []
  | (key, j) :: members => (writtenText key ++ [':'] ++ written j) :: writtenMembers members

end

/-- The value as a text. -/
def write (j : Json) : String :=
  String.ofList j.written

mutual

/-- No more than `room` containers are inside of each other, and a text has every numeral. -/
def Readable (room : Nat) : Json → Prop
  | .null | .bool _ | .string _ => True
  | .number n => n.Readable
  | .array items => 0 < room ∧ ReadableAll (room - 1) items
  | .object members => 0 < room ∧ ReadableMembers (room - 1) members

/-- So it is for all these values. -/
def ReadableAll (room : Nat) : List Json → Prop
  | [] => True
  | j :: js => Readable room j ∧ ReadableAll room js

/-- So it is for the values of all these members. -/
def ReadableMembers (room : Nat) : List (String × Json) → Prop
  | [] => True
  | (_, j) :: members => Readable room j ∧ ReadableMembers room members

end

mutual

/-- Whether a value has such a text can be told. -/
def decideReadable (room : Nat) : (j : Json) → Decidable (Readable room j)
  | .null | .bool _ | .string _ => isTrue trivial
  | .number n => inferInstanceAs (Decidable n.Readable)
  | .array items =>
    have := decideReadableAll (room - 1) items
    inferInstanceAs (Decidable (0 < room ∧ ReadableAll (room - 1) items))
  | .object members =>
    have := decideReadableMembers (room - 1) members
    inferInstanceAs (Decidable (0 < room ∧ ReadableMembers (room - 1) members))

/-- And so for all these values. -/
def decideReadableAll (room : Nat) : (js : List Json) → Decidable (ReadableAll room js)
  | [] => isTrue trivial
  | j :: js =>
    have := decideReadable room j
    have := decideReadableAll room js
    inferInstanceAs (Decidable (Readable room j ∧ ReadableAll room js))

/-- And so for the values of all these members. -/
def decideReadableMembers (room : Nat) :
    (members : List (String × Json)) → Decidable (ReadableMembers room members)
  | [] => isTrue trivial
  | (_, j) :: members =>
    have := decideReadable room j
    have := decideReadableMembers room members
    inferInstanceAs (Decidable (Readable room j ∧ ReadableMembers room members))

end

instance (room : Nat) (j : Json) : Decidable (j.Readable room) :=
  decideReadable room j

/-- A part of a reader gets from one state to another by taking these characters. -/
inductive Advances {σ α : Type} (step : σ → Char → Advance σ α) : σ → List Char → σ → Prop where
  | none (state : σ) : Advances step state [] state
  | next {state state' state'' : σ} {c : Char} {cs : List Char}
      (more : step state c = .more state') (rest : Advances step state' cs state'') :
      Advances step state (c :: cs) state''

/-- A reader gets from one place to another by taking these characters. -/
def Reader.Reads (r : Reader) (cs : List Char) (r' : Reader) : Prop :=
  cs.foldlM Reader.step r = .ok r'

end StyleTree.Json
