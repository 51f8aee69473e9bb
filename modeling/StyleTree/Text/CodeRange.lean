/-!
# Ranges of code points

Character properties are kept as lists of closed ranges, and case mappings as spans in which every
character, or every second one, moves by the same distance.
-/

namespace StyleTree.Text

/-- The code points from `first` to `last`, both included. -/
structure CodeRange where
  first : Nat
  last : Nat
  deriving DecidableEq, Repr

namespace CodeRange

/-- The range holds the character. -/
def has (range : CodeRange) (c : Char) : Bool :=
  range.first ≤ c.toNat && c.toNat ≤ range.last

end CodeRange

/-- Every `stride`-th code point from `first` to `last` moves by `shift`. -/
structure CaseSpan where
  first : Nat
  last : Nat
  stride : Nat
  shift : Int
  deriving DecidableEq, Repr

namespace CaseSpan

/-- The span moves the character. -/
def has (span : CaseSpan) (c : Char) : Bool :=
  span.first ≤ c.toNat && c.toNat ≤ span.last && (c.toNat - span.first) % span.stride == 0

/-- The character, moved. -/
def move (span : CaseSpan) (c : Char) : Char :=
  Char.ofNat (c.toNat + span.shift).toNat

end CaseSpan

end StyleTree.Text
