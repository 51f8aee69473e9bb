/-!
# Numerals

The decimal numerals of a document, held digit by digit, and the range that they must keep to.
-/

namespace StyleTree.Json

/-- A numeral as written: an absent fraction or exponent has no digits. -/
structure Numeral where
  negative : Bool
  whole : List Nat
  fraction : List Nat
  exponentNegative : Bool
  exponent : List Nat
  deriving DecidableEq, Repr

namespace Numeral

/-- The number that a row of decimal digits stands for. -/
def ofDigits (digits : List Nat) : Nat :=
  digits.foldl (fun value digit => 10 * value + digit) 0

/-- The number, when the numeral has no sign, fraction or exponent. -/
def natural? (n : Numeral) : Option Nat :=
  if n.negative || !n.fraction.isEmpty || !n.exponent.isEmpty then none
  else some (ofDigits n.whole)

/-- Append digits to a significand for as long as it fits in 64 bits; gives their count too. -/
def gather (significand : Nat) : List Nat → Nat × Nat
  | [] => (significand, 0)
  | digit :: digits =>
    if 10 * significand + digit < 1 <<< 64 then
      let (total, count) := gather (10 * significand + digit) digits
      (total, count + 1)
    else (significand, 0)

/-- The nearest number of 53 significant bits; a tie goes to the even one. -/
def nearest53 (n : Nat) : Nat :=
  let unit := 1 <<< (n.log2 + 1 - 53)
  let quotient := n / unit
  let remainder := n % unit
  if unit < 2 * remainder || (unit == 2 * remainder && quotient % 2 == 1) then
    (quotient + 1) * unit
  else quotient * unit

/-- From here on a product rounds past the largest double; it is 2 ^ 1024 - 2 ^ 970. -/
def overflowBound : Nat :=
  ((1 <<< 54) - 1) <<< 970

/--
The double nearest to the significand times the double nearest to the power of ten is finite. The
significand has the digits of the whole part that fit in 64 bits, then those of the fraction.
-/
def inRange (n : Numeral) : Bool :=
  let (head, wholeCount) := gather 0 n.whole
  let (significand, fractionCount) := gather head n.fraction
  let dropped : Int := n.whole.length - wholeCount
  let exponent : Int := ofDigits n.exponent
  let scale := dropped - fractionCount + if n.exponentNegative then -exponent else exponent
  significand == 0 || scale < 0 ||
    (scale ≤ 308 && nearest53 significand * nearest53 (Nat.pow 10 scale.toNat) < overflowBound)

end Numeral

def digit? (c : Char) : Option Nat :=
  if c.isDigit then some (c.toNat - '0'.toNat) else none

/-- What one more character does to a reader of type `σ` that is to give a result of type `α`. -/
inductive Advance (σ α : Type) where
  | more (state : σ)
  | done (result : α)
  | refused

/-- The parts of a numeral that its next character may belong to. -/
inductive NumeralPart where
  | sign | zero | whole | point | fraction | mark | markSign | exponent
  deriving DecidableEq, Repr

/-- A numeral part way through: the last part met, and the digits so far. -/
structure NumeralReader where
  part : NumeralPart
  numeral : Numeral
  deriving DecidableEq, Repr

namespace NumeralReader

/-- Before the first digit. -/
def start (negative : Bool) : NumeralReader :=
  ⟨.sign, ⟨negative, [], [], false, []⟩⟩

def canEnd (r : NumeralReader) : Bool :=
  match r.part with
  | .zero | .whole | .fraction | .exponent => true
  | .sign | .point | .mark | .markSign => false

/-- Take a first digit, which is followed by no other when it is zero. -/
def takeFirst (r : NumeralReader) (digit : Nat) : NumeralReader :=
  ⟨if digit = 0 then .zero else .whole, { r.numeral with whole := [digit] }⟩

-- The digits of a part are kept as they come, zeros at its ends included.

def takeWhole (r : NumeralReader) (digit : Nat) : NumeralReader :=
  ⟨.whole, { r.numeral with whole := r.numeral.whole ++ [digit] }⟩

def takeFraction (r : NumeralReader) (digit : Nat) : NumeralReader :=
  ⟨.fraction, { r.numeral with fraction := r.numeral.fraction ++ [digit] }⟩

def takeExponent (r : NumeralReader) (digit : Nat) : NumeralReader :=
  ⟨.exponent, { r.numeral with exponent := r.numeral.exponent ++ [digit] }⟩

def takeMarkSign (r : NumeralReader) (negative : Bool) : NumeralReader :=
  ⟨.markSign, { r.numeral with exponentNegative := negative }⟩

/-- Take one character, or find that the numeral ended before it. -/
def step (r : NumeralReader) (c : Char) : Advance NumeralReader Numeral :=
  match r.part, digit? c with
  | .sign, some d => .more (r.takeFirst d)
  | .zero, some _ => .refused
  | .whole, some d => .more (r.takeWhole d)
  | .point, some d | .fraction, some d => .more (r.takeFraction d)
  | .mark, some d | .markSign, some d | .exponent, some d => .more (r.takeExponent d)
  | .sign, none | .point, none | .markSign, none => .refused
  | .mark, none =>
    if c = '+' then .more (r.takeMarkSign false)
    else if c = '-' then .more (r.takeMarkSign true)
    else .refused
  | .zero, none | .whole, none =>
    if c = '.' then .more ⟨.point, r.numeral⟩
    else if c = 'e' ∨ c = 'E' then .more ⟨.mark, r.numeral⟩
    else .done r.numeral
  | .fraction, none =>
    if c = 'e' ∨ c = 'E' then .more ⟨.mark, r.numeral⟩ else .done r.numeral
  | .exponent, none => .done r.numeral

end NumeralReader

end StyleTree.Json
