import StyleTree.Json.Numeral

/-!
# Quoted texts

Reading of a quoted text one character at a time. Escapes by number name code units of 16 bits, so
a character beyond those takes a lead and a trail unit, and neither may stand alone.
-/

namespace StyleTree.Json

/-- The value of a hexadecimal digit. -/
def hexDigit? (c : Char) : Option Nat :=
  if c.isDigit then some (c.toNat - '0'.toNat)
  else if 'a' ≤ c ∧ c ≤ 'f' then some (c.toNat - 'a'.toNat + 10)
  else if 'A' ≤ c ∧ c ≤ 'F' then some (c.toNat - 'A'.toNat + 10)
  else none

/-- The unit is the first of a pair. -/
def isLead (unit : Nat) : Bool :=
  0xD800 ≤ unit && unit ≤ 0xDBFF

/-- The unit is the second of a pair. -/
def isTrail (unit : Nat) : Bool :=
  0xDC00 ≤ unit && unit ≤ 0xDFFF

/-- The character that a pair of units names. -/
def pairedChar (lead trail : Nat) : Char :=
  Char.ofNat (0x10000 + (lead - 0xD800) * 0x400 + (trail - 0xDC00))

/-- A quoted text part way through; `text` holds its characters so far, last first. -/
inductive QuotedReader where
  | plain (text : List Char)
  | escape (text : List Char)
  /-- In an escape by number of which `bytes` of four bytes are read, after a lead unit or none. -/
  | number (text : List Char) (lead : Option Nat) (bytes : Nat) (value : Option Nat)
  /-- After a lead unit: a reverse solidus must come. -/
  | pairEscape (text : List Char) (lead : Nat)
  /-- After a lead unit and a reverse solidus: an escape by number must come. -/
  | pairNumber (text : List Char) (lead : Nat)
  deriving DecidableEq, Repr

namespace QuotedReader

/-- After the opening quote. -/
def start : QuotedReader :=
  .plain []

/-- The character that a letter stands for after a reverse solidus. -/
def escaped? : Char → Option Char
  | '"' => some '"'
  | '\\' => some '\\'
  | '/' => some '/'
  | 'b' => some '\x08'
  | 'f' => some '\x0C'
  | 'n' => some '\n'
  | 'r' => some '\r'
  | 't' => some '\t'
  | _ => none

/-- Take a whole unit. -/
def takeUnit (text : List Char) (lead : Option Nat) (unit : Nat) : Advance QuotedReader String :=
  match lead with
  | some first => if isTrail unit then .more (.plain (pairedChar first unit :: text)) else .refused
  | none =>
    if isTrail unit then .refused
    else if isLead unit then .more (.pairEscape text unit)
    else .more (.plain (Char.ofNat unit :: text))

/-- Take one character. -/
def step (r : QuotedReader) (c : Char) : Advance QuotedReader String :=
  match r with
  | .plain text =>
    if c = '"' then .done (String.ofList text.reverse)
    else if c = '\\' then .more (.escape text)
    else if c.toNat < 0x20 then .refused
    else .more (.plain (c :: text))
  | .escape text =>
    if c = 'u' then .more (.number text none 0 (some 0))
    else match escaped? c with
      | some meant => .more (.plain (meant :: text))
      | none => .refused
  | .number text lead bytes value =>
    let value := value.bind fun v => (hexDigit? c).map (16 * v + ·)
    if bytes + c.utf8Size < 4 then .more (.number text lead (bytes + c.utf8Size) value)
    else match value with
      | some unit => takeUnit text lead unit
      | none => .refused
  | .pairEscape text lead => if c = '\\' then .more (.pairNumber text lead) else .refused
  | .pairNumber text lead =>
    if c = 'u' then .more (.number text (some lead) 0 (some 0)) else .refused

end QuotedReader

end StyleTree.Json
