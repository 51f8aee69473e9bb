import StyleTree.Text.CaseTable

/-!
# Lower-casing

The full lower-case mapping of texts: each character by itself, but for the capital sigma, whose
form depends on the word around it. Names of plain CSS are compared with less: without regard to the
case of A to Z, where every other character stands for itself.
-/

namespace StyleTree.Text

/-- The character has a case. -/
def isCased (c : Char) : Bool :=
  casedRanges.any (·.has c)

/-- The character neither begins nor ends a word where letter case is concerned. -/
def isCaseIgnorable (c : Char) : Bool :=
  caseIgnorableRanges.any (·.has c)

/-- The lower-case form of a character apart from its neighbours. -/
def lowerChar (c : Char) : List Char :=
  if c = 'İ' then ['i', '\u0307']
  else match lowerSpans.find? (·.has c) with
    | some span => [span.move c]
    | none => [c]

/-- The first character that counts for letter case has one. -/
def meetsCased (s : List Char) : Bool :=
  match s.dropWhile isCaseIgnorable with
  | c :: _ => isCased c
  | [] => false

/-- A capital sigma ends a word when a cased letter stands before it and none after it. -/
def lowerSigma (before after : List Char) : Char :=
  if meetsCased before && !meetsCased after then 'ς' else 'σ'

/-- Lower-case a text, given the characters before it in reverse. -/
def lowerAfter (before : List Char) : List Char → List Char
  | [] => []
  | c :: after =>
    let form := if c = 'Σ' then [lowerSigma before after] else lowerChar c
    form ++ lowerAfter (c :: before) after

/-- The lower-cased text. -/
def lowercase (s : String) : String :=
  String.ofList (lowerAfter [] s.toList)

/-- A to Z become a to z, and every other character stays. -/
def foldAscii (s : String) : List Char :=
  s.toList.map Char.toLower

/-- The two texts differ at most in the case of their ASCII letters. -/
def sameFold (s t : String) : Bool :=
  foldAscii s == foldAscii t

/-- The text has no capital letter of ASCII. -/
def Uncapitalised (s : String) : Prop :=
  ∀ c ∈ s.toList, c.isUpper = false

instance : DecidablePred Uncapitalised := fun s =>
  List.decidableBAll (fun c : Char => c.isUpper = false) s.toList

/-- Two texts are the same up to letters of ASCII when they fold to one. -/
theorem sameFold_iff {s t : String} : sameFold s t = true ↔ foldAscii s = foldAscii t := by
  simp [sameFold]

end StyleTree.Text
