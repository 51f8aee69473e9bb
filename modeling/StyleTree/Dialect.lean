import StyleTree.Text.Lowercase
import StyleTree.Text.Recogniser
import StyleTree.Text.Trivia

/-!
# Dialects

The three languages that share the tree, and how one is chosen: by name, by the extension of a
path, or by shapes in the text that only SCSS has. These are a word and its value before a block, an
interpolation, and an import of several targets or of a call.
-/

namespace StyleTree

/-- Why a name gives no dialect. -/
inductive DialectError where
  | unknownName
  deriving DecidableEq, Repr

namespace DialectError

def message : DialectError → String
  | .unknownName => "Matching variant not found"

end DialectError

/-- The languages of stylesheets. -/
inductive Dialect where
  | css
  | scss
  | less
  deriving DecidableEq, Repr

namespace Dialect

def name : Dialect → String
  | .css => "css"
  | .scss => "scss"
  | .less => "less"

def all : List Dialect :=
  [.css, .scss, .less]

/-- The dialect with the given name, in any letter case. -/
def ofName (s : String) : Except DialectError Dialect :=
  match all.find? fun d => Text.sameFold d.name s with
  | some d => .ok d
  | none => .error .unknownName

def extensions : List (String × Dialect) :=
  [("css", .css), ("pcss", .css), ("postcss", .css), ("scss", .scss), ("less", .less)]

/-- What follows the last full stop of a path; all of it when there is none. -/
def extension (path : List Char) : List Char :=
  (path.reverse.takeWhile (· != '.')).reverse

/-- The dialect that the extension of a path names, in any letter case. -/
def ofPath? (path : String) : Option Dialect :=
  extensions.lookup (Text.lowercase (String.ofList (extension path.toList)))

open Text Recogniser

/-- A letter, a digit or the underscore, within ASCII. -/
def isWordChar (c : Char) : Bool :=
  c.isAlphanum || c == '_'

/-- The character may stand between a property and the block it opens. -/
def staysInProperty (c : Char) : Bool :=
  c != '}' && c != ':'

/-- The end of a word, a colon and a space, and then a block, with some text before it. -/
def opensProperty : Recogniser
  | c :: s =>
    isWordChar c &&
      zeroOrMore isBlank (word [':', ' '] (oneOrMore staysInProperty (word ['{'] fun _ => true))) s
  | [] => false

def opensInterpolation : Recogniser :=
  word ['#', '{'] fun _ => true

/-- The start of a call of `url`, or a comma. -/
def opensTarget : Recogniser :=
  fun s => word ['u', 'r', 'l'] (fun _ => true) s || word [','] (fun _ => true) s

/-- An import with a call of `url` or a comma on its line, though not at once. -/
def opensImport : Recogniser :=
  word ['@', 'i', 'm', 'p', 'o', 'r', 't'] (oneOrMore (· != '\n') opensTarget)

/-- The text has a shape that only SCSS has. -/
def looksLikeScss (s : List Char) : Bool :=
  anywhere (fun s => opensProperty s || opensInterpolation s || opensImport s) s

/-- `A` to `Z`, `a` to `z`, `0` to `9` and the underscore. -/
def WordChar (c : Char) : Prop :=
  ('A' ≤ c ∧ c ≤ 'Z') ∨ ('a' ≤ c ∧ c ≤ 'z') ∨ ('0' ≤ c ∧ c ≤ '9') ∨ c = '_'

/-- The texts that have one of the three shapes from their first character to their last. -/
inductive ScssShape : List Char → Prop where
  | property {c : Char} {blanks value : List Char} (word : WordChar c)
      (blank : ∀ b ∈ blanks, Text.isBlank b = true) (some_value : value ≠ [])
      (stays : ∀ b ∈ value, b ≠ '}' ∧ b ≠ ':') :
      ScssShape (c :: blanks ++ [':', ' '] ++ value ++ ['{'])
  | interpolation : ScssShape ['#', '{']
  | importing {path target : List Char} (some_path : path ≠ []) (line : ∀ b ∈ path, b ≠ '\n')
      (targets : target = ['u', 'r', 'l'] ∨ target = [',']) :
      ScssShape (['@', 'i', 'm', 'p', 'o', 'r', 't'] ++ path ++ target)

/-- The text is to be read as SCSS: a hint at SCSS or Less decides, and otherwise the text does. -/
def isScss (hint : Option Dialect) (text : String) : Bool :=
  match hint with
  | some .scss => true
  | some .less => false
  | some .css | none => looksLikeScss text.toList

/-- The dialect to read the text in. -/
def resolve (hint : Option Dialect) (text : String) : Dialect :=
  match hint with
  | some .scss => .scss
  | some .less => .less
  | some .css | none => if isScss hint text then .scss else hint.getD .css

end Dialect

end StyleTree
