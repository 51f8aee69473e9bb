import StyleTree.Document.Layout
import StyleTree.Document.Reading
import StyleTree.Json.Reader
import StyleTree.Tree

/-!
# Loading trees

From the text of a document, or the bytes of a file, to a checked tree; and the words for all that
can go wrong on the way.
-/

namespace StyleTree

/-- Why a text gives no document. -/
inductive DocumentError where
  /-- The text is not well formed, or more follows the document. -/
  | malformed
  /-- The text ends too early. -/
  | truncated
  /-- The text is well formed, and its value is no node. -/
  | unfit
  deriving DecidableEq, Repr

namespace DocumentError

/-- The class of the error in one word. -/
def name : DocumentError → String
  | .malformed => "Syntax"
  | .truncated => "Eof"
  | .unfit => "Data"

def ofFault : Json.Fault → DocumentError
  | .malformed => .malformed
  | .truncated => .truncated

end DocumentError

/-- Why a file gives no text. -/
inductive FileError where
  | missing
  | notUtf8
  deriving DecidableEq, Repr

namespace FileError

def message : FileError → String
  | .missing => "No such file or directory (os error 2)"
  | .notUtf8 => "stream did not contain valid UTF-8"

end FileError

/-- Why no tree was loaded. -/
inductive LoadError where
  | defect (defect : Defect)
  | document (error : DocumentError)
  | file (error : FileError)
  deriving DecidableEq, Repr

namespace LoadError

def message : LoadError → String
  | .defect d => d.message
  | .document e => "Failed to decode parser output: " ++ e.name
  | .file e => "Failed to read file: " ++ e.message

end LoadError

namespace Document

/--
The document in a text. What follows a document is an error of its own, which counts only when the
document itself was read.
-/
def ofText (text : String) : Except DocumentError Document :=
  match Json.parse text with
  | .error fault => .error (.ofFault fault)
  | .ok source =>
    match ofJson? source.document with
    | none => .error .unfit
    | some d => if source.trailing then .error .malformed else .ok d

def toTree (d : Document) : Except Defect Tree :=
  let (a, top) := d.layOut .empty
  a.finish top

end Document

/-- The tree in a text. -/
def load (text : String) : Except LoadError Tree :=
  match Document.ofText text with
  | .error e => .error (.document e)
  | .ok d => d.toTree.mapError .defect

/-- The tree in a file, given its bytes if the file exists. -/
def loadFile (bytes : Option ByteArray) : Except LoadError Tree :=
  match bytes with
  | none => .error (.file .missing)
  | some bytes =>
    match String.fromUTF8? bytes with
    | none => .error (.file .notUtf8)
    | some text => load text

end StyleTree
