import StyleTree.Json.Basic
import StyleTree.Json.Quoted

/-!
# Reading documents

A reader takes a text one character at a time. It holds the containers that are still open and the
place in the innermost of them, so the first character that cannot stand where it does is refused
at once, and a text that stops early is told from one that is wrong.
-/

namespace StyleTree.Json

/-- Why a text holds no document. -/
inductive Fault where
  /-- A character stands where none like it may. -/
  | malformed
  /-- The text ends inside the document. -/
  | truncated
  deriving DecidableEq, Repr

/-- An open container whose next value is being read; what it holds so far is kept last first. -/
inductive Frame where
  | array (items : List Json)
  | object (members : List (String × Json)) (key : String)

/-- A place between tokens. -/
inductive Gap where
  /-- A value must come. -/
  | value
  /-- An array has opened: a value or the end of the array. -/
  | firstItem
  /-- After an item: a comma or the end of the array. -/
  | nextItem (items : List Json)
  /-- An object has opened: a key or the end of the object. -/
  | firstKey
  /-- After a comma in an object: a key. -/
  | nextKey (members : List (String × Json))
  /-- After a key: a colon. -/
  | colon (members : List (String × Json)) (key : String)
  /-- After a member: a comma or the end of the object. -/
  | nextMember (members : List (String × Json))
  /-- After the document; `trailing` tells whether more than white space has followed it. -/
  | finished (document : Json) (trailing : Bool)

/-- A place in the text: between tokens or inside one. -/
inductive Place where
  | gap (gap : Gap)
  | word (next : Char) (rest : List Char) (value : Json)
  | numeral (reader : NumeralReader)
  | string (reader : QuotedReader)
  | key (members : List (String × Json)) (reader : QuotedReader)

/-- The reader of a document: the open containers, innermost first, and the place. -/
structure Reader where
  frames : List Frame
  place : Place

/-- At most this many containers are open at once. -/
def maxDepth : Nat := 127

def isSpace (c : Char) : Bool :=
  c == ' ' || c == '\t' || c == '\n' || c == '\r'

namespace Reader

def start : Reader :=
  ⟨[], .gap .value⟩

def between (place : List Frame × Gap) : Reader :=
  ⟨place.1, .gap place.2⟩

/-- Put a whole value where it belongs. -/
def deliver (frames : List Frame) (value : Json) : List Frame × Gap :=
  match frames with
  | [] => ([], .finished value false)
  | .array items :: outer => (outer, .nextItem (value :: items))
  | .object members key :: outer => (outer, .nextMember ((key, value) :: members))

/-- Put a numeral where it belongs, unless it is out of range. -/
def deliverNumeral (frames : List Frame) (n : Numeral) : Except Fault (List Frame × Gap) :=
  if n.inRange then .ok (deliver frames (.number n)) else .error .malformed

/-- Open a container, unless too many are open. -/
def enter (frames : List Frame) (gap : Gap) : Except Fault Reader :=
  if frames.length < maxDepth then .ok ⟨frames, .gap gap⟩ else .error .malformed

/-- Take the first character of a value. -/
def beginValue (frames : List Frame) (c : Char) : Except Fault Reader :=
  match c with
  | 'n' => .ok ⟨frames, .word 'u' ['l', 'l'] .null⟩
  | 't' => .ok ⟨frames, .word 'r' ['u', 'e'] (.bool true)⟩
  | 'f' => .ok ⟨frames, .word 'a' ['l', 's', 'e'] (.bool false)⟩
  | '"' => .ok ⟨frames, .string .start⟩
  | '[' => enter frames .firstItem
  | '{' => enter frames .firstKey
  | '-' => .ok ⟨frames, .numeral (.start true)⟩
  | _ =>
    match digit? c with
    | some d => .ok ⟨frames, .numeral ((NumeralReader.start false).takeFirst d)⟩
    | none => .error .malformed

/-- Take the quote that opens a key. -/
def beginKey (frames : List Frame) (members : List (String × Json)) (c : Char) :
    Except Fault Reader :=
  if c = '"' then .ok ⟨frames, .key members .start⟩ else .error .malformed

/-- Take a character between tokens. -/
def stepGap (frames : List Frame) (gap : Gap) (c : Char) : Except Fault Reader :=
  if isSpace c then .ok ⟨frames, .gap gap⟩
  else match gap with
    | .value => beginValue frames c
    | .firstItem =>
      if c = ']' then .ok (between (deliver frames (.array [])))
      else beginValue (.array [] :: frames) c
    | .nextItem items =>
      if c = ',' then .ok ⟨.array items :: frames, .gap .value⟩
      else if c = ']' then .ok (between (deliver frames (.array items.reverse)))
      else .error .malformed
    | .firstKey =>
      if c = '}' then .ok (between (deliver frames (.object []))) else beginKey frames [] c
    | .nextKey members => beginKey frames members c
    | .colon members key =>
      if c = ':' then .ok ⟨.object members key :: frames, .gap .value⟩ else .error .malformed
    | .nextMember members =>
      if c = ',' then .ok ⟨frames, .gap (.nextKey members)⟩
      else if c = '}' then .ok (between (deliver frames (.object members.reverse)))
      else .error .malformed
    | .finished document _ => .ok ⟨frames, .gap (.finished document true)⟩

/-- Take one character. -/
def step (r : Reader) (c : Char) : Except Fault Reader :=
  match r.place with
  | .gap gap => stepGap r.frames gap c
  | .word next rest value =>
    if c = next then
      match rest with
      | [] => .ok (between (deliver r.frames value))
      | next :: rest => .ok ⟨r.frames, .word next rest value⟩
    else .error .malformed
  | .numeral reader =>
    match reader.step c with
    | .more reader => .ok ⟨r.frames, .numeral reader⟩
    | .refused => .error .malformed
    | .done n => do
      let (frames, gap) ← deliverNumeral r.frames n
      stepGap frames gap c
  | .string reader =>
    match reader.step c with
    | .more reader => .ok ⟨r.frames, .string reader⟩
    | .refused => .error .malformed
    | .done s => .ok (between (deliver r.frames (.string s)))
  | .key members reader =>
    match reader.step c with
    | .more reader => .ok ⟨r.frames, .key members reader⟩
    | .refused => .error .malformed
    | .done s => .ok ⟨r.frames, .gap (.colon members s)⟩

end Reader

/-- What a text holds: a document, and whether more than white space follows it. -/
structure Source where
  document : Json
  trailing : Bool

namespace Gap

/-- The source, when the document is complete. -/
def source? : Gap → Except Fault Source
  | .finished document trailing => .ok ⟨document, trailing⟩
  | _ => .error .truncated

end Gap

namespace Reader

/-- What was read, when the text may end here. -/
def finish (r : Reader) : Except Fault Source :=
  match r.place with
  | .gap gap => gap.source?
  | .numeral reader =>
    if reader.canEnd then do
      let (_, gap) ← deliverNumeral r.frames reader.numeral
      gap.source?
    else .error .truncated
  | .word .. | .string _ | .key .. => .error .truncated

end Reader

def parse (text : String) : Except Fault Source := do
  let r ← text.toList.foldlM Reader.step .start
  r.finish

end StyleTree.Json
