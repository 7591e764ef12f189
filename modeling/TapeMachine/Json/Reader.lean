import TapeMachine.Json.Lexeme
import TapeMachine.Json.Shape
/-!
# Reading JSON

The lexemes of a text drive a machine with a stack: on the stack lie the lists and objects that are still
open, and its mode says what may come next. The first lexeme that may not come gives the complaint of the
mode, at the offset of that lexeme. A text with half of a pair alone has no value here, though it is right otherwise.

* `Json.Reader.Mode.complaint` : what is missing in each mode;
* `Json.read` : the value of a text, or what is wrong and where.
-/

namespace TapeMachine.Json

/-- Where something stands in a text: lines and columns count from one, the offset from zero. -/
structure Place where
  line : Nat
  column : Nat
  offset : Nat
  deriving DecidableEq, Repr

/-- The place of an offset. -/
def Place.ofOffset (cs : List Char) (offset : Nat) : Place :=
  let before := cs.take offset
  { line := before.count '\n' + 1
    column := (before.reverse.takeWhile (· ≠ '\n')).length + 1
    offset := offset }

/-- Why a text gives no value. -/
inductive ReadError where
  | malformed (problem : Problem) (place : Place)
  /-- An integer has more digits than are read. -/
  | overlong (digits : Nat)
  /-- A list or an object stands in too many others. -/
  | tooDeep (inner : Shape)
  deriving DecidableEq, Repr

/-- The wording of a problem. -/
def Problem.message : Problem → String
  | .expectingValue => "Expecting value"
  | .expectingName => "Expecting property name enclosed in double quotes"
  | .expectingColon => "Expecting ':' delimiter"
  | .expectingComma => "Expecting ',' delimiter"
  | .extraData => "Extra data"
  | .unterminatedString => "Unterminated string starting at"
  | .controlCharacter => "Invalid control character at"
  | .unknownEscape => "Invalid \\escape"
  | .badCodeEscape => "Invalid \\uXXXX escape"
  | .loneHalf => "Lone half of a pair"
  | .byteOrderMark => "Unexpected UTF-8 BOM (decode using utf-8-sig)"

/-- The wording of a reading error. -/
def ReadError.message : ReadError → String
  | .malformed problem place =>
      s!"{problem.message}: line {place.line} column {place.column} (char {place.offset})"
  | .overlong digits => Text.overlongMessage digits
  | .tooDeep inner =>
      s!"maximum recursion depth exceeded while decoding a JSON {inner.containerWord} from a unicode string"

namespace Reader

/-- An open list with the items so far, the latest first, or an open object that waits for the value of a
name. -/
inductive Frame where
  | list (done : List Json)
  | object (done : Fields) (name : String)

/-- What may come next. -/
inductive Mode where
  | value
  /-- The first item of a list, or its end. -/
  | firstItem
  /-- The first name of an object, or its end. -/
  | firstName
  /-- The next name of an object. -/
  | name (done : Fields)
  | colon (done : Fields) (name : String)
  | afterItem (done : List Json)
  | afterField (done : Fields)
  /-- Nothing: the value is complete. -/
  | finished (value : Json)

/-- What is missing when something else comes. -/
def Mode.complaint : Mode → Problem
  | .value => .expectingValue
  | .firstItem => .expectingValue
  | .firstName => .expectingName
  | .name _ => .expectingName
  | .colon _ _ => .expectingColon
  | .afterItem _ => .expectingComma
  | .afterField _ => .expectingComma
  | .finished _ => .extraData

/-- The state of the reader. -/
structure State where
  mode : Mode
  stack : List Frame

/-- Why reading stops: a problem at an offset, an integer with too many digits, or a value that stands too
deep in others. -/
inductive Stop where
  | problem (problem : Problem) (offset : Nat)
  | overlong (digits : Nat)
  | tooDeep (inner : Shape)

/-- Hands a complete value to the innermost open list or object. -/
def deliver (stack : List Frame) (value : Json) : State :=
  match stack with
  | [] => ⟨.finished value, []⟩
  | .list done :: stack => ⟨.afterItem (value :: done), stack⟩
  | .object done name :: stack => ⟨.afterField (done.put name value), stack⟩

/-- The number of lists and objects that may be open at a time. -/
def depthLimit : Nat := 990

/-- Opens a list or an object. -/
def opened (inner : Shape) (mode : Mode) (stack : List Frame) : Except Stop State :=
  if stack.length < depthLimit then .ok ⟨mode, stack⟩ else .error (.tooDeep inner)

/-- A lexeme where a value must start. -/
def startValue (stack : List Frame) (lexeme : Lexeme) : Except Stop State :=
  match lexeme.token with
  | .constant value => .ok (deliver stack value)
  | .text s _ => .ok (deliver stack (.str s))
  | .mark '[' => opened .arr .firstItem stack
  | .mark '\x7b' => opened .obj .firstName stack
  | .broken problem offset => .error (.problem problem offset)
  | .overlong digits => .error (.overlong digits)
  | _ => .error (.problem .expectingValue lexeme.offset)

/-- One lexeme. -/
def step (state : State) (lexeme : Lexeme) : Except Stop State :=
  match state.mode, lexeme.token with
  | .value, _ => startValue state.stack lexeme
  | .firstItem, .mark ']' => .ok (deliver state.stack (.arr []))
  | .firstItem, _ => startValue (.list [] :: state.stack) lexeme
  | .firstName, .mark '\x7d' => .ok (deliver state.stack (.obj []))
  | .firstName, .text s _ => .ok ⟨.colon [] s, state.stack⟩
  | .firstName, .broken problem offset => .error (.problem problem offset)
  | .name done, .text s _ => .ok ⟨.colon done s, state.stack⟩
  | .name _, .broken problem offset => .error (.problem problem offset)
  | .colon done name, .mark ':' => .ok ⟨.value, .object done name :: state.stack⟩
  | .afterItem done, .mark ',' => .ok ⟨.value, .list done :: state.stack⟩
  | .afterItem done, .mark ']' => .ok (deliver state.stack (.arr done.reverse))
  | .afterField done, .mark ',' => .ok ⟨.name done, state.stack⟩
  | .afterField done, .mark '\x7d' => .ok (deliver state.stack (.obj done))
  | mode, _ => .error (.problem mode.complaint lexeme.offset)

/-- The end of the text. -/
def finish (state : State) (offset : Nat) : Except Stop Json :=
  match state.mode with
  | .finished value => .ok value
  | mode => .error (.problem mode.complaint offset)

/-- The value of some lexemes, if no half of a pair stands alone in them. -/
def whole (lexemes : List Lexeme) (value : Json) : Except Stop Json :=
  match lexemes.findSome? (·.token.lone?) with
  | some offset => .error (.problem .loneHalf offset)
  | none => .ok value

/-- The value of a text, or why reading stops. -/
def run (cs : List Char) : Except Stop Json := do
  if cs.head? = some '\ufeff' then
    throw (.problem .byteOrderMark 0)
  let (lexemes, stop) := Lexeme.cut 0 cs
  let state ← lexemes.foldlM step ⟨.value, []⟩
  let value ← finish state stop
  -- this comes last, so that all that is wrong with the text itself is told first
  whole lexemes value

end Reader

/-- The value of a text, or what is wrong and where. -/
def read (text : String) : Except ReadError Json :=
  let cs := text.toList
  match Reader.run cs with
  | .ok value => .ok value
  | .error (.problem problem offset) => .error (.malformed problem (.ofOffset cs offset))
  | .error (.overlong digits) => .error (.overlong digits)
  | .error (.tooDeep inner) => .error (.tooDeep inner)

end TapeMachine.Json
