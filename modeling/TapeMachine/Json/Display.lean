import TapeMachine.Decimal.Shortest
import TapeMachine.Json.Value
import TapeMachine.Text.Quoted
/-!
# Values as text

How a value appears in messages and on the tape: a text as itself, everything else in the notation in
which lists stand in brackets, objects in braces and inner texts in quotes.

* `Json.quoted` : the notation, with quotes around every text;
* `Json.display` : the same without quotes for a text on its own.
-/

namespace TapeMachine.Json

mutual

/-- The value in full notation. -/
def quoted : Json → String
  | .null => "None"
  | .bool true => "True"
  | .bool false => "False"
  | .int n => toString n
  | .float x => x.text .plain
  | .str s => Text.quote s
  | .arr items => "[" ++ ", ".intercalate (quotedItems items) ++ "]"
  | .obj fields => "\x7b" ++ ", ".intercalate (quotedFields fields) ++ "\x7d"

/-- Each item in full notation. -/
def quotedItems : List Json → List String
  | [] => []
  | item :: items => quoted item :: quotedItems items

/-- Each field as a quoted name, a colon and its value. -/
def quotedFields : List (String × Json) → List String
  | [] => []
  | (name, value) :: fields => (Text.quote name ++ ": " ++ quoted value) :: quotedFields fields

end

/-- The value as text: a text is itself. -/
def display : Json → String
  | .str s => s
  | value => quoted value

/-- A list of texts in full notation. -/
def quotedTexts (texts : List String) : String :=
  quoted (.arr (texts.map .str))

@[simp]
theorem display_str (s : String) : display (.str s) = s := rfl

end TapeMachine.Json
