import TapeMachine.Decimal.Shortest
import TapeMachine.Json.Value
import TapeMachine.Text.Quoted
/-!
# Writing JSON

The written form is printable ASCII: every other character is escaped by the UTF-16 units of its code.

* `Json.render` : a value on one line, with a blank behind each comma and colon;
* `Json.renderIndented` : one item a line, each level four columns further in.
-/

namespace TapeMachine

/-- Numbers in JSON text: as in plain text, but with the words of the format for what is not finite. -/
def DecimalLayout.json : DecimalLayout :=
  { DecimalLayout.plain with infinity := "Infinity", nan := "NaN" }

namespace Json

/-- The escape of one UTF-16 unit. -/
def unitEscape (n : Nat) : List Char :=
  '\\' :: 'u' :: Text.hex 4 n

/-- One character inside a JSON string. -/
def escapeChar (c : Char) : List Char :=
  if c = '"' then ['\\', '"']
  else if c = '\\' then ['\\', '\\']
  else if c = '\n' then ['\\', 'n']
  else if c = '\r' then ['\\', 'r']
  else if c = '\t' then ['\\', 't']
  else if c = '\x08' then ['\\', 'b']
  else if c = '\x0c' then ['\\', 'f']
  else
    let n := c.toNat
    if 0x20 ≤ n && n < 0x7f then [c]
    else if n < 0x10000 then unitEscape n
    else unitEscape (0xd800 + (n - 0x10000) / 0x400) ++ unitEscape (0xdc00 + (n - 0x10000) % 0x400)

/-- A JSON string. -/
def renderString (s : String) : String :=
  String.ofList ('"' :: s.toList.flatMap escapeChar ++ ['"'])

mutual

/-- A value on one line. -/
def render : Json → String
  | .null => "null"
  | .bool true => "true"
  | .bool false => "false"
  | .int n => toString n
  | .float x => x.text .json
  | .str s => renderString s
  | .arr items => "[" ++ ", ".intercalate (renderItems items) ++ "]"
  | .obj fields => "\x7b" ++ ", ".intercalate (renderFields fields) ++ "\x7d"

/-- Each item on one line. -/
def renderItems : List Json → List String
  | [] => []
  | item :: items => render item :: renderItems items

/-- Each field as its name, a colon and its value. -/
def renderFields : List (String × Json) → List String
  | [] => []
  | (name, value) :: fields => (renderString name ++ ": " ++ render value) :: renderFields fields

end

/-- A new line that starts `depth` levels in. -/
def indentLine (depth : Nat) : String :=
  String.ofList ('\n' :: List.replicate (4 * depth) ' ')

/-- A bracketed sequence with one item a line; an empty one stays on its line. -/
def indentBlock (depth : Nat) (opening closing : String) (parts : List String) : String :=
  if parts.isEmpty then opening ++ closing
  else opening ++ indentLine (depth + 1) ++ ("," ++ indentLine (depth + 1)).intercalate parts ++
    indentLine depth ++ closing

mutual

/-- A value whose inner lines start `depth + 1` levels in. -/
def renderAt (depth : Nat) : Json → String
  | .arr items => indentBlock depth "[" "]" (renderItemsAt (depth + 1) items)
  | .obj fields => indentBlock depth "\x7b" "\x7d" (renderFieldsAt (depth + 1) fields)
  | .null => "null"
  | .bool true => "true"
  | .bool false => "false"
  | .int n => toString n
  | .float x => x.text .json
  | .str s => renderString s

/-- Each item, `depth` levels in. -/
def renderItemsAt (depth : Nat) : List Json → List String
  | [] => []
  | item :: items => renderAt depth item :: renderItemsAt depth items

/-- Each field, `depth` levels in. -/
def renderFieldsAt (depth : Nat) : List (String × Json) → List String
  | [] => []
  | (name, value) :: fields =>
      (renderString name ++ ": " ++ renderAt depth value) :: renderFieldsAt depth fields

end

/-- A value with one item a line. -/
def renderIndented (value : Json) : String :=
  renderAt 0 value

end Json

end TapeMachine
