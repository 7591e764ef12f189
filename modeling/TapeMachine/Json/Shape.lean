import TapeMachine.Json.Value
/-!
# The shape of a value

What a value of unknown shape can be used for: taken as true or false, listed item by item, asked for a
name. A use that the shape does not allow is a `ShapeError`.

* `Json.truthy` : only `null`, `false`, zeros and empty values count as false;
* `Json.items` : the characters of a text, the items of a list, the names of an object;
* `Json.has`, `Json.get` : whether a name occurs in a value, and the value under a name;
* `Json.asPath`, `Json.asDocument`, `Json.asKey` : a value as the name of a file, as the text of a document and
  as a key.
-/

namespace TapeMachine

/-- The seven shapes of a value. -/
inductive Shape where
  | null
  | bool
  | int
  | float
  | str
  | arr
  | obj
  deriving DecidableEq, Repr

/-- The word for a shape in messages. -/
def Shape.word : Shape → String
  | .null => "NoneType"
  | .bool => "bool"
  | .int => "int"
  | .float => "float"
  | .str => "str"
  | .arr => "list"
  | .obj => "dict"

/-- The word of the format for what has items or fields. -/
def Shape.containerWord : Shape → String
  | .obj => "object"
  | _ => "array"

/-- A use of a value that its shape does not allow. -/
inductive ShapeError where
  /-- A value without items was asked for its items. -/
  | noItems (shape : Shape)
  /-- A value that holds nothing was asked whether it holds a name. -/
  | holdsNothing (shape : Shape)
  /-- A value that has no named parts was asked for one. -/
  | noNames (shape : Shape)
  /-- A list or an object was used as a key. -/
  | notKey (shape : Shape)
  /-- An entry that should be a pair has no items at all. -/
  | notPair (index : Nat)
  /-- A value was asked for something that its shape does not offer. -/
  | lacks (shape : Shape) (feature : String)
  /-- A value that should be a whole number is none. -/
  | notWhole (shape : Shape)
  /-- Two shapes that cannot be compared. -/
  | notOrdered (relation : String) (left right : Shape)
  /-- Two shapes that have no difference. -/
  | noDifference (left right : Shape)
  /-- A whole number that no double can hold was used with doubles. -/
  | tooLarge
  /-- One of the values that should be joined as texts is none. -/
  | notText (index : Nat) (shape : Shape)
  /-- A value that should name a file is no text. -/
  | notPath (shape : Shape)
  /-- A value that should name a settings file is no text. -/
  | notSettingsPath (shape : Shape)
  /-- A value that should be the text of a document is no text. -/
  | notDocument (shape : Shape)
  deriving DecidableEq, Repr

/-- The wording of a shape error. -/
def ShapeError.message : ShapeError → String
  | .noItems shape => s!"'{shape.word}' object is not iterable"
  | .holdsNothing shape => s!"argument of type '{shape.word}' is not iterable"
  | .noNames .arr => "list indices must be integers or slices, not str"
  | .noNames .str => "string indices must be integers, not 'str'"
  | .noNames shape => s!"'{shape.word}' object is not subscriptable"
  | .notKey shape => s!"unhashable type: '{shape.word}'"
  | .notPair index => s!"cannot convert dictionary update sequence element #{index} to a sequence"
  | .lacks shape feature => s!"'{shape.word}' object has no attribute '{feature}'"
  | .notWhole shape => s!"'{shape.word}' object cannot be interpreted as an integer"
  | .notOrdered relation left right =>
      s!"'{relation}' not supported between instances of '{left.word}' and '{right.word}'"
  | .noDifference left right => s!"unsupported operand type(s) for -: '{left.word}' and '{right.word}'"
  | .tooLarge => "int too large to convert to float"
  | .notText index shape => s!"sequence item {index}: expected str instance, {shape.word} found"
  | .notPath shape => s!"expected str, bytes or os.PathLike object, not {shape.word}"
  | .notSettingsPath shape =>
      s!"stat: path should be string, bytes, os.PathLike or integer, not {shape.word}"
  | .notDocument shape => s!"the JSON object must be str, bytes or bytearray, not {shape.word}"

namespace Json

/-- The shape of a value. -/
def shape : Json → Shape
  | .null => .null
  | .bool _ => .bool
  | .int _ => .int
  | .float _ => .float
  | .str _ => .str
  | .arr _ => .arr
  | .obj _ => .obj

/-- Whether a value counts as true. -/
def truthy : Json → Bool
  | .null => false
  | .bool b => b
  | .int n => n ≠ 0
  | .float x => x.isNonzero
  | .str s => s ≠ ""
  | .arr items => !items.isEmpty
  | .obj fields => !fields.isEmpty

/-- The items of a value: characters of a text, items of a list, names of an object. -/
def items : Json → Except ShapeError (List Json)
  | .str s => .ok (s.toList.map fun c => .str (String.singleton c))
  | .arr items => .ok items
  | .obj fields => .ok (fields.map fun field => .str field.1)
  | value => .error (.noItems value.shape)

/-- Whether `part` stands somewhere in the text. -/
def holdsPart (part : List Char) : List Char → Bool
  | [] => part.isEmpty
  | c :: cs => part.isPrefixOf (c :: cs) || holdsPart part cs

/-- Whether a name occurs in a value: as a field, as an item, or as a part of the text. -/
def has (value : Json) (name : String) : Except ShapeError Bool :=
  match value with
  | .obj fields => .ok (Fields.has fields name)
  | .arr items => .ok (items.contains (.str name))
  | .str s => .ok (holdsPart name.toList s.toList)
  | value => .error (.holdsNothing value.shape)

/-- The value under a name; a name that an object lacks gives `null`. -/
def get (value : Json) (name : String) : Except ShapeError Json :=
  match value with
  | .obj fields => .ok ((Fields.get? fields name).getD .null)
  | value => .error (.noNames value.shape)

/-- The text that a value is, where it should name a file. -/
def asPath : Json → Except ShapeError String
  | .str s => .ok s
  | value => .error (.notPath value.shape)

/-- The text that a value is, where it should be the text of a document. -/
def asDocument : Json → Except ShapeError String
  | .str s => .ok s
  | value => .error (.notDocument value.shape)

/-- A value as a key: everything but a list or an object. -/
def asKey : Json → Except ShapeError Json
  | .arr _ => .error (.notKey .arr)
  | .obj _ => .error (.notKey .obj)
  | value => .ok value

end Json

end TapeMachine
