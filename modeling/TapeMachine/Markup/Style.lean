import TapeMachine.Markup.Error
import TapeMachine.Text.Case
import TapeMachine.Text.Integer
import TapeMachine.Text.Pieces
/-!
# Names of styles

A style is named by words: attributes such as `bold`, each with a short form, colours, a background behind
`on`. Names that say the same in other words have one normal form; what is no such name is left as it is.

* `Style`, `Style.ofWords` : what the words of a name say;
* `Style.normalName` : the normal form of a name.
-/

namespace TapeMachine

/-- What the name of a style says. -/
structure Style where
  /-- The attributes that are set and those that are taken away, the latest first. -/
  attributes : List (String × Bool) := []
  colour : Option String := none
  background : Option String := none
  link : Option String := none
  deriving DecidableEq, Repr

namespace Style

/-! ## 1. Words -/

/-- The attributes in their order, each with its spellings. -/
def attributeTable : List (String × List String) :=
  [("bold", ["bold", "b"]), ("dim", ["dim", "d"]), ("italic", ["italic", "i"]),
   ("underline", ["underline", "u"]), ("blink", ["blink"]), ("blink2", ["blink2"]),
   ("reverse", ["reverse", "r"]), ("conceal", ["conceal", "c"]), ("strike", ["strike", "s"]),
   ("underline2", ["underline2", "uu"]), ("frame", ["frame"]), ("encircle", ["encircle"]),
   ("overline", ["overline", "o"])]

/-- The attribute that a word spells. -/
def attribute? (word : String) : Option String :=
  (attributeTable.find? (·.2.contains word)).map (·.1)

/-- The numbers behind `grey` and `gray`. -/
def greyNumbers : List String :=
  ["0", "37", "53", "63", "69", "84", "100", "3", "7", "11", "15", "19", "23", "27", "30", "35", "39", "42", "46",
   "50", "54", "58", "62", "66", "70", "74", "78", "82", "85", "89", "93"]

/-- The names of colours: stems, each with the endings it takes. -/
def colourTable : List (String × List String) :=
  [("default", [""]), ("black", [""]), ("red", ["", "3", "1"]), ("green", ["", "4", "3", "1"]),
   ("yellow", ["", "4", "3", "2", "1"]), ("blue", ["", "3", "1"]), ("magenta", ["", "3", "2", "1"]),
   ("cyan", ["", "3", "2", "1"]), ("white", [""]), ("bright_black", [""]), ("bright_red", [""]),
   ("bright_green", [""]), ("bright_yellow", [""]), ("bright_blue", [""]), ("bright_magenta", [""]),
   ("bright_cyan", [""]), ("bright_white", [""]), ("grey", greyNumbers), ("gray", greyNumbers),
   ("navy_blue", [""]), ("dark_blue", [""]), ("dark_green", [""]), ("deep_sky_blue", ["4", "3", "2", "1"]),
   ("dodger_blue", ["3", "2", "1"]), ("spring_green", ["4", "3", "2", "1"]), ("turquoise", ["4", "2"]),
   ("dark_cyan", [""]), ("light_sea_green", [""]), ("dark_turquoise", [""]), ("medium_spring_green", [""]),
   ("dark_red", [""]), ("deep_pink", ["4", "3", "2", "1"]), ("purple", ["4", "3", ""]), ("blue_violet", [""]),
   ("orange", ["4", "3", "1"]), ("medium_purple", ["4", "3", "", "2", "1"]), ("slate_blue", ["3", "1"]),
   ("royal_blue", ["1"]), ("chartreuse", ["4", "3", "2", "1"]), ("dark_sea_green", ["4", "", "3", "2", "1"]),
   ("pale_turquoise", ["4", "1"]), ("steel_blue", ["", "3", "1"]), ("cornflower_blue", [""]),
   ("cadet_blue", [""]), ("sky_blue", ["3", "2", "1"]), ("pale_green", ["3", "1"]),
   ("sea_green", ["3", "2", "1"]), ("aquamarine", ["3", "1"]), ("medium_turquoise", [""]),
   ("dark_slate_gray", ["2", "3", "1"]), ("dark_magenta", [""]), ("dark_violet", [""]),
   ("light_pink", ["4", "3", "1"]), ("plum", ["4", "3", "2", "1"]), ("wheat", ["4", "1"]),
   ("light_slate_grey", [""]), ("light_slate_gray", [""]), ("light_slate_blue", [""]),
   ("dark_olive_green", ["3", "2", "1"]), ("light_sky_blue", ["3", "1"]), ("light_green", [""]),
   ("medium_violet_red", [""]), ("dark_orange", ["3", ""]), ("indian_red", ["", "1"]),
   ("hot_pink", ["3", "2", ""]), ("medium_orchid", ["3", "", "1"]), ("dark_goldenrod", [""]),
   ("light_salmon", ["3", "1"]), ("rosy_brown", [""]), ("gold", ["3", "1"]), ("dark_khaki", [""]),
   ("navajo_white", ["3", "1"]), ("light_steel_blue", ["3", "", "1"]), ("light_cyan", ["3", "1"]),
   ("green_yellow", [""]), ("orchid", ["", "2", "1"]), ("pink", ["3", "1"]), ("violet", [""]),
   ("light_goldenrod", ["3", "2", "1"]), ("tan", [""]), ("misty_rose", ["3", "1"]), ("thistle", ["3", "1"]),
   ("khaki", ["3", "1"]), ("light_yellow", ["3"]), ("honeydew", ["2"]), ("orange_red", ["1"]),
   ("salmon", ["1"]), ("light_coral", [""]), ("pale_violet_red", ["1"]), ("sandy_brown", [""]),
   ("cornsilk", ["1"])]

/-- Whether digits write a number of one byte. -/
def isByte (digits : List Char) : Bool :=
  !digits.isEmpty && digits.all Char.isDigit &&
    (digits.foldl (fun n c => 10 * n + (c.toNat - '0'.toNat)) 0 ≤ 255)

/-- Whether a character is a digit of a hexadecimal number in small letters. -/
def isHexDigit (c : Char) : Bool :=
  c.isDigit || ('a' ≤ c && c ≤ 'f')

/-- The text between a start and a closing parenthesis at its end. -/
def inParentheses? (start : String) (word : List Char) : Option (List Char) :=
  if start.toList.isPrefixOf word && word.getLast? = some ')' then
    some ((word.drop start.length).dropLast)
  else none

/-- The number that a part of a colour is, in digits of any script. -/
def primary (digits : List Char) : Except MarkupError Nat :=
  if digits.isEmpty then .error .emptyColourPart
  else if Text.digitLimit < digits.length then .error (.overlongColourPart digits.length)
  else .ok (Text.digitsValue (digits.filterMap Text.digitValue?))

/-- Whether three parts with commas between them say how much red, green and blue there is. -/
def arePrimaries (cs : List Char) : Except MarkupError Bool := do
  if cs.isEmpty || !cs.all fun c => c = ',' || (Text.digitValue? c).isSome then return false
  else match Text.pieces ',' cs with
    | [red, green, blue] =>
        let parts ← [red, green, blue].mapM primary
        return parts.all (· ≤ 255)
    | _ => return false

/-- Whether a word names a colour: by name, by number, or by its parts of red, green and blue. -/
def isColour (word : String) : Except MarkupError Bool :=
  let cs := word.toList
  let isNamed := colourTable.any fun (stem, endings) => endings.any fun ending => stem ++ ending = word
  let isNumbered := match cs with
    | '#' :: digits => digits.length = 6 && digits.all isHexDigit
    | _ => (inParentheses? "color(" cs).any fun digits => digits.length ≤ 3 && isByte digits
  if isNamed || isNumbered then .ok true
  else match inParentheses? "rgb(" cs with
    | some parts => arePrimaries parts
    | none => .ok false

/-! ## 2. Names -/

/-- What more words say, if each of them says something. -/
def addWords (style : Style) : List String → Except MarkupError (Option Style)
  | [] => return some style
  | word :: rest =>
      match Text.lowered word, rest with
      | "on", colour :: rest => do
          let colour := Text.lowered colour
          if ← isColour colour then addWords { style with background := some colour } rest else return none
      | "not", word :: rest =>
          match attribute? word with
          | some name => addWords { style with attributes := (name, false) :: style.attributes } rest
          | none => return none
      | "link", target :: rest => addWords { style with link := some target } rest
      | word, rest =>
          match attribute? word with
          | some name => addWords { style with attributes := (name, true) :: style.attributes } rest
          | none => do
              if ← isColour word then addWords { style with colour := some word } rest else return none

/-- What the words of a name say. -/
def ofWords (words : List String) : Except MarkupError (Option Style) :=
  addWords {} words

/-- The attributes of a style in their order. -/
def attributeWords (style : Style) : List String :=
  attributeTable.flatMap fun (name, _) =>
    match style.attributes.lookup name with
    | some true => [name]
    | some false => ["not", name]
    | none => []

/-- The words of a style in their order; a style that says nothing is `none`. -/
def words (style : Style) : List String :=
  let said := style.attributeWords ++ style.colour.toList ++ (style.background.map (["on", ·])).getD [] ++
    (style.link.map (["link", ·])).getD []
  if said.isEmpty then ["none"] else said

/-- The normal form of the name of a style. -/
def normalName (name : String) : Except MarkupError String := do
  if Text.trim name = "none" then return "none"
  else match ← ofWords ((Text.wordsOf name.toList).map String.ofList) with
    | some style => return " ".intercalate style.words
    | none => return Text.lowered (Text.trim name)

end Style

end TapeMachine
