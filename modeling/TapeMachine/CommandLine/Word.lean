import TapeMachine.CommandLine.Usage
import TapeMachine.Text.Integer
/-!
# Words of a command line

Each argument is an operand, an option, or something that looks like an option and is none. An option may be
shortened as long as it stays the only one with that start, and its value may be attached to it: behind an
equals sign, or right behind a short spelling. Behind two lone dashes all arguments are operands.

* `CommandLine.Word` : an argument and what it is taken for;
* `Usage.words` : the words of a command line, or why one of them is ambiguous.
-/

namespace TapeMachine.CommandLine

/-! ## 1. Words -/

/-- What is attached to an option, and whether the option is spelled with one dash. -/
structure Attached where
  short : Bool
  text : List Char
  deriving DecidableEq, Repr

/-- Whether a spelling has one dash only. -/
def isShort (spelling : List Char) : Bool :=
  !(List.isPrefixOf ['-', '-'] spelling)

/-- An argument and what it is taken for. -/
inductive Word where
  | operand (text : String)
  /-- The two lone dashes. -/
  | separator
  | option (spec : OptionSpec) (attached : Option Attached)
  /-- It looks like an option and is none. -/
  | stray (text : String)
  deriving DecidableEq, Repr

/-- The characters in front of the first equals sign, and what is attached behind it. -/
def cutAtEquals (cs : List Char) : List Char × Option Attached :=
  match cs.dropWhile (· ≠ '=') with
  | [] => (cs, none)
  | _ :: value =>
      let front := cs.takeWhile (· ≠ '=')
      (front, some ⟨isShort front, value⟩)

/-- Whether a character is a decimal digit of any script. -/
def isDigit (c : Char) : Bool :=
  (Text.digitValue? c).isSome

/-- The characters without one line feed at their end. -/
def dropLineFeed (cs : List Char) : List Char :=
  if cs.getLast? = some '\n' then cs.dropLast else cs

/-- Whether an argument is a negative number in plain notation, which is taken for an operand. -/
def looksNegative (cs : List Char) : Bool :=
  match dropLineFeed cs with
  | '-' :: cs =>
      match cs.dropWhile isDigit with
      | [] => !cs.isEmpty
      | '.' :: fraction => !fraction.isEmpty && fraction.all isDigit
      | _ => false
  | _ => false

namespace Usage

variable (u : Usage)

/-! ## 2. Short forms -/

/-- The spellings that start as an argument with two dashes does in front of its equals sign, each with the
option that the argument then is. -/
def longCandidates (cs : List Char) : List (String × Word) :=
  let (front, attached) := cutAtEquals cs
  u.spellings.filterMap fun (spelling, spec) =>
    if front.isPrefixOf spelling.toList then some (spelling, .option spec attached) else none

/-- The spellings that an argument with one dash can stand for: one of two characters, with the rest of the
argument attached, or one that starts with the whole argument. -/
def shortCandidates (cs : List Char) : List (String × Word) :=
  u.spellings.filterMap fun (spelling, spec) =>
    if spelling.toList = cs.take 2 then some (spelling, .option spec (some ⟨true, cs.drop 2⟩))
    else if cs.isPrefixOf spelling.toList then some (spelling, .option spec none)
    else none

/-- The spellings that an argument can stand for without being one. -/
def candidates (cs : List Char) : List (String × Word) :=
  if isShort cs then u.shortCandidates cs else u.longCandidates cs

/-! ## 3. Classification -/

/-- What an argument is that starts with a dash and is no spelling of an option. -/
def guess (cs : List Char) : Except UsageError Word :=
  match u.candidates cs with
  | [(_, word)] => .ok word
  | [] =>
      let text := String.ofList cs
      .ok (if looksNegative cs || cs.contains ' ' then .operand text else .stray text)
  | several => .error (.ambiguous (String.ofList cs) (several.map (·.1)))

/-- What an argument is that starts with a dash. -/
def dashed (text : String) : Except UsageError Word :=
  match u.find? text with
  | some spec => .ok (.option spec none)
  | none =>
      if text = "-" then .ok (.operand text)
      else
        let (front, attached) := cutAtEquals text.toList
        match attached, u.find? (String.ofList front) with
        | some value, some spec => .ok (.option spec (some value))
        | _, _ => u.guess text.toList

/-- What an argument is. -/
def word (text : String) : Except UsageError Word :=
  if text.toList.head? = some '-' then u.dashed text else .ok (.operand text)

/-- The words of a command line. -/
def words : List String → Except UsageError (List Word)
  | [] => .ok []
  | text :: rest =>
      if text = "--" then .ok (.separator :: rest.map .operand)
      else do
        let word ← u.word text
        return word :: (← words rest)

end Usage

end TapeMachine.CommandLine
