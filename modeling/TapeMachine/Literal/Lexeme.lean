import TapeMachine.Literal.Number
import TapeMachine.Text.Letter
import TapeMachine.Text.Printable
/-!
# The lexemes of an expression

A text is cut into words, numbers, quotations and marks. Inside brackets the ends of lines do not count;
outside they do, and so do the blanks at the start of a line. Cutting stops at the first fault. A fault is loud
if it is told before anything else that is wrong with the text.

* `Literal.Token`, `Literal.Lexeme` : what a text is cut into, with the line and the number of open brackets;
* `Literal.Source` : the lexemes of a text, and where cutting stops;
* `Literal.Source.ofText` : cutting.
-/

namespace TapeMachine.Literal

/-! ## 1. Lexemes -/

/-- The parts that a text is cut into. -/
inductive Token where
  | word (text : String)
  | number (n : Number)
  /-- A quotation as it is written, with the letters in front of it. -/
  | quotation (cs : List Char)
  | mark (text : String)
  | newline
  | indent
  | dedent
  | finish
  deriving DecidableEq, Repr

/-- A token, its line, and the number of brackets that are open behind it. -/
structure Lexeme where
  token : Token
  line : Nat
  level : Nat
  /-- Whether the end of the text has been seen when the token was cut. -/
  seesEnd : Bool
  deriving DecidableEq, Repr

/-- Whether the character behind a token is looked at before the token is known. A quotation is known by its last
mark unless nothing is in it, and a mark that is as long as any is known by itself. -/
def Token.looksBehind : Token → Bool
  | .quotation cs => (cs.dropWhile Char.isAlpha).length = 2
  | .mark text => text.length < 3
  | .newline | .indent | .dedent => false
  | .word _ | .number _ | .finish => true

/-- A bracket that is open, and its line. -/
structure Opened where
  bracket : Char
  line : Nat
  deriving DecidableEq, Repr

/-- The lexemes of a text. Unless cutting reaches the end, there is a fault behind them. -/
structure Source where
  lexemes : List Lexeme
  fault : Option Fault
  /-- The brackets that are open where cutting stops, the latest first. -/
  opened : List Opened

/-- Whether a fault is told before anything else. -/
def Fault.isLoud : Fault → Bool
  | .afterContinuation | .endsEarly | .unclosed _ => false
  | .unknownIndent | .mixedIndent | .tooIndented => false
  | _ => true

/-! ## 2. Words and quotations -/

/-- The word that a text starts with and what follows it, if its characters may stand in a name. -/
def cutWord (cs : List Char) : Except Fault (List Char × List Char) :=
  let word := cs.takeWhile goesOn
  let stray := match word with
    | c :: rest => if Text.startsName c then rest.find? (!Text.continuesName ·) else some c
    | [] => none
  match stray with
  | some c => .error (.strangeCharacter c)
  | none => .ok (word, cs.drop word.length)

/-- How many letters stand in front of the quotation that a text starts with. -/
def lettersBefore? (cs : List Char) : Option Nat :=
  let isQuote (c : Char) := c = '\'' || c = '"'
  let pairs := ["br", "rb", "fr", "rf"].map String.toList
  match cs with
  | a :: rest =>
      if isQuote a then some 0
      else if "bruf".toList.contains a.toLower then
        match rest with
        | b :: more =>
            if isQuote b then some 1
            else if pairs.contains [a.toLower, b.toLower] && more.head?.any isQuote then some 2
            else none
        | [] => none
      else none
  | [] => none

/-- Where a quotation ends that is open: behind as many marks in a row as it starts with. What is behind a
backslash does not end it. -/
def closeQuotation (mark : Char) (isBlock : Bool) (marks : Nat) : List Char → Option (List Char)
  | [] => none
  | '\\' :: _ :: cs => closeQuotation mark isBlock 0 cs
  | c :: cs =>
      if c = mark then
        if !isBlock || marks = 2 then some cs else closeQuotation mark isBlock (marks + 1) cs
      else if c = '\n' && !isBlock then none
      else closeQuotation mark isBlock 0 cs

/-- The characters of a quotation on one line that is not closed, up to the end of its line. -/
def openPart : List Char → List Char
  | [] => []
  | '\\' :: c :: cs => '\\' :: c :: openPart cs
  | c :: cs => if c = '\n' then [] else c :: openPart cs

/-- The number of line ends. -/
def lineEnds (cs : List Char) : Nat :=
  cs.count '\n'

/-- What follows the quotation that a text starts with on a line. -/
def skipQuotation (line : Nat) (cs : List Char) : Except Fault (List Char) :=
  match cs with
  | mark :: rest =>
      match rest with
      | b :: more =>
          if b = mark then
            match more with
            | c :: inner =>
                if c = mark then
                  match closeQuotation mark true 0 inner with
                  | some after => .ok after
                  | none => .error (.unterminatedBlock (line + lineEnds cs.dropLast))
                else .ok more
            | [] => .ok []
          else
            match closeQuotation mark false 0 rest with
            | some after => .ok after
            | none => .error (.unterminated (line + lineEnds (rest.dropLast.take (openPart rest).length)))
      | [] => .error (.unterminated line)
  | [] => .ok []

/-! ## 3. Marks -/

/-- The marks of more than one character. -/
def longMarks : List String :=
  ["**=", "...", "//=", "<<=", ">>=", "!=", "%=", "&=", "**", "*=", "+=", "-=", "->", "//", "/=", ":=", "<<",
   "<=", "<>", "==", ">=", ">>", "@=", "^=", "|="]

/-- The mark that a text starts with: the longest one. -/
def cutMark (cs : List Char) : String :=
  (longMarks.find? (·.toList.isPrefixOf cs)).getD (String.ofList (cs.take 1))

/-- The bracket that a bracket closes. -/
def closes? : Char → Option Char
  | ')' => some '('
  | ']' => some '['
  | '}' => some '{'
  | _ => none

/-- The greatest number of brackets that may be open. -/
def levelLimit : Nat := 200

/-- The open brackets behind a mark. -/
def turnBrackets (line : Nat) (opened : List Opened) (mark : String) : Except Fault (List Opened) :=
  match mark.toList with
  | [c] =>
      if c = '(' || c = '[' || c = '{' then
        if levelLimit ≤ opened.length then .error .tooNested else .ok (⟨c, line⟩ :: opened)
      else match closes? c, opened with
        | some _, [] => .error (.unmatched c)
        | some opening, o :: rest =>
            if o.bracket = opening then .ok rest
            else .error (.mismatched c o.bracket (if o.line = line then none else some o.line))
        | none, _ => if Text.isPrintable c then .ok opened else .error (.strangeCharacter c)
  | _ => .ok opened

/-! ## 4. The start of a line -/

/-- How far a line is indented, with tabs that reach to the next multiple of eight and with tabs of one. -/
structure Indent where
  wide : Nat
  narrow : Nat
  deriving DecidableEq, Repr

/-- What stands at the start of a line: how far it is indented, how many lines it goes on, and what follows. -/
structure Start where
  indent : Indent
  lines : Nat
  rest : List Char

/-- What stands at the start of a line. Where the line goes on behind a backslash, the blanks in front of the first
backslash count, if there are any. -/
def cutStart (indent : Indent) (held lines : Nat) : List Char → Except Fault Start
  | '\\' :: '\n' :: cs =>
      if cs.isEmpty then .error .endsEarly
      else cutStart indent (if held = 0 then indent.wide else held) (lines + 1) cs
  | c :: cs =>
      if c = ' ' then cutStart ⟨indent.wide + 1, indent.narrow + 1⟩ held lines cs
      else if c = '\t' then cutStart ⟨(indent.wide / 8 + 1) * 8, indent.narrow + 1⟩ held lines cs
      else if c = '\x0c' then cutStart ⟨0, 0⟩ held lines cs
      else if c = '\\' then .error .afterContinuation
      else .ok ⟨if held = 0 then indent else ⟨held, held⟩, lines, c :: cs⟩
  | [] => .ok ⟨if held = 0 then indent else ⟨held, held⟩, lines, []⟩

/-- The greatest number of indents. -/
def indentLimit : Nat := 100

/-- The indents that are left behind a line that is indented less, with the number of those that end. -/
def dropIndents (indent : Indent) : List Indent → Nat × List Indent
  | [] => (0, [])
  | i :: rest =>
      if indent.wide < i.wide then
        let (n, left) := dropIndents indent rest
        (n + 1, left)
      else (0, i :: rest)

/-- The tokens at the start of an indented line and the indents behind them, the latest first. -/
def turnIndent (indents : List Indent) (indent : Indent) : Except Fault (List Token × List Indent) :=
  let latest := indents.head?.getD ⟨0, 0⟩
  if indent.wide = latest.wide then
    if indent.narrow = latest.narrow then .ok ([], indents) else .error .mixedIndent
  else if latest.wide < indent.wide then
    if indentLimit ≤ indents.length + 1 then .error .tooIndented
    else if indent.narrow ≤ latest.narrow then .error .mixedIndent
    else .ok ([.indent], indent :: indents)
  else
    let (ended, left) := dropIndents indent indents
    let outer := left.head?.getD ⟨0, 0⟩
    if indent.wide ≠ outer.wide then .error .unknownIndent
    else if indent.narrow ≠ outer.narrow then .error .mixedIndent
    else .ok (List.replicate ended .dedent, left)

/-! ## 5. Cutting -/

/-- Where cutting is. -/
structure Place where
  line : Nat := 1
  opened : List Opened := []
  indents : List Indent := []
  /-- Whether a line starts here, outside all brackets. -/
  isFresh : Bool := true

namespace Source

/-- No lexemes and a fault. -/
def failed (place : Place) (fault : Fault) : Source :=
  ⟨[], some fault, place.opened⟩

/-- A token in front of the text that follows it, and of the lexemes of that text. -/
def push (place : Place) (level : Nat) (token : Token) (after : List Char) (source : Source) : Source :=
  { source with lexemes := ⟨token, place.line, level, after.isEmpty && token.looksBehind⟩ :: source.lexemes }

/-- The end of a text: all brackets must be closed. -/
def atEnd (place : Place) (isClean : Bool) : Source :=
  match place.opened with
  | o :: _ => failed place (.unclosed o.bracket)
  | [] => if isClean then push place 0 .finish [] ⟨[], none, []⟩ else failed place .endsEarly

/-- What follows a comment: its line end. -/
def dropComment (cs : List Char) : List Char :=
  cs.dropWhile (· ≠ '\n')

/-- The lexemes of a text from a place on. Each step takes at least one character away, or ends the start of a
line; `fuel` is twice the number of characters and two. -/
def cutFrom : Nat → Place → List Char → Source
  | 0, place, _ => failed place .endsEarly
  | fuel + 1, place, cs =>
      let level := place.opened.length
      if place.isFresh then
        match cutStart ⟨0, 0⟩ 0 0 cs with
        | .error fault => failed place fault
        | .ok start =>
            let place := { place with line := place.line + start.lines }
            if start.rest.head? = some '#' || start.rest.head? = some '\n' then
              match dropComment start.rest with
              | _ :: after => cutFrom fuel { place with line := place.line + 1 } after
              | [] => atEnd place true
            else match turnIndent place.indents start.indent with
              | .error fault => failed place fault
              | .ok (tokens, indents) =>
                  let source := cutFrom fuel { place with indents, isFresh := false } start.rest
                  tokens.foldr (fun token => push place level token start.rest) source
      else match cs with
        | [] => atEnd place true
        | c :: rest =>
            if c = ' ' || c = '\t' || c = '\x0c' then cutFrom fuel place rest
            else if c = '#' then cutFrom fuel place (dropComment cs)
            else if c = '\n' then
              let next := { place with line := place.line + 1, isFresh := place.opened.isEmpty }
              if place.opened.isEmpty then push place level .newline rest (cutFrom fuel next rest)
              else cutFrom fuel next rest
            else if c = '\\' then
              match rest with
              | '\n' :: [] => atEnd place false
              | '\n' :: after => cutFrom fuel { place with line := place.line + 1 } after
              | _ => failed place .afterContinuation
            else match lettersBefore? cs with
              | some letters =>
                  match skipQuotation place.line (cs.drop letters) with
                  | .error fault => failed place fault
                  | .ok after =>
                      let written := cs.take (cs.length - after.length)
                      push place level (.quotation written) after
                        (cutFrom fuel { place with line := place.line + lineEnds written } after)
              | none =>
                  if c.isDigit || (c = '.' && rest.head?.any Char.isDigit) then
                    match scanNumber cs with
                    | .error fault => failed place fault
                    | .ok (n, after) => push place level (.number n) after (cutFrom fuel place after)
                  else if goesOn c then
                    match cutWord cs with
                    | .error fault => failed place fault
                    | .ok (word, after) =>
                        push place level (.word (String.ofList word)) after (cutFrom fuel place after)
                  else
                    let mark := cutMark cs
                    match turnBrackets place.line place.opened mark with
                    | .error fault => failed place fault
                    | .ok opened =>
                        let after := cs.drop mark.length
                        push place opened.length (.mark mark) after (cutFrom fuel { place with opened } after)

/-- The lexemes of a text. -/
def ofText (cs : List Char) : Source :=
  cutFrom (2 * cs.length + 2) {} cs

end Source

end TapeMachine.Literal
