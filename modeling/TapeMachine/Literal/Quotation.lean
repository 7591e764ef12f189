import TapeMachine.Literal.Parser
/-!
# Quotations

A quotation is a text between one or three marks, with letters in front of it that say how it is to be read: as
text or as bytes, with backslashes that mean themselves, or with expressions in braces. Quotations that stand
side by side make one text.

* `Literal.Quotation` : a quotation taken apart;
* `Literal.escapeFault?`, `Literal.byteFault?` : the first backslash that cannot be read;
* `Literal.fill` : the expressions in a quotation, each with a conversion and a form;
* `Literal.joined` : what quotations side by side make.
-/

namespace TapeMachine.Literal

/-! ## 1. Quotations taken apart -/

/-- A quotation taken apart. -/
structure Quotation where
  isBytes : Bool
  isRaw : Bool
  isFilled : Bool
  body : List Char

/-- The quotation that is written in a way. -/
def Quotation.ofWritten (cs : List Char) : Quotation :=
  let letters := (cs.takeWhile Char.isAlpha).map Char.toLower
  let marked := cs.drop letters.length
  let body := match marked with
    | a :: b :: c :: rest =>
        if a = b && b = c && 3 ≤ rest.length then rest.take (rest.length - 3) else (b :: c :: rest).dropLast
    | _ => []
  { isBytes := letters.contains 'b', isRaw := letters.contains 'r', isFilled := letters.contains 'f', body }

/-! ## 2. Escapes -/

/-- A character as eight hexadecimal digits behind a backslash. -/
def longEscape (c : Char) : List Char :=
  '\\' :: 'U' :: Text.hex 8 c.toNat

/-- A text in ASCII, in which places are counted: all other characters are spelled as escapes, and so is a
backslash in front of them. -/
def spelledOut : List Char → List Char
  | [] => []
  | '\\' :: c :: cs =>
      if 0x80 ≤ c.toNat then "\\u005c".toList ++ longEscape c ++ spelledOut cs
      else '\\' :: c :: spelledOut cs
  | c :: cs => (if 0x80 ≤ c.toNat then longEscape c else [c]) ++ spelledOut cs

/-- Whether a character is a hexadecimal digit. -/
def isHexDigit (c : Char) : Bool :=
  c.isDigit || ('a' ≤ c.toLower && c.toLower ≤ 'f')

/-- What is wrong with an escape of some hexadecimal digits that starts at a place. -/
def codeFault? (form : String) (count place : Nat) (cs : List Char) : Option EscapeFault :=
  let digits := (cs.take count).takeWhile isHexDigit
  if digits.length < count then some (.truncated form place (place + 1 + digits.length))
  else if 0x10ffff < digits.foldl (fun n c => 16 * n + digitOf c) 0 then
    some (.beyondUnicode place (place + 1 + count))
  else none

/-- What is wrong with an escape of a name that starts at a place. No name is known. -/
def nameFault (place : Nat) : List Char → EscapeFault
  | '{' :: cs =>
      let name := cs.takeWhile (· ≠ '}')
      if name.length = cs.length then .malformedName place (place + 2 + name.length)
      else if name.isEmpty then .malformedName place (place + 2)
      else .unknownName place (place + 3 + name.length)
  | _ => .malformedName place (place + 1)

/-- The first escape in a spelled out text that cannot be read. -/
def escapeFault? (place : Nat) : List Char → Option EscapeFault
  | '\\' :: c :: cs =>
      let fault? :=
        if c = 'x' then codeFault? "xXX" 2 place cs
        else if c = 'u' then codeFault? "uXXXX" 4 place cs
        else if c = 'U' then codeFault? "UXXXXXXXX" 8 place cs
        else if c = 'N' then some (nameFault place cs)
        else none
      fault?.or (escapeFault? (place + 2) cs)
  | _ :: cs => escapeFault? (place + 1) cs
  | [] => none

/-- The first escape in bytes that cannot be read. -/
def byteFault? (place : Nat) : List Char → Option EscapeFault
  | '\\' :: c :: cs =>
      if c = 'x' && ((cs.take 2).takeWhile isHexDigit).length < 2 then some (.badByte place)
      else byteFault? (place + 2) cs
  | _ :: cs => byteFault? (place + 1) cs
  | [] => none

/-- Checks the escapes of a text. -/
def checkEscapes (isRaw : Bool) (cs : List Char) : Except Fault Unit :=
  if isRaw then .ok ()
  else match escapeFault? 0 (spelledOut cs) with
    | some e => .error (.escape e)
    | none => .ok ()

/-! ## 3. Texts between expressions -/

/-- A fault as a complaint of this text. -/
def own {α : Type} (x : Except Fault α) : Except Complaint α :=
  x.mapError fun fault => { fault }

/-- The text of a filled quotation in front of a brace, and the rest of the quotation. -/
structure TextPart where
  /-- The characters of the text, the latest first. -/
  before : List Char
  /-- Whether the text ends with a brace that is written twice. -/
  isDoubled : Bool := false
  /-- The brace and what follows it, or what follows a brace that is written twice. -/
  rest : List Char

/-- The text in front of the next brace that is no part of an escape. In a form a brace stands for itself. -/
def cutText (isRaw isForm inName : Bool) (before : List Char) : List Char → Except Fault TextPart
  | [] => .ok { before, rest := [] }
  | '\\' :: 'N' :: c :: cs =>
      if isRaw || inName then cutText isRaw isForm inName ('\\' :: before) ('N' :: c :: cs)
      else cutText isRaw isForm (c = '{') (c :: 'N' :: '\\' :: before) cs
  | '\\' :: '\\' :: cs =>
      if isRaw || inName then cutText isRaw isForm inName ('\\' :: before) ('\\' :: cs)
      else cutText isRaw isForm false ('\\' :: '\\' :: before) cs
  | c :: cs =>
      if inName then cutText isRaw isForm (c ≠ '}') (c :: before) cs
      else if c = '{' || c = '}' then
        if isForm then .ok { before, rest := c :: cs }
        else if cs.head? = some c then .ok { before := c :: before, isDoubled := true, rest := cs.tail }
        else if c = '}' then .error .loneBrace
        else .ok { before, rest := c :: cs }
      else cutText isRaw isForm false (c :: before) cs
termination_by cs => cs.length
decreasing_by all_goals simp; try omega

/-! ## 4. Expressions in quotations -/

/-- What follows an expression in braces: the mark that ends it and all behind it. A quotation in the expression
is given by its mark and by whether there are three of them. -/
def endOfExpression (quoting : Option (Char × Bool)) (opened : List Char) : List Char → Except Fault (List Char)
  | [] => match quoting, opened with
      | some _, _ => .error .unterminatedInside
      | none, bracket :: _ => .error (.unmatchedInside bracket)
      | none, [] => .error .expectsBrace
  | c :: cs =>
      let isTriple := cs.take 2 = [c, c]
      let isLong := cs.head? = some '='
      if c = '\\' then .error .noBackslash
      else match quoting with
        | some (mark, isBlock) =>
            if c ≠ mark then endOfExpression quoting opened cs
            else if !isBlock then endOfExpression none opened cs
            else if isTriple then endOfExpression none opened (cs.drop 2)
            else endOfExpression quoting opened cs
        | none =>
            if c = '\'' || c = '"' then
              if isTriple then endOfExpression (some (c, true)) opened (cs.drop 2)
              else endOfExpression (some (c, false)) opened cs
            else if c = '[' || c = '{' || c = '(' then
              if levelLimit ≤ opened.length then .error .tooManyBrackets
              else endOfExpression none (c :: opened) cs
            else if c = '#' then .error .noComment
            else if opened.isEmpty && isLong && "!=<>".toList.contains c then
              endOfExpression none opened (cs.drop 1)
            else if opened.isEmpty && "!:=\x7d".toList.contains c then .ok (c :: cs)
            else match closes? c, opened with
              | some _, [] => .error (.unmatchedInside c)
              | some opening, bracket :: rest =>
                  if bracket = opening then endOfExpression none rest cs
                  else .error (.mismatchedInside c bracket)
              | none, _ => endOfExpression none opened cs
termination_by cs => cs.length
decreasing_by all_goals simp [List.length_drop]; try omega

/-- Checks that an expression in front of a mark is not blank. -/
def checkNotBlank (cs : List Char) (mark : Option Char) : Except Fault Unit :=
  if cs.all (" \t\n\x0c".toList.contains ·) then
    match mark with
    | some c => .error (if c = '}' then .emptyInside else .missingBefore c)
    | none => .error .emptyInside
  else .ok ()

/-- What follows an equals sign behind an expression and the blanks behind the sign. -/
def skipEquals (cs : List Char) : Except Fault (List Char) :=
  match cs with
  | '=' :: rest =>
      let behind := rest.dropWhile (" \t\n\x0b\x0c\r".toList.contains ·)
      if behind.isEmpty then .error .expectsBrace else .ok behind
  | _ => .ok cs

/-- What follows a conversion. -/
def skipConversion (cs : List Char) : Except Fault (List Char) :=
  match cs with
  | ['!'] => .error .expectsBrace
  | '!' :: c :: rest => if c = 's' || c = 'r' || c = 'a' then .ok rest else .error .badConversion
  | _ => .ok cs

/-- What is left of a filled quotation behind its texts and expressions. An expression may be followed by a form,
which may hold expressions itself, but these no form with expressions. Each step takes away a brace at least;
`fuel` is the number of characters and one. -/
def fill (inner : List Char → Except Complaint Unit) (isRaw : Bool) :
    Nat → Nat → List Char → Except Complaint (List Char)
  | 0, _, cs => .ok cs
  | fuel + 1, depth, cs => do
      let part ← own (cutText isRaw (depth ≠ 0) false [] cs)
      own (checkEscapes isRaw part.before.reverse)
      if part.isDoubled then fill inner isRaw fuel depth part.rest
      else match part.rest with
        | '{' :: written => do
            if 2 ≤ depth then own (.error .nestedTooDeeply)
            let behind ← own (endOfExpression none [] written)
            let expression := written.take (written.length - behind.length)
            own (checkNotBlank expression behind.head?)
            inner expression
            let behind ← own (skipEquals behind)
            let behind ← own (skipConversion behind)
            let behind ← match behind with
              | [':'] => own (.error .expectsBrace)
              | ':' :: form => fill inner isRaw fuel (depth + 1) form
              | _ => pure behind
            match behind with
            | '}' :: after => fill inner isRaw fuel depth after
            | _ => own (.error .expectsBrace)
        | [] => if depth = 0 then return [] else own (.error .expectsBrace)
        | rest => return rest

/-! ## 5. Quotations side by side -/

/-- Checks what stands in one of several quotations side by side. -/
def Quotation.check (inner : List Char → Except Complaint Unit) (areBytes : Bool) (q : Quotation) :
    Except Complaint Unit := do
  if q.isBytes && q.body.any (0x80 ≤ ·.toNat) then own (.error .notAscii)
  if q.isBytes && !q.isRaw then
    match byteFault? 0 q.body with
    | some e => own (.error (.escape e))
    | none => pure ()
  if !q.isBytes && !q.isFilled then own (checkEscapes q.isRaw q.body)
  if q.isBytes ≠ areBytes then own (.error .mixedTexts)
  if q.isFilled then
    let _ ← fill inner q.isRaw (q.body.length + 1) 0 q.body

/-- The text that quotations side by side make. -/
def joined (inner : List Char → Except Complaint Unit) (written : List (List Char)) :
    Except Complaint Expression := do
  let quotations := written.map Quotation.ofWritten
  let areBytes := quotations.head?.any (·.isBytes)
  for q in quotations do
    q.check inner areBytes
  return if quotations.any (·.isFilled) then .filled else if areBytes then .bytes else .text

end TapeMachine.Literal
