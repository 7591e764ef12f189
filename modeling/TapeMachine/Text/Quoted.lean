import TapeMachine.Text.Printable
/-!
# Quoted text

How a text is shown between quotes, so that the reader sees its exact characters: a quote that is free in
the text where there is one, a backslash before what would end or change the quotation, and the code in
hexadecimal for a character that is not printable.

* `Text.quoteMark` : the mark, single unless only the double one is free;
* `Text.quote` : the quotation.
-/

namespace TapeMachine.Text

/-- The lower-case hexadecimal digits of `n`, filled with zeros to `width`. -/
def hex (width n : Nat) : List Char :=
  let digits := Nat.toDigits 16 n
  List.replicate (width - digits.length) '0' ++ digits

/-- The shortest escape of a code: two, four or eight hexadecimal digits. -/
def codeEscape (c : Char) : List Char :=
  let n := c.toNat
  if n < 0x100 then '\\' :: 'x' :: hex 2 n
  else if n < 0x10000 then '\\' :: 'u' :: hex 4 n
  else '\\' :: 'U' :: hex 8 n

/-- One character inside a quotation with the mark `mark`. -/
def quoteChar (mark c : Char) : List Char :=
  if c = mark || c = '\\' then ['\\', c]
  else if c = '\n' then ['\\', 'n']
  else if c = '\r' then ['\\', 'r']
  else if c = '\t' then ['\\', 't']
  else if isPrintable c then [c]
  else codeEscape c

/-- The single mark, unless the text holds it and not the double one. -/
def quoteMark (cs : List Char) : Char :=
  if cs.contains '\'' && !cs.contains '"' then '"' else '\''

/-- The text between quotation marks. -/
def quote (s : String) : String :=
  let cs := s.toList
  let mark := quoteMark cs
  String.ofList (mark :: cs.flatMap (quoteChar mark) ++ [mark])

end TapeMachine.Text
