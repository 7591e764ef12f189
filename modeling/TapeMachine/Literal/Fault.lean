import TapeMachine.Text.Integer
import TapeMachine.Text.Quoted
/-!
# What can be wrong with a literal

A literal is a value written as an expression. A text may fail to be one because it cannot be cut into words
and marks, because these do not make an expression, or because the expression has no value of its own.

* `Literal.Fault` : the causes;
* `Literal.Fault.message` : their wording;
* `Literal.Fault.isSyntactic` : whether the text is no expression at all.
-/

namespace TapeMachine.Literal

/-- The ways to write a number. -/
inductive Notation where
  | binary
  | octal
  | decimal
  | hexadecimal
  | imaginary
  deriving DecidableEq, Repr

/-- The word for a way to write a number. -/
def Notation.word : Notation → String
  | .binary => "binary"
  | .octal => "octal"
  | .decimal => "decimal"
  | .hexadecimal => "hexadecimal"
  | .imaginary => "imaginary"

/-- Where a quotation cannot be read: a place, or a stretch from its first to its last place. -/
inductive EscapeFault where
  | truncated (form : String) (first last : Nat)
  | beyondUnicode (first last : Nat)
  | malformedName (first last : Nat)
  | unknownName (first last : Nat)
  | badByte (place : Nat)
  deriving DecidableEq, Repr

/-- The wording of an escape that cannot be read. -/
def EscapeFault.message : EscapeFault → String
  | .truncated form first last => unreadable first last s!"truncated \\{form} escape"
  | .beyondUnicode first last => unreadable first last "illegal Unicode character"
  | .malformedName first last => unreadable first last "malformed \\N character escape"
  | .unknownName first last => unreadable first last "unknown Unicode character name"
  | .badByte place => s!"(value error) invalid \\x escape at position {place}"
where
  /-- A stretch that cannot be read, and why. -/
  unreadable (first last : Nat) (reason : String) : String :=
    s!"(unicode error) 'unicodeescape' codec can't decode bytes in position {first}-{last}: {reason}"

/-- What is wrong with a text that should be a literal. -/
inductive Fault where
  -- Words and marks.
  /-- The text holds the character of code zero. -/
  | zeroCharacter
  | strangeCharacter (c : Char)
  | invalidNumber (form : Notation)
  | invalidDigit (digit : Char) (form : Notation)
  | leadingZeros
  | overlong (digits : Nat)
  | unterminated (line : Nat)
  | unterminatedBlock (line : Nat)
  | afterContinuation
  | endsEarly
  | unclosed (opening : Char)
  | unmatched (closing : Char)
  /-- A bracket is closed by another one; the line is given when it was opened on another line. -/
  | mismatched (closing opening : Char) (line : Option Nat)
  | tooNested
  | unexpectedIndent
  | unexpectedUnindent
  | unknownIndent
  | mixedIndent
  | tooIndented
  -- Quotations.
  | escape (e : EscapeFault)
  | notAscii
  | mixedTexts
  | nestedTooDeeply
  | noBackslash
  | noComment
  | tooManyBrackets
  | unmatchedInside (bracket : Char)
  | mismatchedInside (closing opening : Char)
  | unterminatedInside
  | expectsBrace
  | loneBrace
  | emptyInside
  | missingBefore (mark : Char)
  | badConversion
  -- Expressions.
  | noExpression
  | forgottenComma
  | forgottenElse
  | forgottenParentheses (word : String)
  | assigned (what : String)
  | assignedHere (what : String)
  | named (what : String)
  | singleEquals
  | assignedArgument
  | starredGroup
  | doubleStarredGroup
  | starredComprehension
  | doubleStarredComprehension
  | bareTarget
  | bareGenerator
  | positionalAfterNamed
  | positionalAfterSpread
  | spreadAfterNamed
  | starredValue
  | missingValue
  | missingColon
  | missingDefault
  | unorderedParameters
  | groupedParameters
  | nothingBeforeSlash
  | secondSlash
  | slashAfterStar
  | slashStar
  | bareStar
  | starredDefault
  | secondStar
  | spreadDefault
  | afterSpread
  /-- A fault in an expression that stands in a quotation. -/
  | inside (e : Fault)
  -- Values.
  | noLiteral
  /-- An entry of a dictionary has no key. -/
  | noKey
  | unhashable (what : String)
  | tooLarge
  deriving DecidableEq, Repr

namespace Fault

/-- The code of a character in capital hexadecimal digits, at least four. -/
def code (c : Char) : String :=
  let digits := (Nat.toDigits 16 c.toNat).map Char.toUpper
  String.ofList (List.replicate (4 - digits.length) '0' ++ digits)

/-- The wording of a fault. -/
def message : Fault → String
  | .zeroCharacter => "source code string cannot contain null bytes"
  | .strangeCharacter c =>
      if Text.isPrintable c then s!"invalid character '{c}' (U+{code c})"
      else s!"invalid non-printable character U+{code c}"
  | .invalidNumber form => s!"invalid {form.word} literal"
  | .invalidDigit digit form => s!"invalid digit '{digit}' in {form.word} literal"
  | .leadingZeros =>
      "leading zeros in decimal integer literals are not permitted; use an 0o prefix for octal integers"
  | .overlong digits => Text.overlongMessage digits ++
      " - Consider hexadecimal for huge integer literals to avoid decimal conversion limits."
  | .unterminated line => s!"unterminated string literal (detected at line {line})"
  | .unterminatedBlock line => s!"unterminated triple-quoted string literal (detected at line {line})"
  | .afterContinuation => "unexpected character after line continuation character"
  | .endsEarly => "unexpected EOF while parsing"
  | .unclosed opening => s!"'{opening}' was never closed"
  | .unmatched closing => s!"unmatched '{closing}'"
  | .mismatched closing opening none =>
      s!"closing parenthesis '{closing}' does not match opening parenthesis '{opening}'"
  | .mismatched closing opening (some line) =>
      s!"closing parenthesis '{closing}' does not match opening parenthesis '{opening}' on line {line}"
  | .tooNested => "too many nested parentheses"
  | .unexpectedIndent => "unexpected indent"
  | .unexpectedUnindent => "unexpected unindent"
  | .unknownIndent => "unindent does not match any outer indentation level"
  | .mixedIndent => "inconsistent use of tabs and spaces in indentation"
  | .tooIndented => "too many levels of indentation"
  | .escape e => e.message
  | .notAscii => "bytes can only contain ASCII literal characters"
  | .mixedTexts => "cannot mix bytes and nonbytes literals"
  | .nestedTooDeeply => "f-string: expressions nested too deeply"
  | .noBackslash => "f-string expression part cannot include a backslash"
  | .noComment => "f-string expression part cannot include '#'"
  | .tooManyBrackets => "f-string: too many nested parenthesis"
  | .unmatchedInside bracket => s!"f-string: unmatched '{bracket}'"
  | .mismatchedInside closing opening =>
      s!"f-string: closing parenthesis '{closing}' does not match opening parenthesis '{opening}'"
  | .unterminatedInside => "f-string: unterminated string"
  | .expectsBrace => "f-string: expecting '\x7d'"
  | .loneBrace => "f-string: single '\x7d' is not allowed"
  | .emptyInside => "f-string: empty expression not allowed"
  | .missingBefore mark => s!"f-string: expression required before '{mark}'"
  | .badConversion => "f-string: invalid conversion character: expected 's', 'r', or 'a'"
  | .noExpression => "invalid syntax"
  | .forgottenComma => "invalid syntax. Perhaps you forgot a comma?"
  | .forgottenElse => "expected 'else' after 'if' expression"
  | .forgottenParentheses word =>
      s!"Missing parentheses in call to '{word}'. Did you mean {word}(...)?"
  | .assigned what => s!"cannot assign to {what}"
  | .assignedHere what => s!"cannot assign to {what} here. Maybe you meant '==' instead of '='?"
  | .named what => s!"cannot use assignment expressions with {what}"
  | .singleEquals => "invalid syntax. Maybe you meant '==' or ':=' instead of '='?"
  | .assignedArgument => "expression cannot contain assignment, perhaps you meant \"==\"?"
  | .starredGroup => "cannot use starred expression here"
  | .doubleStarredGroup => "cannot use double starred expression here"
  | .starredComprehension => "iterable unpacking cannot be used in comprehension"
  | .doubleStarredComprehension => "dict unpacking cannot be used in dict comprehension"
  | .bareTarget => "did you forget parentheses around the comprehension target?"
  | .bareGenerator => "Generator expression must be parenthesized"
  | .positionalAfterNamed => "positional argument follows keyword argument"
  | .positionalAfterSpread => "positional argument follows keyword argument unpacking"
  | .spreadAfterNamed => "iterable argument unpacking follows keyword argument unpacking"
  | .starredValue => "cannot use a starred expression in a dictionary value"
  | .missingValue => "expression expected after dictionary key and ':'"
  | .missingColon => "':' expected after dictionary key"
  | .missingDefault => "expected default value expression"
  | .unorderedParameters => "non-default argument follows default argument"
  | .groupedParameters => "Lambda expression parameters cannot be parenthesized"
  | .nothingBeforeSlash => "at least one argument must precede /"
  | .secondSlash => "/ may appear only once"
  | .slashAfterStar => "/ must be ahead of *"
  | .slashStar => "expected comma between / and *"
  | .bareStar => "named arguments must follow bare *"
  | .starredDefault => "var-positional argument cannot have default value"
  | .secondStar => "* argument may appear only once"
  | .spreadDefault => "var-keyword argument cannot have default value"
  | .afterSpread => "arguments cannot follow var-keyword argument"
  | .inside e => "f-string: " ++ e.message
  | .noLiteral => "malformed node or string"
  | .noKey => "malformed node or string: None"
  | .unhashable what => s!"unhashable type: '{what}'"
  | .tooLarge => "int too large to convert to float"

/-- Whether the text is no expression, and not merely an expression without a value of its own. -/
def isSyntactic : Fault → Bool
  | .zeroCharacter | .noLiteral | .noKey | .unhashable _ | .tooLarge => false
  | _ => true

end Fault

end TapeMachine.Literal
