import TapeMachine.Literal.Fault
/-!
# Numbers in literals

A number is whole, in one of four bases, or decimal with a fraction or an exponent, or imaginary, with a letter
at its end. Single underscores may stand between digits. No letter, digit or underscore in ASCII may follow a
number, but for some words, which need no blank in front of them.

* `Literal.Number` : a number, of which only the whole ones are told apart by their value;
* `Literal.scanNumber` : the number that a text starts with and what follows it.
-/

namespace TapeMachine.Literal

/-- A number. -/
inductive Number where
  | whole (n : Nat)
  /-- A whole number of more digits than are read. -/
  | overlong (digits : Nat)
  | decimal
  | imaginary
  deriving DecidableEq, Repr

/-- Whether a character goes on a name or a number: letters, digits, the underscore and all that is beyond
ASCII. -/
def goesOn (c : Char) : Bool :=
  c.isAlphanum || c = '_' || 0x80 ≤ c.toNat

/-! ## 1. Digits -/

/-- What is left behind more digits, with single underscores in front of them. -/
def digitTail (isDigit : Char → Bool) (fault : List Char → Fault) : List Char → Except Fault (List Char)
  | '_' :: c :: cs => if isDigit c then digitTail isDigit fault cs else .error (fault (c :: cs))
  | ['_'] => .error (fault [])
  | c :: cs => if isDigit c then digitTail isDigit fault cs else .ok (c :: cs)
  | [] => .ok []

/-- What is left behind at least one digit. An underscore may stand in front of it. -/
def digitRun (isDigit : Char → Bool) (fault : List Char → Fault) : List Char → Except Fault (List Char)
  | '_' :: c :: cs => if isDigit c then digitTail isDigit fault cs else .error (fault (c :: cs))
  | c :: cs => if isDigit c then digitTail isDigit fault cs else .error (fault (c :: cs))
  | [] => .error (fault [])

/-- What is left behind more decimal digits. -/
def decimalTail (cs : List Char) : Except Fault (List Char) :=
  digitTail Char.isDigit (fun _ => .invalidNumber .decimal) cs

/-! ## 2. What may follow a number -/

/-- Whether a text starts with a word that ends there. -/
def startsWith (word : String) (cs : List Char) : Bool :=
  word.toList.isPrefixOf cs && !((cs.drop word.length).head?.any goesOn)

/-- Whether a text starts with a word that may follow a number without a blank. -/
def mayFollow (cs : List Char) : Bool :=
  ["and", "else", "for", "or", "not"].any (startsWith · cs) ||
  ["if", "in", "is"].any fun word => word.toList.isPrefixOf cs

/-- Checks that a number may end in front of a text. -/
def checkEnd (form : Notation) (cs : List Char) : Except Fault Unit :=
  if cs.head?.any (fun c => goesOn c && c.toNat < 0x80) && !mayFollow cs then .error (.invalidNumber form)
  else .ok ()

/-! ## 3. Numbers -/

/-- A number that ends, perhaps with the letter of the imaginary ones. -/
def endNumber (n : Number) (cs : List Char) : Except Fault (Number × List Char) :=
  match cs with
  | c :: rest =>
      if c = 'j' || c = 'J' then do
        checkEnd .imaginary rest
        return (.imaginary, rest)
      else do
        checkEnd .decimal cs
        return (n, cs)
  | [] => .ok (n, [])

/-- A number with an exponent, if there is one. -/
def endExponent (n : Number) (cs : List Char) : Except Fault (Number × List Char) :=
  match cs with
  | e :: rest =>
      if e = 'e' || e = 'E' then
        match rest with
        | c :: tail =>
            if c = '+' || c = '-' then
              match tail with
              | d :: more =>
                  if d.isDigit then do endNumber .decimal (← decimalTail more)
                  else .error (.invalidNumber .decimal)
              | [] => .error (.invalidNumber .decimal)
            else if c.isDigit then do endNumber .decimal (← decimalTail tail)
            else do
              checkEnd .decimal cs
              return (n, cs)
        | [] => do
            checkEnd .decimal cs
            return (n, cs)
      else endNumber n cs
  | [] => .ok (n, [])

/-- A number behind its point. -/
def endFraction (cs : List Char) : Except Fault (Number × List Char) :=
  match cs with
  | c :: rest =>
      if c.isDigit then do endExponent .decimal (← decimalTail rest)
      else endExponent .decimal cs
  | [] => .ok (.decimal, [])

/-- The value of a digit in any base. -/
def digitOf (c : Char) : Nat :=
  if c.isDigit then c.toNat - '0'.toNat else c.toLower.toNat - 'a'.toNat + 10

/-- The value of what stands in front of the rest of a text, underscores left out. -/
def valueBefore (base : Nat) (cs rest : List Char) : Nat :=
  ((cs.take (cs.length - rest.length)).filter (· ≠ '_')).foldl (fun n c => base * n + digitOf c) 0

/-- The decimal number that stands in front of the rest of a text. -/
def wholeBefore (cs rest : List Char) : Number :=
  let digits := ((cs.take (cs.length - rest.length)).filter (· ≠ '_')).length
  if Text.digitLimit < digits then .overlong digits else .whole (valueBefore 10 cs rest)

/-- The complaint about what stands in the place of a digit. -/
def digitFault (form : Notation) : List Char → Fault
  | c :: _ => if c.isDigit && form ≠ .decimal then .invalidDigit c form else .invalidNumber form
  | [] => .invalidNumber form

/-- A whole number in another base than ten, behind the letter of the base. -/
def basedNumber (form : Notation) (base : Nat) (isDigit : Char → Bool) (cs : List Char) :
    Except Fault (Number × List Char) := do
  let rest ← digitRun isDigit (digitFault form) cs
  if rest.head?.any Char.isDigit then .error (digitFault form rest)
  else
    checkEnd form rest
    return (.whole (valueBefore base cs rest), rest)

/-- What is left behind zeros, with single underscores in front of digits. -/
def zeros : List Char → Except Fault (List Char)
  | '_' :: c :: cs =>
      if c = '0' then zeros cs
      else if c.isDigit then .ok (c :: cs)
      else .error (.invalidNumber .decimal)
  | ['_'] => .error (.invalidNumber .decimal)
  | c :: cs => if c = '0' then zeros cs else .ok (c :: cs)
  | [] => .ok []

/-- A decimal number that starts with a zero. Other digits may follow only if it is not whole. -/
def zeroNumber (cs : List Char) : Except Fault (Number × List Char) := do
  let behindZeros ← zeros cs
  let isLong := behindZeros.head?.any Char.isDigit
  let rest ← if isLong then decimalTail behindZeros else .ok behindZeros
  match rest with
  | '.' :: more => endFraction more
  | _ =>
      if isLong && !(rest.head?.any fun c => c = 'e' || c = 'E' || c = 'j' || c = 'J') then .error .leadingZeros
      else endExponent (.whole 0) rest

/-- The number that a text starts with, and what follows it. The text starts with a digit, or with a point and
a digit. -/
def scanNumber (cs : List Char) : Except Fault (Number × List Char) :=
  match cs with
  | '.' :: rest => endFraction rest
  | '0' :: c :: rest =>
      if c = 'x' || c = 'X' then
        basedNumber .hexadecimal 16 (fun d => d.isDigit || ('a' ≤ d.toLower && d.toLower ≤ 'f')) rest
      else if c = 'o' || c = 'O' then basedNumber .octal 8 (fun d => '0' ≤ d && d ≤ '7') rest
      else if c = 'b' || c = 'B' then basedNumber .binary 2 (fun d => d = '0' || d = '1') rest
      else zeroNumber (c :: rest)
  | ['0'] => .ok (.whole 0, [])
  | _ :: rest => do
      let behind ← decimalTail rest
      match behind with
      | '.' :: more => endFraction more
      | _ => endExponent (wholeBefore cs behind) behind
  | [] => .error (.invalidNumber .decimal)

end TapeMachine.Literal
