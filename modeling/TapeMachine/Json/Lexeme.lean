import TapeMachine.Json.Value
import TapeMachine.Text.Integer
/-!
# The lexemes of a JSON text

A text is cut into punctuation marks, strings, and constants (numbers and words), each with the offset of
its first character. Cutting does not judge: what is no lexeme becomes a stray character, and a string that
cannot be read becomes a broken one with its own complaint, which counts only where a string may stand.

Texts here are lists of scalar values, so none can hold half of a pair of units without the other half. The escape of
such a half is noted in the token of its string and never read as another character: a text that is right otherwise is
refused for it (`Problem.loneHalf`). This is a limit of the library, since in a list of units the half would stand for
itself.

* `Json.Lexeme.cut` : the lexemes of a text and the offset of its end;
* `Json.Lexeme.scanString_shorter`, `scanUnsigned_rest_lt` : what is left behind a lexeme is shorter.
-/

namespace TapeMachine.Json

/-- What can be wrong with a JSON text. -/
inductive Problem where
  | expectingValue
  | expectingName
  | expectingColon
  | expectingComma
  | extraData
  | unterminatedString
  | controlCharacter
  | unknownEscape
  | badCodeEscape
  /-- Half of a pair is escaped without the other half. -/
  | loneHalf
  | byteOrderMark
  deriving DecidableEq, Repr

/-- The parts that a text is cut into. -/
inductive Token where
  /-- One of the six marks of the format. -/
  | mark (c : Char)
  /-- A string, and the offset of the first escape in it that is half of a pair alone. Such halves are left out. -/
  | text (s : String) (lone? : Option Nat := none)
  | constant (value : Json)
  /-- An integer with more digits than are read. -/
  | overlong (digits : Nat)
  /-- A string with a problem at an offset of its own. -/
  | broken (problem : Problem) (offset : Nat)
  | stray (c : Char)
  deriving DecidableEq, Repr

/-- Where half of a pair stands alone in a token. -/
def Token.lone? : Token → Option Nat
  | .text _ lone? => lone?
  | _ => none

/-- A token and the offset of its first character. -/
structure Lexeme where
  token : Token
  offset : Nat
  deriving DecidableEq, Repr

namespace Lexeme

/-! ## 1. Strings -/

/-- The value of a hexadecimal digit. -/
def hexDigit? (c : Char) : Option Nat :=
  if '0' ≤ c && c ≤ '9' then some (c.toNat - '0'.toNat)
  else if 'a' ≤ c && c ≤ 'f' then some (c.toNat - 'a'.toNat + 10)
  else if 'A' ≤ c && c ≤ 'F' then some (c.toNat - 'A'.toNat + 10)
  else none

/-- The unit that four hexadecimal digits write. -/
def unit? (a b c d : Char) : Option Nat := do
  return (((← hexDigit? a) * 16 + (← hexDigit? b)) * 16 + (← hexDigit? c)) * 16 + (← hexDigit? d)

/-- The character of an escape of one letter. -/
def shortEscape? : Char → Option Char
  | '"' => some '"'
  | '\\' => some '\\'
  | '/' => some '/'
  | 'b' => some '\x08'
  | 'f' => some '\x0c'
  | 'n' => some '\n'
  | 'r' => some '\r'
  | 't' => some '\t'
  | _ => none

/-- The character of a unit that stands alone. Half of a pair has none. -/
def charOfUnit? (n : Nat) : Option Char :=
  if 0xd800 ≤ n && n < 0xe000 then none else some (Char.ofNat n)

/-- The character of two units, if they are the halves of a pair. -/
def charOfPair? (high low : Nat) : Option Char :=
  if 0xd800 ≤ high && high < 0xdc00 && 0xdc00 ≤ low && low < 0xe000 then
    some (Char.ofNat (0x10000 + (high - 0xd800) * 0x400 + (low - 0xdc00)))
  else none

/-- The character of a pair whose first half is `high`, if the text goes on with the escape of the other. -/
def lowHalf? (high : Nat) : List Char → Option Char
  | '\\' :: 'u' :: e :: f :: g :: h :: _ :: _ => (unit? e f g h).bind (charOfPair? high)
  | _ => none

/-- A piece that was read, the offset behind it and the rest of the text. -/
structure Scanned (α : Type) where
  value : α
  offset : Nat
  rest : List Char

/-- The characters of a string up to the closing quote; `opening` is the offset of its first quote, and `lone?` that
of the first half of a pair that stood alone so far. A code escape needs its four digits and at least one more
character. -/
def scanString (opening : Nat) (offset : Nat) (lone? : Option Nat) (done : List Char) :
    List Char → Except (Problem × Nat) (Scanned Token)
  | [] => .error (.unterminatedString, opening)
  | '"' :: rest => .ok ⟨.text (String.ofList done.reverse) lone?, offset + 1, rest⟩
  | ['\\'] => .error (.unterminatedString, opening)
  | '\\' :: 'u' :: a :: b :: c :: d :: next :: rest =>
      match unit? a b c d with
      | none => .error (.badCodeEscape, offset + 1)
      | some high =>
          match lowHalf? high (next :: rest) with
          | some pair => scanString opening (offset + 12) lone? (pair :: done) (rest.drop 5)
          | none =>
              match charOfUnit? high with
              | some c => scanString opening (offset + 6) lone? (c :: done) (next :: rest)
              | none => scanString opening (offset + 6) (some (lone?.getD offset)) done (next :: rest)
  | '\\' :: 'u' :: _ => .error (.badCodeEscape, offset + 1)
  | '\\' :: c :: rest =>
      match shortEscape? c with
      | some d => scanString opening (offset + 2) lone? (d :: done) rest
      | none => .error (.unknownEscape, offset)
  | c :: rest =>
      if c.toNat < 0x20 then .error (.controlCharacter, offset)
      else scanString opening (offset + 1) lone? (c :: done) rest
termination_by cs => cs.length

/-- **What is left behind a string is shorter.** -/
theorem scanString_shorter {opening offset : Nat} {lone? : Option Nat} {done cs : List Char} {s : Scanned Token}
    (h : scanString opening offset lone? done cs = .ok s) : s.rest.length < cs.length := by
  fun_induction scanString opening offset lone? done cs <;> simp_all <;> grind

/-! ## 2. Numbers and words -/

/-- The decimal digits of the format. -/
def isDigit (c : Char) : Bool :=
  '0' ≤ c && c ≤ '9'

/-- The digits in front, and the rest. -/
def spanDigits (cs : List Char) : List Char × List Char :=
  (cs.takeWhile isDigit, cs.dropWhile isDigit)

/-- The digits behind a point, if there is a point with digits behind it. -/
def fraction? : List Char → Option (List Char × List Char)
  | '.' :: cs =>
      let (digits, rest) := spanDigits cs
      if digits.isEmpty then none else some (digits, rest)
  | _ => none

/-- The value of an exponent and the length of its text, if there is one with digits. -/
def exponent? : List Char → Option (Int × Nat × List Char)
  | c :: cs =>
      if c = 'e' || c = 'E' then
        let (negative, signs, cs) := match cs with
          | '-' :: cs => (true, 1, cs)
          | '+' :: cs => (false, 1, cs)
          | cs => (false, 0, cs)
        let (digits, rest) := spanDigits cs
        let size : Int := Text.digitsValue (digits.map fun d => d.toNat - '0'.toNat)
        if digits.isEmpty then none else some (if negative then -size else size, 1 + signs + digits.length, rest)
      else none
  | [] => none

/-- The whole part of a number: a single zero, or digits that start with another one. -/
def whole? : List Char → Option (List Char × List Char)
  | '0' :: cs => some (['0'], cs)
  | cs =>
      let (digits, rest) := spanDigits cs
      if digits.isEmpty then none else some (digits, rest)

/-- The number that digits write. -/
def numeral (digits : List Char) : Nat :=
  Text.digitsValue (digits.map fun d => d.toNat - '0'.toNat)

/-- A number without its sign. -/
def scanUnsigned (negative : Bool) (offset : Nat) (cs : List Char) : Option (Scanned Token) :=
  match whole? cs with
  | none => none
  | some (whole, rest) =>
      let offset := offset + whole.length
      let (digits, rest, offset) := match fraction? rest with
        | some (digits, rest) => (digits, rest, offset + 1 + digits.length)
        | none => ([], rest, offset)
      match exponent? rest with
      | some (power, size, rest) =>
          let x := Double.ofDecimal negative (numeral (whole ++ digits)) (power - digits.length)
          some ⟨.constant (.float x), offset + size, rest⟩
      | none =>
          if digits.isEmpty then
            let n : Int := numeral whole
            let token := if Text.digitLimit < whole.length then .overlong whole.length
              else .constant (.int (if negative then -n else n))
            some ⟨token, offset, rest⟩
          else
            let x := Double.ofDecimal negative (numeral (whole ++ digits)) (-(digits.length : Int))
            some ⟨.constant (.float x), offset, rest⟩

/-- The words of the format and what they stand for. -/
def words : List (List Char × Json) :=
  [("null".toList, .null), ("true".toList, .bool true), ("false".toList, .bool false),
   ("NaN".toList, .float .nan), ("Infinity".toList, .float (.infinite false)),
   ("-Infinity".toList, .float (.infinite true))]

/-- The lexeme that starts with the character `c`, which is no blank, no mark and no quote. -/
def scanOther (offset : Nat) (c : Char) (cs : List Char) : Scanned Token :=
  match words.find? fun word => word.1.isPrefixOf (c :: cs) with
  | some (word, value) => ⟨.constant value, offset + word.length, cs.drop (word.length - 1)⟩
  | none =>
      let number := if c = '-' then scanUnsigned true (offset + 1) cs else scanUnsigned false offset (c :: cs)
      match number with
      | some scanned => scanned
      | none => ⟨.stray c, offset + 1, cs⟩

/-! ## 3. Progress -/

section Progress

variable {cs : List Char}

theorem spanDigits_rest_le (cs : List Char) : (spanDigits cs).2.length ≤ cs.length :=
  (List.dropWhile_suffix isDigit).length_le

theorem fraction?_rest_le {p : List Char × List Char} (h : fraction? cs = some p) :
    p.2.length ≤ cs.length := by
  unfold fraction? at h
  split at h
  · rename_i rest
    have hle := spanDigits_rest_le rest
    grind
  · simp at h

theorem exponent?_rest_le {p : Int × Nat × List Char} (h : exponent? cs = some p) :
    p.2.2.length ≤ cs.length := by
  unfold exponent? at h
  split at h
  · rename_i c rest
    have hle := spanDigits_rest_le rest
    have hsign := spanDigits_rest_le (rest.drop 1)
    split at h
    · split at h
      grind
    · simp at h
  · simp at h

theorem spanDigits_rest_lt (h : (spanDigits cs).1 ≠ []) : (spanDigits cs).2.length < cs.length := by
  have hlen := congrArg List.length (List.takeWhile_append_dropWhile (p := isDigit) (l := cs))
  have hpos := List.length_pos_iff.2 h
  simp only [List.length_append] at hlen
  simp only [spanDigits] at hpos ⊢
  omega

theorem whole?_rest_lt {p : List Char × List Char} (h : whole? cs = some p) :
    p.2.length < cs.length := by
  have hlt : (spanDigits cs).1 ≠ [] → _ := spanDigits_rest_lt
  unfold whole? at h
  split at h <;> grind

/-- **What is left behind a number is shorter.** -/
theorem scanUnsigned_rest_lt {negative : Bool} {offset : Nat} {s : Scanned Token}
    (h : scanUnsigned negative offset cs = some s) : s.rest.length < cs.length := by
  unfold scanUnsigned at h
  split at h
  · simp at h
  · rename_i whole rest hw
    have h1 := whole?_rest_lt hw
    have h2 : ∀ {p}, fraction? rest = some p → p.2.length ≤ rest.length := fraction?_rest_le
    have h3 : ∀ {cs : List Char} {p}, exponent? cs = some p → p.2.2.length ≤ cs.length :=
      exponent?_rest_le
    grind

/-- What is left behind any other lexeme is no longer than what followed its first character. -/
theorem scanOther_rest_le (offset : Nat) (c : Char) (cs : List Char) :
    (scanOther offset c cs).rest.length ≤ cs.length := by
  have h1 : ∀ {n s}, scanUnsigned true n cs = some s → s.rest.length < cs.length := scanUnsigned_rest_lt
  have h2 : ∀ {n s}, scanUnsigned false n (c :: cs) = some s → s.rest.length < (c :: cs).length :=
    scanUnsigned_rest_lt
  unfold scanOther
  split
  · simp
  · grind

end Progress

/-! ## 4. Cutting -/

/-- The blanks of the format. -/
def isGap (c : Char) : Bool :=
  c = ' ' || c = '\t' || c = '\n' || c = '\r'

/-- The six marks of the format. -/
def isMark (c : Char) : Bool :=
  ['\x7b', '\x7d', '[', ']', ',', ':'].contains c

/-- The lexemes of a text that starts at `offset`, and the offset of its end. -/
def cut (offset : Nat) : List Char → List Lexeme × Nat
  | [] => ([], offset)
  | c :: cs =>
      if isGap c then cut (offset + 1) cs
      else if isMark c then
        let (lexemes, stop) := cut (offset + 1) cs
        (⟨.mark c, offset⟩ :: lexemes, stop)
      else if c = '"' then
        match _h : scanString offset (offset + 1) none [] cs with
        | .ok scanned =>
            let (lexemes, stop) := cut scanned.offset scanned.rest
            (⟨scanned.value, offset⟩ :: lexemes, stop)
        | .error (problem, place) => ([⟨.broken problem place, offset⟩], offset)
      else
        let scanned := scanOther offset c cs
        let (lexemes, stop) := cut scanned.offset scanned.rest
        (⟨scanned.value, offset⟩ :: lexemes, stop)
termination_by cs => cs.length
decreasing_by
  · simp
  · simp
  · have hlt := scanString_shorter _h
    simp only [List.length_cons]
    omega
  · have hle := scanOther_rest_le offset c cs
    simp only [List.length_cons]
    omega

end Lexeme

end TapeMachine.Json
