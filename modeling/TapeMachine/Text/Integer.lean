import TapeMachine.Text.Blank
/-!
# Integers as people write them

A decimal integer: perhaps a sign, then digits of any script, with at most one underscore between two
of them, and blanks around the whole. Very long ones are refused.

* `Text.digitValue?` : the value of a decimal digit of any script (Unicode 14.0, category `Nd`);
* `Text.readInteger` : the number a text stands for, if it stands for one;
* `Text.overlongMessage` : the complaint about a number that is too long.
-/

namespace TapeMachine.Text

/-- The zeros of all scripts: the nine code points behind each are the digits one to nine. -/
def digitZeros : List Nat :=
  [0x30, 0x660, 0x6f0, 0x7c0, 0x966, 0x9e6, 0xa66, 0xae6, 0xb66, 0xbe6, 0xc66, 0xce6, 0xd66, 0xde6, 0xe50,
  0xed0, 0xf20, 0x1040, 0x1090, 0x17e0, 0x1810, 0x1946, 0x19d0, 0x1a80, 0x1a90, 0x1b50, 0x1bb0, 0x1c40,
  0x1c50, 0xa620, 0xa8d0, 0xa900, 0xa9d0, 0xa9f0, 0xaa50, 0xabf0, 0xff10, 0x104a0, 0x10d30, 0x11066,
  0x110f0, 0x11136, 0x111d0, 0x112f0, 0x11450, 0x114d0, 0x11650, 0x116c0, 0x11730, 0x118e0, 0x11950,
  0x11c50, 0x11d50, 0x11da0, 0x16a60, 0x16ac0, 0x16b50, 0x1d7ce, 0x1d7d8, 0x1d7e2, 0x1d7ec, 0x1d7f6,
  0x1e140, 0x1e2f0, 0x1e950, 0x1fbf0]

/-- The value of a decimal digit of any script. -/
def digitValue? (c : Char) : Option Nat :=
  (digitZeros.find? fun first => first ≤ c.toNat && c.toNat < first + 10).map (c.toNat - ·)

/-- The number that decimal digits write, the most significant first. -/
def digitsValue (digits : List Nat) : Nat :=
  digits.foldl (fun n d => 10 * n + d) 0

/-- Digits with at most one underscore between two of them, at least one digit. -/
def readDigits : List Char → Option (List Nat)
  | [] => none
  | [c] => (digitValue? c).map ([·])
  | c :: '_' :: cs => do return (← digitValue? c) :: (← readDigits cs)
  | c :: cs => do return (← digitValue? c) :: (← readDigits cs)

/-- The greatest number of digits that is read. -/
def digitLimit : Nat := 4300

/-- The complaint about a number of more digits. -/
def overlongMessage (digits : Nat) : String :=
  s!"Exceeds the limit ({digitLimit} digits) for integer string conversion: value has {digits} digits; " ++
    "use sys.set_int_max_str_digits() to increase the limit"

/-- Blanks that may stand around a number: all but the information separators. -/
def isNumberBlank (c : Char) : Bool :=
  isBlank c && !(0x1c ≤ c.toNat && c.toNat < 0x20)

/-- The integer that a text stands for. -/
def readInteger (s : String) : Option Int :=
  let trimmed := (((s.toList.dropWhile isNumberBlank).reverse).dropWhile isNumberBlank).reverse
  let (negative, unsigned) := match trimmed with
    | '-' :: cs => (true, cs)
    | '+' :: cs => (false, cs)
    | cs => (false, cs)
  do
    let digits ← readDigits unsigned
    guard (digits.length ≤ digitLimit)
    let n : Int := digitsValue digits
    return if negative then -n else n

end TapeMachine.Text
