import TapeMachine.Decimal.Double
/-!
# The shortest decimal of a number

The text of a double-precision number is the shortest decimal that reads back as the same number, and of
those the nearest one. For 1, 2, … digits in turn, the two points of that decimal grid around the number
are tested against the interval of all reals that round to it, in exact arithmetic.

* `Double.shortest` : the digits and the place of the point;
* `DecimalLayout` : the choices of a written form, such as where positional notation ends;
* `Double.text` : the written form.
-/

namespace TapeMachine

/-- A positive decimal: the value is `digits * 10 ^ exponent`. -/
structure Decimal where
  digits : Nat
  exponent : Int
  deriving DecidableEq, Repr

namespace Double

/-- The interval of the reals that round to a number, over one denominator; its ends belong to it when the
mantissa is even. -/
structure RoundingInterval where
  low : Nat
  center : Nat
  high : Nat
  den : Nat
  closed : Bool

/-- The rounding interval of `mantissa * 2 ^ exponent`. Below a power of two the neighbours are closer. -/
def roundingInterval (mantissa : Nat) (exponent : Int) : RoundingInterval :=
  let gap := if mantissa = Nat.pow 2 52 ∧ leastExponent < exponent then 1 else 2
  let up := (exponent - 2).toNat
  let down := (2 - exponent).toNat
  { low := (4 * mantissa - gap) <<< up
    center := (4 * mantissa) <<< up
    high := (4 * mantissa + 2) <<< up
    den := 1 <<< down
    closed := mantissa % 2 = 0 }

/-- The number of decimal digits of a positive number, and 0 for 0. -/
def digitCount (n : Nat) : Nat :=
  if n = 0 then 0 else (Nat.toDigits 10 n).length

/-- The place `k` of the point: the value lies between the powers `k - 1` and `k` of ten. -/
def pointPlace (num den : Nat) : Int :=
  if den ≤ num then digitCount (num / den)
  else 1 - (digitCount ((den + num - 1) / num - 1) : Int)

/-- The nearest point with `count` digits inside the interval, if the interval holds one. -/
def onGrid (i : RoundingInterval) (place : Int) (count : Nat) : Option Decimal :=
  let exponent := place - count
  let scaleUp := Nat.pow 10 (-exponent).toNat
  let scaleDown := Nat.pow 10 exponent.toNat
  let floor := i.center * scaleUp / (i.den * scaleDown)
  let inside (d : Nat) : Bool :=
    let x := d * scaleDown * i.den
    if i.closed then i.low * scaleUp ≤ x && x ≤ i.high * scaleUp
    else i.low * scaleUp < x && x < i.high * scaleUp
  match inside floor, inside (floor + 1) with
  | true, true =>
      let num := i.center * scaleUp
      some ⟨roundDiv num (i.den * scaleDown), exponent⟩
  | true, false => some ⟨floor, exponent⟩
  | false, true => some ⟨floor + 1, exponent⟩
  | false, false => none

/-- The shortest decimal that rounds to `mantissa * 2 ^ exponent`. Seventeen digits are always enough. -/
def shortest (mantissa : Nat) (exponent : Int) : Decimal :=
  let i := roundingInterval mantissa exponent
  let place := pointPlace i.center i.den
  ((List.range 17).findSome? fun n => onGrid i place (n + 1)).getD ⟨mantissa, 0⟩

end Double

/-- The choices of a written form of numbers. -/
structure DecimalLayout where
  /-- The least exponent of ten that is written with a point instead of an exponent. -/
  leastPositional : Int
  /-- The greatest exponent of ten that is written with a point. -/
  greatestPositional : Int
  /-- The least number of digits of a written exponent. -/
  exponentDigits : Nat
  infinity : String
  nan : String

/-- Numbers from 10⁻⁴ up to 10¹⁶ are positional, and a whole one keeps a zero behind the point. -/
def DecimalLayout.plain : DecimalLayout :=
  { leastPositional := -4, greatestPositional := 15, exponentDigits := 2, infinity := "inf", nan := "nan" }

/-- Drops the zeros at the end of a digit sequence. -/
def dropTrailingZeros (digits : List Char) : List Char :=
  (digits.reverse.dropWhile (· = '0')).reverse

namespace DecimalLayout

/-- Digits with the point behind the first `place` of them. -/
def positional (digits : List Char) (place : Int) : List Char :=
  if place ≤ 0 then '0' :: '.' :: (List.replicate (-place).toNat '0' ++ digits)
  else
    let whole := place.toNat
    let padded := digits ++ List.replicate (whole - digits.length) '0'
    let fraction := padded.drop whole
    padded.take whole ++ '.' :: (if fraction.isEmpty then ['0'] else fraction)

/-- Digits with the point behind the first one, and an exponent. -/
def scientific (layout : DecimalLayout) (digits : List Char) (exponent : Int) : List Char :=
  let fraction := digits.drop 1
  let power := Nat.toDigits 10 exponent.natAbs
  digits.take 1 ++ (if fraction.isEmpty then [] else '.' :: fraction) ++
    'e' :: (if exponent < 0 then '-' else '+') ::
    (List.replicate (layout.exponentDigits - power.length) '0' ++ power)

/-- A positive decimal as digits, with the point or an exponent where the layout asks for it. -/
def write (layout : DecimalLayout) (d : Decimal) : List Char :=
  let all := Nat.toDigits 10 d.digits
  let digits := dropTrailingZeros all
  let exponent := d.exponent + all.length - 1
  if layout.leastPositional ≤ exponent ∧ exponent ≤ layout.greatestPositional then
    positional digits (exponent + 1)
  else layout.scientific digits exponent

end DecimalLayout

/-- The written form of a number. -/
def Double.text (layout : DecimalLayout) : Double → String
  | .finite negative mantissa exponent =>
      (if negative then "-" else "") ++
        if mantissa = 0 then "0.0" else String.ofList (layout.write (shortest mantissa exponent))
  | .infinite negative => (if negative then "-" else "") ++ layout.infinity
  | .nan => layout.nan

end TapeMachine
