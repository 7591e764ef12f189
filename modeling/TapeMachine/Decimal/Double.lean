/-!
# Double-precision numbers

A number of the 64-bit binary format as a value: a sign, a whole mantissa and a power of two, or an
infinity, or no number. Only what reading and writing decimals needs: there is no arithmetic.

* `Double.ofRatio`, `Double.ofDecimal` : the nearest number to a fraction or a decimal, a half going to the
  even mantissa.
-/

namespace TapeMachine

/-- A number of the 64-bit format: `finite s m e` stands for `m * 2 ^ e`, negated when `s` holds. -/
inductive Double where
  | finite (negative : Bool) (mantissa : Nat) (exponent : Int)
  | infinite (negative : Bool)
  | nan
  deriving DecidableEq, Repr

/-- The quotient rounded to the nearest natural number, a half to the even neighbour. -/
def roundDiv (num den : Nat) : Nat :=
  let q := num / den
  let r := num % den
  if 2 * r < den then q
  else if den < 2 * r then q + 1
  else if q % 2 = 0 then q else q + 1

namespace Double

/-- The exponent of the smallest positive number. -/
def leastExponent : Int := -1074

/-- The exponent of the greatest finite number. -/
def greatestExponent : Int := 971

/-- The zero of a sign. -/
def zero (negative : Bool) : Double :=
  .finite negative 0 leastExponent

/-- The number nearest to `num / den`, where `den` is positive. -/
def ofRatio (negative : Bool) (num den : Nat) : Double :=
  if num = 0 then zero negative else
  let size : Int := (num.log2 : Int) - den.log2
  -- the quotient lies between the powers `size - 1` and `size + 1` of two
  let below := if 0 ≤ size then num < den <<< size.toNat else num <<< (-size).toNat < den
  let exponent := max leastExponent (if below then size - 53 else size - 52)
  let mantissa :=
    if 0 ≤ exponent then roundDiv num (den <<< exponent.toNat)
    else roundDiv (num <<< (-exponent).toNat) den
  let (mantissa, exponent) := if mantissa = Nat.pow 2 53 then (Nat.pow 2 52, exponent + 1) else (mantissa, exponent)
  if greatestExponent < exponent then .infinite negative else .finite negative mantissa exponent

/-- The number nearest to `digits * 10 ^ exponent`. -/
def ofDecimal (negative : Bool) (digits : Nat) (exponent : Int) : Double :=
  let size : Int := (digits.log2 : Int)
  if digits = 0 then zero negative
  -- powers of ten far outside the format need no fraction
  else if 400 < exponent then .infinite negative
  else if size + 3 * exponent < -1200 then zero negative
  else if 0 ≤ exponent then ofRatio negative (digits * Nat.pow 10 exponent.toNat) 1
  else ofRatio negative digits (Nat.pow 10 (-exponent).toNat)

/-- Whether the number is not a zero. -/
def isNonzero : Double → Bool
  | .finite _ mantissa _ => mantissa ≠ 0
  | .infinite _ => true
  | .nan => true

end Double

end TapeMachine
