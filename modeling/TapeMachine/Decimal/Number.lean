import TapeMachine.Decimal.Double
/-!
# Numbers by value

Whole numbers and doubles share one order: that of their exact values. The difference of two doubles is the
double nearest to the exact difference.

* `Number`, `Number.compare` : a number of either kind by its value, and the order;
* `Double.minus` : the difference of two doubles;
* `Number.compare_ofInt` : **on whole numbers the order is their own.**
-/

namespace TapeMachine

/-- A number by its value: `m * 2 ^ e`, an infinity, or no number. -/
inductive Number where
  | finite (m e : Int)
  | infinite (negative : Bool)
  | nan
  deriving DecidableEq, Repr

/-- The number of `2 ^ unit` in `m * 2 ^ e`, where `unit` is at most `e`. -/
def inUnits (m e unit : Int) : Int :=
  m * Nat.pow 2 (e - unit).toNat

namespace Number

/-- A whole number. -/
def ofInt (n : Int) : Number :=
  .finite n 0

/-- The order of two numbers, if both are numbers. -/
def compare : Number → Number → Option Ordering
  | .nan, _ => none
  | _, .nan => none
  | .infinite a, .infinite b => some (Ord.compare b a)
  | .infinite a, .finite _ _ => some (if a then .lt else .gt)
  | .finite _ _, .infinite b => some (if b then .gt else .lt)
  | .finite m e, .finite n f =>
      some (Ord.compare (inUnits m e (min e f)) (inUnits n f (min e f)))

/-- **On whole numbers the order is their own.** -/
theorem compare_ofInt (m n : Int) : compare (ofInt m) (ofInt n) = some (Ord.compare m n) := by
  simp [compare, ofInt, inUnits]

end Number

namespace Double

/-- The value of a double. -/
def number : Double → Number
  | .finite negative mantissa exponent => .finite (if negative then -mantissa else mantissa) exponent
  | .infinite negative => .infinite negative
  | .nan => .nan

/-- The double nearest to a whole number, an infinity if it is too large. -/
def ofInt (n : Int) : Double :=
  ofRatio (n < 0) n.natAbs 1

/-- The double nearest to `m * 2 ^ e`. -/
def ofUnits (m e : Int) : Double :=
  if 0 ≤ e then ofRatio (m < 0) (m.natAbs <<< e.toNat) 1 else ofRatio (m < 0) m.natAbs (1 <<< (-e).toNat)

/-- The double nearest to the difference; a difference of zero is negative only as `-0.0 - 0.0`. -/
def minus (x y : Double) : Double :=
  match x, y with
  | .nan, _ => .nan
  | _, .nan => .nan
  | .infinite a, .infinite b => if a = b then .nan else .infinite a
  | .infinite a, .finite _ _ _ => .infinite a
  | .finite _ _ _, .infinite b => .infinite (!b)
  | .finite a m e, .finite b n f =>
      let unit := min e f
      let left := inUnits (if a then -m else m) e unit
      let right := inUnits (if b then -n else n) f unit
      if left = right then zero (a && !b && m = 0) else ofUnits (left - right) unit

end Double

end TapeMachine
