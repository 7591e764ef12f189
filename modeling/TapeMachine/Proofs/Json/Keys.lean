import Mathlib.Algebra.Order.Field.Power
import Mathlib.Data.Rat.Cast.Order
import Mathlib.Tactic.NormNum
import TapeMachine.Json.Compare
/-!
# Values as keys

Keys are the same when they mean the same: numbers their exact values, however they are written, and everything else
itself. So one, one as a double and true are one key. As this compares meanings, it is an equivalence.

* `Number.Exact`, `Number.exact` : the exact value of a number;
* `Number.compare_eq_some_eq_iff`, `Json.sameNumber_iff` : **numbers are the same when their exact values are equal**;
* `Json.IsKey`, `Json.meaning`, `Json.IsKey.same_iff` : **keys are the same when they mean the same**.
-/

namespace TapeMachine

/-! ## 1. Exact values -/

namespace Number

/-- The exact value of a number. -/
inductive Exact where
  | rational (q : ℚ)
  | infinite (negative : Bool)
  | nan

/-- The exact value of a number. -/
def exact : Number → Exact
  | .finite m e => .rational (m * 2 ^ e)
  | .infinite negative => .infinite negative
  | .nan => .nan

/-- A number in smaller units is the exact value over the unit. -/
theorem cast_inUnits {m e unit : Int} (h : unit ≤ e) : (inUnits m e unit : ℚ) = m * 2 ^ e / 2 ^ unit := by
  have hpow : ((Nat.pow 2 (e - unit).toNat : Nat) : ℚ) = 2 ^ (e - unit) := by
    rw [Nat.pow_eq, Nat.cast_pow, ← zpow_natCast, Int.toNat_of_nonneg (by omega)]
    norm_num
  rw [inUnits, Int.cast_mul, Int.cast_natCast, hpow, zpow_sub₀ (by norm_num), mul_div_assoc]

/-- **Two numbers compare as equal when their exact values are equal.** -/
theorem compare_eq_some_eq_iff {m e n f : Int} :
    compare (.finite m e) (.finite n f) = some .eq ↔ exact (.finite m e) = exact (.finite n f) := by
  have hunit : (2 : ℚ) ^ min e f ≠ 0 := zpow_ne_zero _ (by norm_num)
  have hcast : inUnits m e (min e f) = inUnits n f (min e f) ↔ (m * 2 ^ e : ℚ) = n * 2 ^ f := by
    rw [← Int.cast_inj (α := ℚ), cast_inUnits (by omega), cast_inUnits (by omega), div_left_inj' hunit]
  rw [compare, Option.some.injEq, Std.compare_eq_iff_eq, hcast, exact, exact, Exact.rational.injEq]

end Number

namespace Json

/-- **Numbers are the same when their exact values are equal.** -/
theorem sameNumber_iff {a b : Number} : sameNumber a b = true ↔ a.exact = b.exact := by
  cases a with
  | nan => cases b <;> simp [sameNumber, Number.compare, Number.exact]
  | infinite negative =>
      cases b with
      | nan => simp [sameNumber, Number.compare, Number.exact]
      | infinite other => simpa [sameNumber, Number.compare, Number.exact] using eq_comm
      | finite n f => cases negative <;> simp [sameNumber, Number.compare, Number.exact]
  | finite m e =>
      cases b with
      | nan => simp [sameNumber, Number.compare, Number.exact]
      | infinite negative => cases negative <;> simp [sameNumber, Number.compare, Number.exact]
      | finite n f => simp [sameNumber, Number.compare_eq_some_eq_iff]

/-! ## 2. Keys -/

/-- Whether a value can be a key: everything but a list or an object. -/
def IsKey : Json → Prop
  | .arr _ | .obj _ => False
  | _ => True

theorem asKey_eq_ok_iff {value key : Json} : value.asKey = .ok key ↔ key = value ∧ value.IsKey := by
  cases value <;> simp [asKey, IsKey, eq_comm]

/-- What a value means as a key: a number its exact value, everything else itself. -/
def meaning (value : Json) : Number.Exact ⊕ Json :=
  match value.number? with
  | some n => .inl n.exact
  | none => .inr value

variable {a b c : Json} {name : String}

/-- **Keys are the same when they mean the same.** -/
theorem IsKey.same_iff (ha : a.IsKey) : a.same b = true ↔ a.meaning = b.meaning := by
  cases a with
  | arr => exact ha.elim
  | obj => exact ha.elim
  | null => cases b <;> simp [same, meaning, number?]
  | str => cases b <;> simp [same, meaning, number?, eq_comm]
  | bool => cases b <;> simp [same, meaning, number?, sameNumber_iff]
  | int => cases b <;> simp [same, meaning, number?, sameNumber_iff]
  | float => cases b <;> simp [same, meaning, number?, sameNumber_iff]

/-- Keys that are the same are the same as the same values. -/
theorem IsKey.same_congr (ha : a.IsKey) (hb : b.IsKey) (h : a.same b = true) : a.same c = b.same c := by
  rw [Bool.eq_iff_iff, ha.same_iff, hb.same_iff, ha.same_iff.mp h]

/-- Only a text is the same as a text. -/
theorem same_str_right : a.same (.str name) = decide (a = .str name) := by
  cases a <;> simp [same, number?, eq_comm]

end Json

end TapeMachine
