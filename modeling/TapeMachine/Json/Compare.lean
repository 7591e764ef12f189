import TapeMachine.Decimal.Number
import TapeMachine.Json.Shape
/-!
# Comparing values

Values of any shape are compared by what they say and not by how it is written: numbers by their values, true
and false as the numbers one and zero, objects whatever the order of their fields.

* `Json.same`, `Json.equals` : whether two values are the same, and whether they count as equal;
* `Json.atMost`, `Json.minus` : the order and the difference of numbers;
* `Json.sortedDistinct` : values in increasing order, each once;
* `Json.joinTexts` : texts side by side;
* `Json.same_str` : **texts are the same only when they are equal.**
-/

namespace TapeMachine.Json

/-! ## 1. Numbers -/

/-- The number that a value is. -/
def number? : Json → Option Number
  | .bool b => some (.ofInt (if b then 1 else 0))
  | .int n => some (.ofInt n)
  | .float x => some x.number
  | _ => none

/-- Whether two numbers have the same value; what is no number is the same as itself. -/
def sameNumber (a b : Number) : Bool :=
  a.compare b = some .eq || (a = .nan && b = .nan)

/-! ## 2. Equality -/

mutual

/-- Whether two values are the same. -/
def same : Json → Json → Bool
  | .null, b => b = .null
  | .bool x, b => match b.number? with
      | some n => sameNumber (.ofInt (if x then 1 else 0)) n
      | none => false
  | .int x, b => match b.number? with
      | some n => sameNumber (.ofInt x) n
      | none => false
  | .float x, b => match b.number? with
      | some n => sameNumber x.number n
      | none => false
  | .str s, b => b = .str s
  | .arr as, b => match b with
      | .arr bs => sameItems as bs
      | _ => false
  | .obj as, b => match b with
      | .obj bs => as.length = bs.length && sameFields as bs
      | _ => false

/-- Whether two lists have the same items. -/
def sameItems : List Json → List Json → Bool
  | [], bs => bs.isEmpty
  | a :: as, bs => match bs with
      | [] => false
      | b :: bs => same a b && sameItems as bs

/-- Whether each field of the first object is a field of the second. -/
def sameFields : List (String × Json) → List (String × Json) → Bool
  | [], _ => true
  | (name, a) :: as, bs => match Fields.get? bs name with
      | some b => same a b && sameFields as bs
      | none => false

end

/-- Whether two values count as equal: what is no number is not even equal to itself. -/
def equals (a b : Json) : Bool :=
  a ≠ .float .nan && same a b

/-- A value of any shape as a symbol: symbols are equal when their values count as equal. -/
structure AnySymbol where
  value : Json

instance : BEq AnySymbol := ⟨fun a b => a.value.equals b.value⟩

@[simp]
theorem beq_mk {a b : Json} : (AnySymbol.mk a == AnySymbol.mk b) = a.equals b := rfl

/-- **Texts are the same only when they are equal.** -/
@[simp]
theorem same_str {s t : String} : same (.str s) (.str t) = decide (s = t) := by
  simp [same, eq_comm]

@[simp]
theorem equals_str {s t : String} : equals (.str s) (.str t) = decide (s = t) := by
  simp [equals]

/-! ## 3. Order and difference -/

/-- Whether a number is at most `n`. -/
def atMost (value : Json) (n : Int) : Except ShapeError Bool :=
  match value.number? with
  | some x => .ok (match x.compare (.ofInt n) with
      | some .gt => false
      | some _ => true
      | none => false)
  | none => .error (.notOrdered "<=" value.shape .int)

/-- The double that a value is in a calculation with doubles. -/
def double? : Json → Option Double
  | .bool b => some (.ofInt (if b then 1 else 0))
  | .int n => some (.ofInt n)
  | .float x => some x
  | _ => none

/-- The whole number that a value is. -/
def whole? : Json → Option Int
  | .bool b => some (if b then 1 else 0)
  | .int n => some n
  | _ => none

/-- Whether a value is a whole number that no double can hold. -/
def isTooLarge (value : Json) : Bool :=
  match value with
  | .int n => Double.ofInt n = .infinite (n < 0)
  | _ => false

/-- The difference of two numbers: a whole number unless one of them is none. -/
def minus (a b : Json) : Except ShapeError Json :=
  match a.whole?, b.whole?, a.double?, b.double? with
  | some m, some n, _, _ => .ok (.int (m - n))
  | _, _, some x, some y =>
      if a.isTooLarge || b.isTooLarge then .error .tooLarge else .ok (.float (x.minus y))
  | _, _, _, _ => .error (.noDifference a.shape b.shape)

/-! ## 4. Lists of values -/

/-- The values without those that are the same as an earlier one. -/
def distinct : List Json → List Json
  | [] => []
  | value :: rest => value :: (distinct rest).filter fun other => !same value other

/-- Whether a value may stand in front of another one in increasing order, if the two are ordered. -/
def inOrder? (a b : Json) : Option Bool :=
  match a, b with
  | .str s, .str t => some (s ≤ t)
  | a, b => do return ((← a.number?).compare (← b.number?)) ≠ some .gt

/-- The first two neighbours that are not ordered. -/
def unordered? : List Json → Option (Json × Json)
  | a :: b :: rest => if (inOrder? a b).isSome then unordered? (b :: rest) else some (a, b)
  | _ => none

/-- The values in increasing order, each once. -/
def sortedDistinct (values : List Json) : Except ShapeError (List Json) :=
  let values := distinct values
  match unordered? values with
  | some (a, b) => .error (.notOrdered "<" b.shape a.shape)
  | none => .ok (values.mergeSort fun a b => (inOrder? a b).getD true)

/-- Whether a value is a text. -/
def isText : Json → Bool
  | .str _ => true
  | _ => false

theorem isText_of_mem_distinct {values : List Json} (h : ∀ v ∈ values, v.isText) :
    ∀ v ∈ distinct values, v.isText := by
  induction values with
  | nil => simp [distinct]
  | cons value rest ih =>
      intro v hv
      rw [distinct, List.mem_cons] at hv
      rcases hv with rfl | hv
      · exact h _ (by simp)
      · exact ih (fun w hw => h w (by simp [hw])) v (List.mem_filter.1 hv).1

theorem unordered?_eq_none_of_isText {values : List Json} (h : ∀ v ∈ values, v.isText) :
    unordered? values = none := by
  fun_induction unordered? values with
  | case1 a b rest _ ih => exact ih fun v hv => h v (by simp [List.mem_cons.1 hv])
  | case2 a b rest hno =>
      have ha := h a (by simp)
      have hb := h b (by simp)
      cases a <;> simp [isText] at ha
      cases b <;> simp [isText] at hb
      simp [inOrder?] at hno
  | case3 => rfl

/-- **Texts are always ordered.** -/
theorem sortedDistinct_of_isText {values : List Json} (h : ∀ v ∈ values, v.isText) :
    ∃ sorted, sortedDistinct values = .ok sorted := by
  rw [sortedDistinct, unordered?_eq_none_of_isText (isText_of_mem_distinct h)]
  exact ⟨_, rfl⟩

/-- The texts of some values side by side; `index` is the number of the first one in messages. -/
def joinTextsFrom (index : Nat) : List Json → Except ShapeError String
  | [] => .ok ""
  | .str s :: rest => do return s ++ (← joinTextsFrom (index + 1) rest)
  | value :: _ => .error (.notText index value.shape)

/-- The texts of some values side by side. -/
def joinTexts (values : List Json) : Except ShapeError String :=
  joinTextsFrom 0 values

theorem joinTextsFrom_map_str (texts : List String) (index : Nat) :
    joinTextsFrom index (texts.map .str) = .ok (String.join texts) := by
  induction texts generalizing index with
  | nil => rfl
  | cons text texts ih =>
      simp [joinTextsFrom, ih, String.join_cons, bind, Except.bind, pure, Except.pure]

/-- **Texts are joined as they are.** -/
theorem joinTexts_map_str (texts : List String) : joinTexts (texts.map .str) = .ok (String.join texts) :=
  joinTextsFrom_map_str texts 0

end TapeMachine.Json
