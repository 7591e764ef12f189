import TapeMachine.Decimal.Double
/-!
# JSON values

Values as a JSON text gives them: whole numbers apart from the others, and the fields of an object in the
order of their first mention, each name once.

* `Json` : the values, with decidable equality;
* `Fields.get?`, `Fields.put` : a field by name, and writing one: a known name keeps its place.
-/

namespace TapeMachine

/-- A JSON value. -/
inductive Json where
  | null
  | bool (b : Bool)
  | int (n : Int)
  | float (x : Double)
  | str (s : String)
  | arr (items : List Json)
  | obj (fields : List (String × Json))
  deriving Repr, Inhabited

/-- The fields of an object, in order. -/
abbrev Fields := List (String × Json)

/-! ## 1. Equality -/

namespace Json

mutual

/-- Decides equality of values. -/
def decideEq : (a b : Json) → Decidable (a = b)
  | .null, .null => isTrue rfl
  | .bool a, .bool b => if h : a = b then isTrue (h ▸ rfl) else isFalse (by simp [h])
  | .int a, .int b => if h : a = b then isTrue (h ▸ rfl) else isFalse (by simp [h])
  | .float a, .float b => if h : a = b then isTrue (h ▸ rfl) else isFalse (by simp [h])
  | .str a, .str b => if h : a = b then isTrue (h ▸ rfl) else isFalse (by simp [h])
  | .arr a, .arr b =>
      match decideEqItems a b with
      | isTrue h => isTrue (h ▸ rfl)
      | isFalse h => isFalse (by simp [h])
  | .obj a, .obj b =>
      match decideEqFields a b with
      | isTrue h => isTrue (h ▸ rfl)
      | isFalse h => isFalse (by simp [h])
  | .null, .bool _ | .null, .int _ | .null, .float _ | .null, .str _ | .null, .arr _ | .null, .obj _
  | .bool _, .null | .bool _, .int _ | .bool _, .float _ | .bool _, .str _ | .bool _, .arr _
  | .bool _, .obj _ | .int _, .null | .int _, .bool _ | .int _, .float _ | .int _, .str _
  | .int _, .arr _ | .int _, .obj _ | .float _, .null | .float _, .bool _ | .float _, .int _
  | .float _, .str _ | .float _, .arr _ | .float _, .obj _ | .str _, .null | .str _, .bool _
  | .str _, .int _ | .str _, .float _ | .str _, .arr _ | .str _, .obj _ | .arr _, .null
  | .arr _, .bool _ | .arr _, .int _ | .arr _, .float _ | .arr _, .str _ | .arr _, .obj _
  | .obj _, .null | .obj _, .bool _ | .obj _, .int _ | .obj _, .float _ | .obj _, .str _
  | .obj _, .arr _ => isFalse (by simp)

/-- Decides equality of item lists. -/
def decideEqItems : (as bs : List Json) → Decidable (as = bs)
  | [], [] => isTrue rfl
  | [], _ :: _ | _ :: _, [] => isFalse (by simp)
  | a :: as, b :: bs =>
      match decideEq a b, decideEqItems as bs with
      | isTrue h, isTrue hs => isTrue (by rw [h, hs])
      | isFalse h, _ => isFalse (by simp [h])
      | _, isFalse hs => isFalse (by simp [hs])

/-- Decides equality of field lists. -/
def decideEqFields : (as bs : List (String × Json)) → Decidable (as = bs)
  | [], [] => isTrue rfl
  | [], _ :: _ | _ :: _, [] => isFalse (by simp)
  | (k, a) :: as, (l, b) :: bs =>
      match decEq k l, decideEq a b, decideEqFields as bs with
      | isTrue hk, isTrue h, isTrue hs => isTrue (by rw [hk, h, hs])
      | isFalse hk, _, _ => isFalse (by simp [hk])
      | _, isFalse h, _ => isFalse (by simp [h])
      | _, _, isFalse hs => isFalse (by simp [hs])

end

instance : DecidableEq Json := decideEq

end Json

/-! ## 2. Fields -/

namespace Fields

/-- The value of a field. -/
def get? (fields : Fields) (name : String) : Option Json :=
  (fields.find? (·.1 = name)).map (·.2)

/-- Whether there is a field of that name. -/
def has (fields : Fields) (name : String) : Bool :=
  fields.any (·.1 = name)

/-- Writes a field: in its place when the name is known, at the end otherwise. -/
def put (fields : Fields) (name : String) (value : Json) : Fields :=
  match fields with
  | [] => [(name, value)]
  | field :: rest => if field.1 = name then (name, value) :: rest else field :: put rest name value

theorem has_iff_isSome_get? {fields : Fields} {name : String} : fields.has name = (fields.get? name).isSome := by
  induction fields with
  | nil => rfl
  | cons field rest ih =>
      by_cases h : field.1 = name
      · simp [has, get?, h]
      · simpa [has, get?, h] using ih

end Fields

end TapeMachine
