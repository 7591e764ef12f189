import TapeMachine.Json.Value
import TapeMachine.Machine.Direction
/-!
# Rules

A rule says what a machine does in one state on one symbol: the symbol to write, the movement and the next
state. Symbols are of any type: texts in a rule as it is written down, characters in a rule of a machine.

* `Rule`, `Rule.key` : a rule, and the state and symbol it is for;
* `Rule.toJson` : the rule as an object.
-/

namespace TapeMachine

/-- A symbol that can be shown as text. -/
class Glyph (σ : Type) where
  /-- The text of a symbol. -/
  glyph : σ → String

export Glyph (glyph)

instance : Glyph Char := ⟨String.singleton⟩

instance : Glyph String := ⟨id⟩

/-- What to do in `state` on `read`. -/
structure Rule (σ : Type) where
  state : String
  read : σ
  write : σ
  move : Direction
  next : String
  deriving DecidableEq, Repr

namespace Rule

variable {σ τ : Type}

/-- The state and the symbol that the rule is for. -/
def key (rule : Rule σ) : String × σ :=
  (rule.state, rule.read)

/-- The rule with its symbols renamed. -/
def mapSymbols (f : σ → τ) (rule : Rule σ) : Rule τ :=
  { state := rule.state, read := f rule.read, write := f rule.write, move := rule.move, next := rule.next }

@[simp]
theorem key_mapSymbols (f : σ → τ) (rule : Rule σ) :
    (rule.mapSymbols f).key = (rule.key.1, f rule.key.2) := rfl

variable [Glyph σ]

/-- The rule as an equation of the transition function. -/
def describe (rule : Rule σ) : String :=
  s!"d({rule.state}, {glyph rule.read}) = ({rule.next}, {glyph rule.write}, {rule.move.letter})"

/-- The rule as an object. -/
def toJson (rule : Rule σ) : Json :=
  .obj [("from_state", .str rule.state), ("read_symbol", .str (glyph rule.read)),
    ("write_symbol", .str (glyph rule.write)), ("move_to", .str rule.move.letter),
    ("next_state", .str rule.next)]

end Rule

end TapeMachine
