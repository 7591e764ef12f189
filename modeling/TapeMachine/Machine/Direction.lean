/-!
# Head movements

* `Direction` : one cell to the left, one to the right, or none;
* `Direction.ofLetter?` : the letters that name a movement, in either case.
-/

namespace TapeMachine

/-- A movement of the head. -/
inductive Direction where
  | left
  | right
  | stay
  deriving DecidableEq, Repr

namespace Direction

/-- How far the head moves to the right. -/
def offset : Direction → Int
  | .left => -1
  | .right => 1
  | .stay => 0

/-- The letter of a movement. -/
def letter : Direction → String
  | .left => "L"
  | .right => "R"
  | .stay => "S"

/-- The name of a movement. -/
def name : Direction → String
  | .left => "LEFT"
  | .right => "RIGHT"
  | .stay => "STAY"

/-- The movement that a letter names: `N` names no movement too, and the capital of the long s is `S`. -/
def ofLetter? : Char → Option Direction
  | 'L' | 'l' => some .left
  | 'R' | 'r' => some .right
  | 'S' | 's' | '\u017f' => some .stay
  | 'N' | 'n' => some .stay
  | _ => none

/-- The movement that a word of one letter names. -/
def ofWord? (word : List Char) : Option Direction :=
  match word with
  | [c] => ofLetter? c
  | _ => none

/-- Only one movement leads to the left. -/
theorem offset_neg_iff {d : Direction} : d.offset < 0 ↔ d = .left := by
  cases d <;> decide

end Direction

end TapeMachine
