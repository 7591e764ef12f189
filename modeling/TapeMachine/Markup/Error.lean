import TapeMachine.Literal.Fault
import TapeMachine.Text.Integer
/-!
# Errors in markup

Why a text in markup cannot be shown: a closing tag that fits no open one, a colour with a part that is left empty
or too long, or a handler whose parameters are no literal.

* `MarkupError`, `MarkupError.message` : the causes and their wording;
* `MarkupError.isColourPart` : whether a part of a colour is at fault.
-/

namespace TapeMachine

/-- Why a text in markup cannot be shown. -/
inductive MarkupError where
  /-- A tag closes a style that no tag has opened. -/
  | closesNoStyle (tag : String) (position : Nat)
  /-- A tag closes the latest style where none is open. -/
  | closesNothing (position : Nat)
  /-- A colour by parts has a part without digits. -/
  | emptyColourPart
  /-- A colour by parts has a part of too many digits. -/
  | overlongColourPart (digits : Nat)
  /-- The arguments of a handler, which are part of its parameters, are no literal. -/
  | badHandler (arguments parameters : String) (fault : Literal.Fault)
  deriving DecidableEq, Repr

/-- The wording of a markup error. -/
def MarkupError.message : MarkupError → String
  | .closesNoStyle tag position =>
      s!"closing tag '{tag}' at position {position} doesn't match any open tag"
  | .closesNothing position => s!"closing tag '[/]' at position {position} has nothing to close"
  | .emptyColourPart => "invalid literal for int() with base 10: ''"
  | .overlongColourPart digits => Text.overlongMessage digits
  | .badHandler arguments parameters fault =>
      let place := if fault.isSyntactic then s!"{Text.quote arguments} in {Text.quote parameters}"
        else Text.quote parameters
      s!"error parsing {place}; {fault.message}"

/-- Whether a part of a colour is at fault, and not a tag. -/
def MarkupError.isColourPart : MarkupError → Bool
  | .emptyColourPart | .overlongColourPart _ => true
  | _ => false

end TapeMachine
