import TapeMachine.Json.Display
import TapeMachine.Json.Shape
import TapeMachine.Machine.Rule
/-!
# What can be wrong with a machine or its input

* `DefinitionError` : the causes for which a definition is refused;
* `InputError` : an input and its items outside the input alphabet.
-/

namespace TapeMachine

/-- Why a machine definition is refused. -/
inductive DefinitionError where
  | missingFields (names : List String)
  | rulesNotList
  | wideSymbols (symbols : List String)
  | blankNotInAlphabet (blank : String)
  | inputNotInAlphabet (symbols : List String)
  | blankInInput (blank : String)
  | initialNotInStates (state : String)
  | finalsNotInStates (states : List String)
  | ruleNotObject (index : Option Json) (shape : Shape)
  | ruleMissingFields (index : Option Json) (names : List String)
  | unknownDirection (value : Json)
  | duplicateRule (state symbol : String)
  | unknownState (rule : Rule String) (state : String)
  | unknownSymbol (rule : Rule String) (symbol : String)
  deriving DecidableEq, Repr

/-- How a rule is called in messages: by its index, if it has one. -/
def ruleName : Option Json → String
  | none => "Transition"
  | some index => s!"Transition #{index.display}"

/-- The wording of a definition error. -/
def DefinitionError.message : DefinitionError → String
  | .missingFields names => s!"Machine definition is missing required fields: {Json.quotedTexts names}"
  | .rulesNotList => "'transitions' must be a list of transition objects"
  | .wideSymbols symbols => s!"Symbols must be exactly one character: {Json.quotedTexts symbols}"
  | .blankNotInAlphabet blank => s!"Blank symbol {Text.quote blank} is not in the alphabet"
  | .inputNotInAlphabet symbols => s!"Input symbols not in the alphabet: {Json.quotedTexts symbols}"
  | .blankInInput blank => s!"Blank symbol {Text.quote blank} must not be an input symbol"
  | .initialNotInStates state => s!"Initial state {Text.quote state} is not in the state set"
  | .finalsNotInStates states => s!"Final states not in the state set: {Json.quotedTexts states}"
  | .ruleNotObject index shape => s!"{ruleName index} must be an object, got {shape.word}"
  | .ruleMissingFields index names =>
      s!"{ruleName index} is missing required fields: {Json.quotedTexts names}"
  | .unknownDirection value => s!"Unknown head movement: {value.quoted}"
  | .duplicateRule state symbol =>
      s!"More than one transition for state {Text.quote state} reading {Text.quote symbol}"
  | .unknownState rule state =>
      s!"Transition {rule.describe} references unknown state {Text.quote state}"
  | .unknownSymbol rule symbol =>
      s!"Transition {rule.describe} references unknown symbol {Text.quote symbol}"

/-- An input with items outside the input alphabet, each once and in increasing order. -/
structure InputError where
  input : Json
  symbols : List Json
  deriving DecidableEq, Repr

/-- The wording of an input error. -/
def InputError.message (e : InputError) : String :=
  s!"Input {e.input.quoted} contains symbols outside the input alphabet: " ++ Json.quoted (.arr e.symbols)

end TapeMachine
