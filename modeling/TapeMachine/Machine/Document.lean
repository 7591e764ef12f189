import TapeMachine.Machine.Definition
/-!
# Definitions as documents

A machine is exchanged as a JSON object with seven fields and perhaps a name.

* `Definition.ofJson`, `Definition.ofText` : the definition of a document, with a name for those without;
* `Draft.ofParts` : the draft in named parts, all of which must be known;
* `Definition.toJson` : the document of a definition, with its sets and its rules in order.
-/

namespace TapeMachine

/-- The fields that a machine document must have. -/
def Draft.requiredFields : List String :=
  ["alphabet", "blank_symbol", "input_symbols", "states", "initial_state", "final_states", "transitions"]

/-- The draft in a document; `name` is for documents without a name of their own. -/
def Draft.ofJson (value : Json) (name : Json) : Except Error Draft := do
  let missing ← requiredFields.filterM fun field => do return !(← (value.has field : Except ShapeError Bool))
  if !missing.isEmpty then
    throw (.definition (.missingFields missing))
  let part (field : String) : Except ShapeError Json := value.get field
  let rules ← part "transitions"
  if rules.shape ≠ .arr then
    throw (.definition .rulesNotList)
  return {
    alphabet := ← part "alphabet"
    inputSymbols := ← part "input_symbols"
    blank := ← part "blank_symbol"
    states := ← part "states"
    initial := ← part "initial_state"
    finals := ← part "final_states"
    rules := .entries rules
    name := match value with
      | .obj fields => (Fields.get? fields "name").getD name
      | _ => name }

/-- The parts of a definition. -/
def Draft.partList : PartList :=
  { whole := "MachineDefinition.create()"
    own := some "cls"
    required := ["alphabet", "input_symbols", "blank_symbol", "states", "initial_state", "final_states",
      "transitions"]
    optional := ["name"] }

/-- The draft in named parts. The rules come from `rules`, since they may be there in another form. -/
def Draft.ofParts (parts : Fields) (rules : RuleSource) : Except PartsError Draft := do
  partList.check parts
  let part (name : String) : Json := (parts.get? name).getD .null
  return { alphabet := part "alphabet", inputSymbols := part "input_symbols", blank := part "blank_symbol",
           states := part "states", initial := part "initial_state", finals := part "final_states",
           rules, name := part "name" }

namespace Definition

/-- The definition in a document; `name` is for documents without a name of their own. -/
def ofJson (value : Json) (name : Json) : Except Error Definition := do
  create (← Draft.ofJson value name)

/-- The definition in the text of a document. -/
def ofText (text : String) (name : Json) : Except Error Definition := do
  ofJson (← Json.read text) name

/-- The definition in a document whose text is given as a value. -/
def ofDocument (text name : Json) : Except Error Definition := do
  ofText (← (text.asDocument : Except ShapeError String)) name

/-- The order of rules in a document: by state, then by symbol. -/
def ruleLe (a b : Rule Char) : Bool :=
  a.state < b.state || (a.state = b.state && a.read ≤ b.read)

/-- The rules by state and symbol. -/
def sortedRules (d : Definition) : List (Rule Char) :=
  d.rules.rules.mergeSort ruleLe

/-- A set of symbols as a list of texts. -/
def symbolsToJson (symbols : SymbolSet) : Json :=
  .arr (symbols.toList.map fun c => .str (String.singleton c))

/-- A set of states as a list of texts. -/
def statesToJson (states : StateSet) : Json :=
  .arr (states.toList.map .str)

/-- The document of a definition. -/
def toJson (d : Definition) : Json :=
  .obj [("name", d.name),
    ("alphabet", symbolsToJson d.alphabet),
    ("blank_symbol", .str (String.singleton d.blank)),
    ("input_symbols", symbolsToJson d.inputSymbols),
    ("states", statesToJson d.states),
    ("initial_state", .str d.initial),
    ("final_states", statesToJson d.finals),
    ("transitions", .arr (d.sortedRules.map Rule.toJson))]

end Definition

end TapeMachine
