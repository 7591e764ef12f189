import TapeMachine.Machine.Input
/-!
# The machine that adds one

A small machine on which much of the theory can be seen at work. It goes to the right end of a binary number,
and from there carries a one to the left, over the left end of the number if it must.

* `Definition.increment` : the machine;
* `Definition.readInput_increment` : a text is one of its inputs exactly when it is a binary number.
-/

namespace TapeMachine.Definition

/-- The rules of the machine that adds one. -/
def incrementRules : RuleTable Char where
  rules := [
    { state := "scan", read := '0', write := '0', move := .right, next := "scan" },
    { state := "scan", read := '1', write := '1', move := .right, next := "scan" },
    { state := "scan", read := 'B', write := 'B', move := .left, next := "carry" },
    { state := "carry", read := '1', write := '0', move := .left, next := "carry" },
    { state := "carry", read := '0', write := '1', move := .stay, next := "done" },
    { state := "carry", read := 'B', write := '1', move := .stay, next := "done" }]
  nodup := by decide

/-- The blank of a machine on binary numbers is no digit. -/
theorem blank_not_bit : 'B' ∉ (.ofList ['0', '1'] : SymbolSet) := by
  decide

/-- The machine that adds one to a binary number. -/
def increment : Definition where
  alphabet := .ofList ['0', '1', 'B']
  inputSymbols := .ofList ['0', '1']
  blank := 'B'
  states := .ofList ["scan", "carry", "done"]
  initial := "scan"
  finals := .ofList ["done"]
  rules := incrementRules
  name := .str "binary_increment"
  blank_mem := by decide
  input_subset := by simp
  blank_not_input := blank_not_bit
  initial_mem := by decide
  finals_subset := by simp
  rule_states := by decide
  rule_symbols := by decide

/-- A text is an input of the machine exactly when it is a binary number. -/
theorem readInput_increment {s : String} :
    increment.readInput (.str s) = .ok (.ofText s) ↔ ∀ c ∈ s.toList, c = '0' ∨ c = '1' := by
  rw [readInput_text]
  have hmem : ∀ c, c ∈ increment.inputSymbols ↔ c = '0' ∨ c = '1' := fun c => by
    show c ∈ Std.ExtTreeSet.ofList ['0', '1'] compare ↔ _
    rw [Std.ExtTreeSet.mem_ofList]
    simp
  simp only [hmem, true_and]

end TapeMachine.Definition
