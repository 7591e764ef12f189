import TapeMachine.Machine.Load
import TapeMachine.Program.Ending
import TapeMachine.Report
/-!
# The inspector

The inspector shows a machine: its parts, the grid of its rules, and, when it is asked to, the grid as a
LaTeX array.

* `Inspector.usage`, `Inspector.run` : what it accepts, and the program.
-/

namespace TapeMachine.Inspector

open CommandLine

/-- What the inspector accepts. -/
def usage : Usage :=
  { program := "ruleset_inspect.py"
    operands := []
    options := [
      .help,
      { spellings := ["--machine"], wish := .text, required := true },
      { spellings := ["--latex"], wish := .presence }] }

/-- Shows a machine. -/
def inspect (d : Definition) (withLatex : Bool) : Job Unit := do
  Job.say ("[INFO] Machine " ++ d.name.display)
  d.report
  if withLatex then
    Job.print "\n=== LaTeX Table ==="
    Job.printPlain d.latex

/-- The whole program. -/
def run (texts : List String) : Job Ending :=
  Job.withArguments usage texts id fun arguments => do
    let d ← Definition.load ((arguments.value? "--machine").getD (.str ""))
    inspect d (arguments.has "--latex")
    return .done

end TapeMachine.Inspector
