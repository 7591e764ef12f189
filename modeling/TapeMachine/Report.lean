import TapeMachine.Run.Batch
import TapeMachine.Text.Thousands
import TapeMachine.Workspace.Job
/-!
# Reports

What the programs show of machines and runs, as text in markup: labels are styled, and everything that comes
from a machine or an input is escaped.

* `Definition.report` : the two charts of a machine;
* `Executor.report`, `Result.report` : where a run stands, and how it ended;
* `Summary.report` : the counts of a batch.
-/

namespace TapeMachine

open Markup (escape)

/-- A text in a style. -/
def styled (style text : String) : String :=
  "[" ++ style ++ "]" ++ text ++ "[/" ++ style ++ "]"

/-- The style of an outcome. -/
def Outcome.style : Outcome → String
  | .accepted => "green"
  | .rejected => "red"
  | .halted => "yellow"

/-- Shows the parts of a machine and the grid of its rules. -/
def Definition.report (d : Definition) : Job Unit := do
  Job.chart d.partsTable
  Job.chart d.gridTable

/-- Shows the latest snapshot of a run. -/
def Executor.report (e : Executor) : Job Unit :=
  let s := e.latest
  Job.print (styled "cyan" s!"Step {s.step}" ++ "  state " ++ styled "bold" (escape s.state) ++
    s!"  head {s.head}  tape " ++ escape s.render)

namespace Result

variable (r : Result Char)

/-- The row of a snapshot in the trace. -/
def traceRow (s : Snapshot Char) : List String :=
  [toString s.step, s.state, s.render, toString s.head]

/-- The trace with one snapshot a row. -/
def traceTable : Table :=
  { title := "Trace", header := ["Step", "State", "Tape", "Head"], rows := r.trace.map traceRow }

/-- The outcome in words, in its style. -/
def styledLabel : Except ShapeError String := do
  return styled r.outcome.style (← r.label)

/-- Shows the outcome in words. -/
def reportLabel : Job Unit := do
  Job.print (← Job.ofExcept (r.styledLabel.mapError .shape))

/-- Shows the input, the outcome and the final tape, and the trace if it is wanted. -/
def report (withTrace : Bool) : Job Unit := do
  Job.print ("\n" ++ styled "bold" "Input:" ++ " " ++ escape r.input.quoted)
  let label ← Job.ofExcept (r.styledLabel.mapError .shape)
  Job.print (styled "bold" "Result:" ++ " " ++ label ++ s!" after {Text.thousands r.steps} steps in state " ++
    escape r.finalState)
  Job.print (styled "bold" "Final tape:" ++ " " ++ escape (joinCells r.tape) ++ "   " ++
    styled "bold" "Output:" ++ " " ++ escape (Text.quote r.output))
  if withTrace then
    Job.chart r.traceTable

end Result

/-- Shows the counts of a batch. -/
def Summary.report (s : Summary) : Job Unit :=
  Job.print ("\n" ++ styled "bold" "Accepted:" ++ s!" {s.accepted}  " ++ styled "bold" "Rejected:" ++
    s!" {s.rejected}  " ++ styled "bold" "Halted:" ++ s!" {s.halted}  of {s.total}")

end TapeMachine
