import TapeMachine.Json.Writer
import TapeMachine.Workspace.Job
/-!
# Pools and checkpoints

A pool file holds one input a line. A checkpoint file remembers which inputs are done.

* `Pool.readInputs` : the inputs of a pool file;
* `Pool.loadCheckpoint`, `Pool.saveCheckpoint` : what a checkpoint remembers.
-/

namespace TapeMachine.Pool

/-- The inputs in the text of a pool: its lines, the empty ones too. -/
def inputsOf (text : String) : List String :=
  (Text.linesOf text.toList).map String.ofList

/-- The inputs of a pool file. -/
def readInputs (path : Json) : Job (List String) := do
  return inputsOf (← Job.readText (← Job.pathOrNumber path))

/-- What a checkpoint document remembers: nothing when the field is missing. -/
def completedOf (checkpoint : Json) : Except ShapeError Json :=
  match checkpoint with
  | .obj fields => .ok ((Fields.get? fields "completed").getD (.arr []))
  | other => .error (.lacks other.shape "get")

/-- What the checkpoint of a path remembers: nothing when there is none. -/
def loadCheckpoint (path : Path) : Job Json := do
  if ← Job.askFiles (·.probe path.text) then
    let text ← Job.readText path.text
    let checkpoint ← Job.ofExcept ((Json.read text).mapError .read)
    Job.ofExcept ((completedOf checkpoint).mapError .shape)
  else return .arr []

/-- Writes a checkpoint. -/
def saveCheckpoint (completed : Json) (path : Path) : Job Unit :=
  Job.overwrite path.text (Json.renderIndented (.obj [("completed", completed)]))

end TapeMachine.Pool
