import TapeMachine.Pool.Run
import TapeMachine.Program.Ending
/-!
# The pool runner

The pool runner runs the inputs of a pool on a machine and keeps its results in the results directory.

* `PoolRunner.usage`, `PoolRunner.run` : what it accepts, and the program.
-/

namespace TapeMachine.PoolRunner

open CommandLine

/-- What the pool runner accepts. -/
def usage : Usage :=
  { program := "simulate_pool.py"
    operands := []
    options := [
      .help,
      { spellings := ["--machine"], wish := .text, required := true },
      { spellings := ["--pool"], wish := .text, required := true },
      { spellings := ["--output"], wish := .text },
      { spellings := ["--batch_size"], wish := .wholeNumber },
      { spellings := ["--max_steps"], wish := .wholeNumber },
      { spellings := ["--left_bounded"], wish := .presence },
      { spellings := ["--workers"], wish := .wholeNumber }] }

/-- How the arguments ask for batches to be run. -/
def batchOptions (arguments : Arguments) : BatchOptions :=
  let plain : BatchOptions := {}
  { maxSteps := (arguments.value? "--max_steps").getD plain.maxSteps
    leftBounded := .bool (arguments.has "--left_bounded")
    workers := (arguments.value? "--workers").getD plain.workers }

/-- What the arguments ask for. -/
def request (arguments : Arguments) : Pool.Request :=
  let plain : Pool.Request :=
    { machineFile := (arguments.value? "--machine").getD (.str "")
      poolFile := (arguments.value? "--pool").getD (.str "")
      options := batchOptions arguments }
  { plain with
    outputName := (arguments.value? "--output").getD plain.outputName
    batchSize := (arguments.value? "--batch_size").getD plain.batchSize }

/-- The whole program. -/
def run (texts : List String) : Job Ending :=
  Job.withArguments usage texts id fun arguments => do
    let _ ← Pool.run (request arguments)
    return .done

end TapeMachine.PoolRunner
