import TapeMachine.Run.Executor
/-!
# Batches

Several inputs on one machine. All inputs are checked before the first run, then the number of workers that
may share them; the limits are looked at only when there is something to run.

* `BatchOptions`, `checkWorkers` : how a batch is to be run, and whether its inputs can be shared;
* `Definition.runAll` : the results in the order of the inputs;
* `Summary`, `summarize` : how many runs ended in which way.
-/

namespace TapeMachine

/-- How a batch is to be run, by values of any shape. -/
structure BatchOptions where
  maxSteps : Json := .int 10000
  leftBounded : Json := .bool false
  workers : Json := .int 1
  deriving DecidableEq, Repr

/-- Refuses a number of workers that is no number, and one that would share some inputs and is neither whole
nor greater than their number. -/
def checkWorkers (workers : Json) (count : Nat) : Except ShapeError Unit := do
  if (← workers.atMost 1) || count ≤ 1 then
    return
  match workers with
  | .float x =>
      if (Number.ofInt count).compare x.number = some .lt then return
      throw (.notWhole .float)
  | _ => return

/-- The results of the inputs in some values, in their order. -/
def Definition.runAll (definition : Definition) (inputs : List Json) (options : BatchOptions) :
    Except Error (List (Result Char)) := do
  let _ ← inputs.mapM definition.readInput
  checkWorkers options.workers inputs.length
  inputs.mapM fun given => definition.runWithin given options.maxSteps options.leftBounded

/-- How many runs there were, and how many ended in which way. -/
structure Summary where
  total : Nat
  accepted : Nat
  rejected : Nat
  halted : Nat
  deriving DecidableEq, Repr

/-- Counts the outcomes of some runs. -/
def summarize (outcomes : List Outcome) : Summary :=
  { total := outcomes.length
    accepted := outcomes.count .accepted
    rejected := outcomes.count .rejected
    halted := outcomes.count .halted }

/-- The summary as an object. -/
def Summary.toJson (s : Summary) : Json :=
  .obj [("total", .int s.total), ("accepted", .int s.accepted), ("rejected", .int s.rejected),
    ("halted", .int s.halted)]

end TapeMachine
