import TapeMachine.Machine.Load
import TapeMachine.Pool.Files
import TapeMachine.Run.Batch
import TapeMachine.Text.Thousands
/-!
# Running a pool

The inputs of a pool that its checkpoint does not remember are run batch by batch. After each batch its
entries are added to the results and the checkpoint is written, so that an interrupted run can go on.

* `Pool.batches` : the batches of a list of inputs;
* `Pool.refused`, `Pool.taken` : the inputs of a batch that the machine refuses, and the others;
* `Pool.Request.ofParts` : what is to be run, in named parts;
* `Pool.tasks`, `Pool.perform` : the tasks of a run, each of which writes one file;
* `Pool.runSome`, `Pool.run` : a run up to an interruption, and the whole run with the totals of what was done.
-/

namespace TapeMachine.Pool

/-! ## 1. Batches -/

/-- A list in consecutive parts of `size + 1` items, the last one perhaps shorter. -/
def parts {α : Type} (size : Nat) (xs : List α) : List (List α) :=
  match xs with
  | [] => []
  | x :: xs => (x :: xs.take size) :: parts size (xs.drop size)
termination_by xs.length
decreasing_by
  simp only [List.length_drop, List.length_cons]
  omega

/-- The batches of a list: none for a negative size. -/
def batches {α : Type} (size : Int) (xs : List α) : List (List α) :=
  match size with
  | .ofNat (n + 1) => parts n xs
  | _ => []

/-- A batch size from a value of any shape: a whole number other than zero. -/
def batchSize (value : Json) : Except Error Int :=
  let size : Except Error Int := match value with
    | .int n => .ok n
    | .bool b => .ok (if b then 1 else 0)
    | other => .error (.shape (.notWhole other.shape))
  do
    if (← size) = 0 then throw (.run .zeroBatchSize)
    size

/-! ## 2. Entries -/

/-- How many inputs were looked at, and what became of them. -/
structure Totals where
  total : Nat
  accepted : Nat
  rejected : Nat
  halted : Nat
  invalid : Nat
  deriving DecidableEq, Repr

namespace Totals

/-- Nothing counted yet. -/
def zero : Totals := ⟨0, 0, 0, 0, 0⟩

/-- Adds a batch: the summary of its runs, and its refused inputs. -/
def add (totals : Totals) (summary : Summary) (invalid : Nat) : Totals :=
  { total := totals.total + summary.total + invalid
    accepted := totals.accepted + summary.accepted
    rejected := totals.rejected + summary.rejected
    halted := totals.halted + summary.halted
    invalid := totals.invalid + invalid }

/-- The totals as an object. -/
def toJson (t : Totals) : Json :=
  .obj [("total", .int t.total), ("accepted", .int t.accepted), ("rejected", .int t.rejected),
    ("halted", .int t.halted), ("invalid", .int t.invalid)]

end Totals

/-- An input that a machine refuses, and why. -/
structure Refused where
  input : String
  reason : String
  deriving DecidableEq, Repr

/-- The inputs that a machine refuses, with the reasons. -/
def refused (d : Definition) (inputs : List String) : List Refused :=
  inputs.filterMap fun input =>
    match d.readInput (.str input) with
    | .ok _ => none
    | .error e => some { input, reason := e.message }

/-- The inputs that a machine takes. -/
def taken (d : Definition) (inputs : List String) : List String :=
  inputs.filter fun input => (d.readInput (.str input)).toBool

/-- The entry of a refused input. -/
def refusedEntry (machine : Json) (r : Refused) : Json :=
  .obj [("machine", machine), ("input", .str r.input), ("outcome", .str "invalid"), ("error", .str r.reason)]

/-- The entry of a run. -/
def resultEntry (machine : Json) (r : Result Char) : Json :=
  .obj (("machine", machine) :: r.summaryFields)

/-- The entries of a batch: the refused inputs first. -/
def entries (machine : Json) (refused : List Refused) (results : List (Result Char)) : List Json :=
  refused.map (refusedEntry machine) ++ results.map (resultEntry machine)

/-- Entries as lines. -/
def linesOfEntries (entries : List Json) : String :=
  String.join (entries.map fun entry => entry.render ++ "\n")

/-! ## 3. Remembering -/

/-- The keys among the items of what a checkpoint remembers; items that are no keys are an error. -/
def remembered (completed : Json) : Except ShapeError (List Json) := do
  (← completed.items).mapM Json.asKey

/-- The inputs that are not remembered, in their order. -/
def pending (remembered : List Json) (inputs : List String) : List String :=
  inputs.filter fun input => !remembered.contains (.str input)

/-- What is remembered, and some inputs more; only a list can grow. -/
def remember (completed : Json) (inputs : List String) : Except ShapeError Json :=
  match completed with
  | .arr items => .ok (.arr (items ++ inputs.map .str))
  | other => .error (.lacks other.shape "extend")

/-! ## 4. Runs -/

/-- What to run, where the results go, and how, by values of any shape. -/
structure Request where
  machineFile : Json
  poolFile : Json
  outputName : Json := .str "results"
  resultsRoot : Json := .str "results"
  batchSize : Json := .int 256
  options : BatchOptions := {}

/-- The parts of a request. -/
def Request.partList : PartList :=
  { whole := "simulate_pool()"
    own := none
    required := ["machine_file", "input_pool_file"]
    optional := ["output_name", "results_root", "batch_size", "max_steps", "left_bounded", "workers"] }

/-- The request in named parts. -/
def Request.ofParts (parts : Fields) : Except PartsError Request := do
  partList.check parts
  let part (name : String) (default : Json) : Json := (parts.get? name).getD default
  let options : BatchOptions := {}
  let plain : Request := { machineFile := .null, poolFile := .null }
  return {
    machineFile := part "machine_file" .null
    poolFile := part "input_pool_file" .null
    outputName := part "output_name" plain.outputName
    resultsRoot := part "results_root" plain.resultsRoot
    batchSize := part "batch_size" plain.batchSize
    options := {
      maxSteps := part "max_steps" options.maxSteps
      leftBounded := part "left_bounded" options.leftBounded
      workers := part "workers" options.workers } }

/-- The directory of the results of a pool, which is named after the pool. -/
def folder (resultsRoot pool : Path) : Path :=
  resultsRoot.join pool.stem

/-- The file of the results in their directory. -/
def resultsPath (folder : Path) (outputName : Json) : Path :=
  folder.join (outputName.display ++ ".jsonl")

/-- The checkpoint in the directory of the results. -/
def checkpointPath (folder : Path) (outputName : Json) : Path :=
  folder.join (outputName.display ++ "_checkpoint.json")

/-- A message of the run, marked with the name of the working directory. -/
def message (text : String) : Job Unit := do
  Job.say (String.join ["[", (← Job.files).work.getLastD "", "] ", text])

/-- A mark of the progress bar. -/
def progress (word : String) (count : Nat) : Job Unit :=
  Job.say s!"<{word} {count}>"

/-- The files of a run. -/
structure Places where
  /-- The place of the results, which stay open for the whole run. -/
  results : List String
  checkpoint : Path

/-- What a run has counted and remembered so far. -/
structure State where
  totals : Totals
  completed : Json

/-- A run that is ready: its machine, how it is run, its files, and where it starts. -/
structure Prepared where
  definition : Definition
  options : BatchOptions
  places : Places
  /-- The inputs that are left to be run. -/
  pending : List String
  state : State

/-- What a run does, one after the other. Each task writes one file, and a run may be interrupted between any two of
them. -/
inductive Task where
  /-- Runs the inputs of a batch and adds their entries to the results. -/
  | simulate (number : Nat) (batch : List String)
  /-- Writes into the checkpoint that a batch is done. -/
  | record (batch : List String)
  deriving DecidableEq, Repr

/-- The tasks for some inputs: each batch is recorded once its entries are in the results. -/
def tasks (size : Int) (inputs : List String) : List Task :=
  (batches size inputs).zipIdx.flatMap fun (batch, index) => [.simulate (index + 1) batch, .record batch]

/-- Runs the inputs of a batch and adds their entries to the results. -/
def simulate (run : Prepared) (number : Nat) (batch : List String) (totals : Totals) : Job Totals := do
  message s!"Processing batch {number} with {Text.thousands batch.length} inputs..."
  progress "progress" batch.length
  let refused := refused run.definition batch
  refused.forM fun r => do
    message s!"[WARNING] Skipping {Text.quote r.input}: {r.reason}"
    progress "advance" 1
  let results ← Job.ofExcept (run.definition.runAll ((taken run.definition batch).map .str) run.options)
  progress "advance" results.length
  let lines := linesOfEntries (entries run.definition.name refused results)
  Job.setFiles ((← Job.files).appendAt run.places.results lines)
  return totals.add (summarize (results.map (·.outcome))) refused.length

/-- Writes into the checkpoint that a batch is done. -/
def record (run : Prepared) (batch : List String) (completed : Json) : Job Json := do
  let completed ← Job.ofExcept ((remember completed batch).mapError .shape)
  saveCheckpoint completed run.places.checkpoint
  message "[INFO] Batch completed. Checkpoint saved."
  return completed

/-- Does a task. -/
def perform (run : Prepared) (state : State) : Task → Job State
  | .simulate number batch => do return { state with totals := ← simulate run number batch state.totals }
  | .record batch => do return { state with completed := ← record run batch state.completed }

/-- Reads the machine, the pool and the checkpoint of a request, and opens the results. What the checkpoint remembers
is left out. -/
def prepare (request : Request) : Job Prepared := do
  let d ← Definition.load request.machineFile
  let pool ← Path.ofJson request.poolFile
  let folder := folder (← Path.ofJson request.resultsRoot) pool
  Job.tryFiles (·.makePath folder)
  let results := resultsPath folder request.outputName
  let checkpoint := checkpointPath folder request.outputName
  let inputs ← readInputs request.poolFile
  let completed ← loadCheckpoint checkpoint
  let remembered ← Job.ofExcept ((remembered completed).mapError .shape)
  let pending := pending remembered inputs
  message s!"Loaded {Text.thousands inputs.length} total inputs. {Text.thousands pending.length} pending."
  let (files, place) ← Job.askFiles (·.openForAppend results.text)
  Job.setFiles files
  return { definition := d, options := request.options, places := ⟨place, checkpoint⟩, pending
           state := { totals := .zero, completed } }

/-- A run that does some of its tasks: all of them, or those before an interruption. -/
def runSome (choose : List Task → List Task) (request : Request) : Job State := do
  let run ← prepare request
  let size ← Job.ofExcept (batchSize request.batchSize)
  (choose (tasks size run.pending)).foldlM (perform run) run.state

/-- The whole run. -/
def run (request : Request) : Job Totals := do
  let state ← runSome id request
  message "[SUCCESS] All inputs simulated. Results saved."
  return state.totals

end TapeMachine.Pool
