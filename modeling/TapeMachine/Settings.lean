import TapeMachine.Json.Compare
import TapeMachine.Json.Display
import TapeMachine.Run.Batch
import TapeMachine.Workspace.Job
/-!
# Settings

The settings of a program come from a file that is laid over the defaults. They are checked key by key in a
fixed order before anything is done with them.

* `Settings`, `Settings.ofJson` : checked settings, and the check of a value of any shape;
* `Entries.defaults`, `Entries.overlay` : settings as written, and what a file changes in them;
* `Entries.load` : the settings of a file; their output directory is made.
-/

namespace TapeMachine

/-! ## 1. Checked settings -/

/-- Settings that have passed the check. -/
structure Settings where
  maxSteps : Nat
  leftBounded : Bool
  workers : Nat
  logRuns : Bool
  showTrace : Bool
  outputDirectory : String
  logFilePrefix : String
  resultsDirectory : String
  deriving DecidableEq, Repr

namespace Settings

/-- The value of a key, which must be there. -/
def value (config : Json) (key : String) : Except Error Json := do
  if ← (config.has key : Except ShapeError Bool) then
    return ← (config.get key : Except ShapeError Json)
  else throw (.settings (.missing key))

/-- A whole number; true and false are none. -/
def whole (config : Json) (key : String) : Except Error Int := do
  match ← value config key with
  | .int n => return n
  | other => throw (.settings (.wrongShape key .int other.shape))

/-- True or false. -/
def flag (config : Json) (key : String) : Except Error Bool := do
  match ← value config key with
  | .bool b => return b
  | other => throw (.settings (.wrongShape key .bool other.shape))

/-- A text. -/
def text (config : Json) (key : String) : Except Error String := do
  match ← value config key with
  | .str s => return s
  | other => throw (.settings (.wrongShape key .str other.shape))

/-- Checks all keys, then the ranges of the two numbers. -/
def ofJson (config : Json) : Except Error Settings := do
  let maxSteps ← whole config "max_steps"
  let leftBounded ← flag config "left_bounded"
  let workers ← whole config "workers"
  let logRuns ← flag config "log_runs"
  let showTrace ← flag config "show_trace"
  let outputDirectory ← text config "output_directory"
  let logFilePrefix ← text config "log_file_prefix"
  let resultsDirectory ← text config "results_directory"
  if maxSteps < 0 then
    throw (.settings .negativeMaxSteps)
  if workers < 1 then
    throw (.settings .tooFewWorkers)
  return { maxSteps := maxSteps.toNat, leftBounded, workers := workers.toNat, logRuns, showTrace,
           outputDirectory, logFilePrefix, resultsDirectory }

/-- How a batch is run with these settings. -/
def batchOptions (settings : Settings) : BatchOptions :=
  { maxSteps := .int settings.maxSteps, leftBounded := .bool settings.leftBounded
    workers := .int settings.workers }

end Settings

/-! ## 2. Settings as written -/

/-- Keys and values in order, each key once. -/
structure Entries where
  list : List (Json × Json)
  deriving DecidableEq, Repr

namespace Entries

/-- The settings without a file. -/
def defaults : Entries :=
  ⟨[(.str "max_steps", .int 10000), (.str "left_bounded", .bool false), (.str "workers", .int 1),
    (.str "log_runs", .bool true), (.str "show_trace", .bool true), (.str "output_directory", .str "logs/"),
    (.str "log_file_prefix", .str "tm_"), (.str "results_directory", .str "results/")]⟩

/-- Writes a key: in its place when it is known, at the end otherwise. -/
def putIn (key value : Json) : List (Json × Json) → List (Json × Json)
  | [] => [(key, value)]
  | entry :: rest =>
      if entry.1.same key then (entry.1, value) :: rest else entry :: putIn key value rest

/-- Writes a key: in its place when it is known, at the end otherwise. -/
def put (entries : Entries) (key value : Json) : Entries :=
  ⟨putIn key value entries.list⟩

/-- The pair that an item stands for: two items, the first of which can be a key. -/
def pair (index : Nat) (item : Json) : Except Error (Json × Json) :=
  match item.items with
  | .error _ => throw (.shape (.notPair index))
  | .ok [key, value] => do return (← (key.asKey : Except ShapeError Json), value)
  | .ok items => throw (.settings (.notPair index items.length))

/-- The pairs of a value: the fields of an object, or items that stand for pairs. -/
def pairs (value : Json) : Except Error (List (Json × Json)) :=
  match value with
  | .obj fields => .ok (fields.map fun field => (.str field.1, field.2))
  | value => do
      let items ← (value.items : Except ShapeError (List Json))
      (items.zipIdx).mapM fun (item, index) => pair index item

/-- The settings with everything that a file sets. -/
def overlay (entries : Entries) (file : Json) : Except Error Entries := do
  return (← pairs file).foldl (fun entries entry => entries.put entry.1 entry.2) entries

/-- The entries whose key is a text, as an object. -/
def toJson (entries : Entries) : Json :=
  .obj (entries.list.filterMap fun (key, value) =>
    match key with
    | .str name => some (name, value)
    | _ => none)

/-- The settings if they pass the check. -/
def settings (entries : Entries) : Except Error Settings :=
  Settings.ofJson entries.toJson

/-! ## 3. Loading -/

/-- The path of the settings file unless another one is asked for. -/
def defaultPath : String := "config/runtime_config.json"

/-- The path that a value names, where it should name a settings file. A number names a file that is open, and
none is. -/
def pathOf : Json → Except Error String
  | .str path => .ok path
  | .int n =>
      .error (.file
        (if n < -fileNumberLimit then .numberTooSmall
         else if fileNumberLimit ≤ n then .numberTooGreat
         else .noSettings (toString n)))
  | value => .error (.shape (.notSettingsPath value.shape))

/-- The settings of a file over the defaults. Nothing is made or shown before they have passed the check. -/
def load (path : Json) (verbose : Bool) : Job Entries := do
  let path ← Job.ofExcept (pathOf path)
  if !(← Job.files).holds path then
    throw (.file (.noSettings path))
  let text ← Job.readText path
  let file ← Job.ofExcept ((Json.read text).mapError .read)
  let entries ← Job.ofExcept (defaults.overlay file)
  let settings ← Job.ofExcept entries.settings
  Job.tryFiles (·.makeDirectories settings.outputDirectory)
  if verbose then
    Job.say s!"[{(← Job.now).text}] Loaded config:"
    entries.list.forM fun (key, value) => Job.say s!"  {key.display}: {value.display}"
  return entries

end Entries

end TapeMachine
