import Std.Time.DateTime.Timestamp
import TapeMachine.Program.Inspector
import TapeMachine.Program.PoolRunner
import TapeMachine.Program.Simulator
/-!
# The command line

The outer layer of the three programs. A job sees the files that its command line and its settings name; what
it changes in them is written back, and what it shows is printed. Between two questions of a session the same
happens again. Nothing is decided here.

* `main` : the inspector and the pool runner by their names, and the simulator for all other arguments.
-/

namespace TapeMachine.Console

open CommandLine

/-! ## 1. The world of a job -/

/-- The time of the clock. -/
def now : IO Timestamp := do
  let nanos := (← Std.Time.Timestamp.now).toNanosecondsSinceUnixEpoch.val.toNat
  return Timestamp.ofSeconds (nanos / 1000000000) (nanos / 1000 % 1000000)

/-- The files with one more, if it can be read. -/
def readInto (files : FileTree) (path : String) : IO FileTree := do
  try
    return files.add path (← IO.FS.readFile path)
  catch
    | .inappropriateType .. => return files.addAt (files.placeOf path) .directory
    | _ => return files

/-- The world in which a job finds the files of some paths. -/
def world (paths : List String) : IO Workspace := do
  let files := FileTree.empty (pathComponents (toString (← IO.currentDir)))
  return { files := ← paths.foldlM readInto files, clock := ← now, events := #[] }

/-- The texts on a command line that may name files. -/
def namedFiles (usage : Usage) (texts : List String) : List String :=
  match usage.read texts with
  | .error _ => []
  | .ok arguments => arguments.operands.map (·.2) ++ arguments.given.filterMap fun (_, value) =>
      match value with
      | .str text => some text
      | _ => none

/-- The files to which the simulator adds its logs. -/
def logFiles (texts : List String) (workspace : Workspace) : List String :=
  match Simulator.usage.read texts with
  | .error _ => []
  | .ok arguments =>
      match ((Simulator.readSettings arguments).start workspace).1 with
      | .error _ => []
      | .ok settings =>
          let log : RunLog := { directory := settings.outputDirectory, filePrefix := settings.logFilePrefix
                                today := workspace.clock.day }
          log.mainPath :: [Outcome.accepted, .rejected, .halted].map log.outcomePath

/-- The files that a pool run continues. -/
def poolFiles (texts : List String) : List String :=
  match PoolRunner.usage.read texts with
  | .error _ => []
  | .ok arguments =>
      let request := PoolRunner.request arguments
      match request.resultsRoot, request.poolFile with
      | .str root, .str pool =>
          let folder := Pool.folder (Path.ofText root) (Path.ofText pool)
          [(Pool.resultsPath folder request.outputName).text, (Pool.checkpointPath folder request.outputName).text]
      | _, _ => []

/-! ## 2. What a job leaves behind -/

/-- Writes back what is new in the files. -/
def save (before after : FileTree) : IO Unit :=
  after.nodes.toList.forM fun (place, node) => do
    if before.node? place ≠ some node then
      let path := "/" ++ "/".intercalate place
      match node with
      | .directory => IO.FS.createDirAll path
      | .file text => IO.FS.writeFile path text

/-- Prints one thing that is shown. -/
def display (event : Event) : IO Unit :=
  match event with
  | .line text => IO.println text
  | .print text => IO.println text
  | .table t => do
      IO.println t.title
      (t.header :: t.rows).forM fun cells => IO.println ("  ".intercalate cells)
  | .prompt text => do
      IO.print text
      (← IO.getStdout).flush

/-- Runs a job in a world: its events are printed and its changes are written back. -/
def perform {α : Type} (job : Job α) (workspace : Workspace) : IO (Except Error α × Workspace) := do
  let (outcome, after) := job.start { workspace with clock := ← now, events := #[] }
  after.events.forM display
  save workspace.files after.files
  return (outcome, after)

/-! ## 3. Programs -/

/-- The exit status of an ending, after its complaint. -/
def close (ending : Except Error Ending) : IO UInt32 :=
  match ending with
  | .ok ending => do
      if ending.complaint ≠ "" then IO.eprintln ending.complaint
      return ending.status.toUInt32
  | .error e => do
      IO.eprintln e.message
      return 1

/-- Asks the user until the simulator is done. -/
partial def converse (outcome : Except Error Simulator.Stage) (workspace : Workspace) : IO UInt32 := do
  match outcome with
  | .error e => close (.error e)
  | .ok (.ended ending) => close (.ok ending)
  | .ok (.waiting session mode) =>
      let line ← (← IO.getStdin).getLine
      if line.isEmpty then close (.error .endOfAnswers)
      else
        let answer := String.ofList (dropLineFeed line.toList)
        let (outcome, workspace) ← perform (Simulator.resume session mode answer) workspace
        converse outcome workspace

/-- A program without questions. -/
def runOnce (program : List String → Job Ending) (paths texts : List String) : IO UInt32 := do
  let (ending, _) ← perform (program texts) (← world paths)
  close ending

/-- The simulator. -/
def simulate (texts : List String) : IO UInt32 := do
  let paths := Entries.defaultPath :: namedFiles Simulator.usage texts
  let workspace ← world paths
  let workspace ← world (paths ++ logFiles texts workspace)
  let (outcome, workspace) ← perform (Simulator.begin texts) workspace
  converse outcome workspace

end TapeMachine.Console

open TapeMachine in
/-- The three programs. -/
def main (texts : List String) : IO UInt32 :=
  match texts with
  | "inspect" :: texts => Console.runOnce Inspector.run (Console.namedFiles Inspector.usage texts) texts
  | "pool" :: texts =>
      Console.runOnce PoolRunner.run (Console.namedFiles PoolRunner.usage texts ++ Console.poolFiles texts) texts
  | texts => Console.simulate texts
