import TapeMachine.Json.Writer
import TapeMachine.Run.Result
import TapeMachine.Workspace.Job
/-!
# Run logs

Runs are logged as lines of JSON. The main log of a day holds a summary of each run; beside it, a file for
each outcome holds the runs that ended so, with their traces. Files only ever grow.

* `RunLog.create`, `RunLog.ofParts`, `RunLog.rotate` : a log for the day of the clock;
* `RunLog.logAll` : entries for the main log;
* `RunLog.logResult` : a run, in the main log and in the file of its outcome.
-/

namespace TapeMachine

/-- Where runs are logged, and the day of the current files. -/
structure RunLog where
  directory : String
  filePrefix : String
  today : String
  deriving DecidableEq, Repr

namespace RunLog

/-- The path of the main log. -/
def mainPath (log : RunLog) : String :=
  joinText log.directory (log.filePrefix ++ log.today ++ ".jsonl")

/-- The path of the file of an outcome. -/
def outcomePath (log : RunLog) (outcome : Outcome) : String :=
  joinText log.directory (outcome.word ++ "_" ++ log.today ++ ".jsonl")

/-- A value as a line of a log. -/
def line (entry : Json) : String :=
  entry.render ++ "\n"

/-- A run as an entry: the name of its machine, the time, and the fields of its result. -/
def entry (machine : Json) (time : Timestamp) (fields : Fields) : Json :=
  .obj (("machine", machine) :: ("timestamp", .str time.utc) :: fields)

/-- A log for the day of the clock in a directory, which is made; the names of its main files start with a
value of any shape. -/
def create (directory filePrefix : Json) : Job RunLog := do
  let directory ← Job.pathText directory
  Job.tryFiles (·.makeDirectories directory)
  return { directory, filePrefix := filePrefix.display, today := (← Job.now).day }

/-- The parts of a log. -/
def partList : PartList :=
  { whole := "JSONLogger.__init__()"
    own := some "self"
    required := []
    optional := ["output_directory", "log_file_prefix"] }

/-- The log in named parts. -/
def ofParts (parts : Fields) : Job RunLog := do
  Job.ofExcept ((partList.check parts).mapError .parts)
  create ((parts.get? "output_directory").getD (.str "logs/"))
    ((parts.get? "log_file_prefix").getD (.str "tm_"))

/-- The log for the day of the clock. -/
def rotate (log : RunLog) : Job RunLog := do
  return { log with today := (← Job.now).day }

/-- Adds an entry to the main log. -/
def log (log : RunLog) (entry : Json) : Job Unit :=
  Job.append log.mainPath (line entry)

/-- Adds the items of a value to the main log, which is opened before the items are looked at. -/
def logAll (log : RunLog) (entries : Json) : Job Unit := do
  Job.append log.mainPath ""
  let items ← Job.ofExcept (entries.items.mapError .shape)
  Job.append log.mainPath (String.join (items.map line))

/-- Adds a run: its summary to the main log, and all of it to the file of its outcome. -/
def logResult (log : RunLog) (result : Result Char) (machine : Json) : Job Unit := do
  let time ← Job.now
  Job.append log.mainPath (line (entry machine time result.summaryFields))
  Job.append (log.outcomePath result.outcome) (line (entry machine time result.fields))

/-- Adds several runs, one after the other. -/
def logResults (log : RunLog) (results : List (Result Char)) (machine : Json) : Job Unit :=
  results.forM fun result => log.logResult result machine

end RunLog

end TapeMachine
