import TapeMachine.Chart
import TapeMachine.Workspace.FileTree
import TapeMachine.Workspace.Timestamp
/-!
# Jobs

A job works on a workspace: it reads and changes files, looks at the clock and shows things to the user. A
job that fails keeps what it has done so far.

* `Event`, `Workspace`, `Job` : what is shown, the world of a job, and jobs;
* `Job.say`, `Job.print`, `Job.chart`, `Job.prompt` : showing lines, texts, tables and questions;
* `Job.readText`, `Job.append`, `Job.overwrite`, … : working with files.
-/

namespace TapeMachine

/-- One thing that is shown. -/
inductive Event where
  /-- A line of plain output. -/
  | line (text : String)
  /-- A text in one piece. -/
  | print (text : String)
  | table (table : Table)
  /-- A question that the user is asked. -/
  | prompt (text : String)
  deriving DecidableEq, Repr

/-- The world of a job. -/
structure Workspace where
  files : FileTree
  clock : Timestamp
  events : Array Event

/-- A computation in a workspace that may fail. -/
abbrev Job := ExceptT Error (StateM Workspace)

namespace Job

/-- A computation that needs no workspace. -/
def ofExcept {α : Type} (x : Except Error α) : Job α :=
  match x with
  | .ok a => pure a
  | .error e => throw e

/-- The outcome of a job and the workspace behind it. -/
def start {α : Type} (job : Job α) (workspace : Workspace) : Except Error α × Workspace :=
  job.run.run workspace

/-- Shows something. -/
def emit (event : Event) : Job Unit :=
  modify fun w => { w with events := w.events.push event }

/-- Shows text as lines of plain output. -/
def say (text : String) : Job Unit :=
  (Text.shownLines text).forM fun line => emit (.line line)

/-- What is seen of a text in markup. -/
def seen (markup : String) : Job String :=
  ofExcept ((Markup.render markup).mapError .markup)

/-- Shows a text in markup in one piece. -/
def print (markup : String) : Job Unit := do
  emit (.print (← seen markup))

/-- Shows a plain text in one piece. -/
def printPlain (text : String) : Job Unit :=
  emit (.print (Markup.shownText text))

/-- Shows a table. -/
def chart (table : Table) : Job Unit := do
  emit (.table (← ofExcept (table.seen.mapError .markup)))

/-- Shows a question in markup, with what stands behind it. -/
def prompt (markup tail : String) : Job Unit := do
  emit (.prompt ((← seen markup) ++ tail))

/-- The time of the clock. -/
def now : Job Timestamp := do
  return (← get).clock

/-- The files as they are. -/
def files : Job FileTree := do
  return (← get).files

/-- Changes the files. -/
def setFiles (files : FileTree) : Job Unit :=
  modify fun w => { w with files := files }

/-- A question about the files. -/
def askFiles {α : Type} (f : FileTree → Except FileError α) : Job α := do
  ofExcept ((f (← files)).mapError .file)

/-- A change of the files that is done completely or not at all. -/
def changeFiles (f : FileTree → Except FileError FileTree) : Job Unit := do
  setFiles (← askFiles f)

/-- A change of the files that may stop half-way. -/
def tryFiles (f : FileTree → FileTree × Except FileError Unit) : Job Unit := do
  let (files, outcome) := f (← files)
  setFiles files
  ofExcept (outcome.mapError .file)

/-- The path that a value names. -/
def pathText (value : Json) : Job String :=
  ofExcept (value.asPath.mapError .shape)

/-- The path that a value names, where a number may name a file that is open. None is. -/
def pathOrNumber (value : Json) : Job String :=
  match value with
  | .int n =>
      if n < -fileNumberLimit || fileNumberLimit ≤ n then pathText value
      else throw (.file (if n < 0 then .negativeNumber else .notOpen))
  | value => pathText value

/-- The text of a file. -/
def readText (path : String) : Job String :=
  askFiles (·.readText path)

/-- Adds text to the end of a file. -/
def append (path text : String) : Job Unit :=
  changeFiles (·.append path text)

/-- Replaces the text of a file. -/
def overwrite (path text : String) : Job Unit :=
  changeFiles (·.overwrite path text)

end Job

/-- The path that a value names, in normal form. -/
def Path.ofJson (value : Json) : Job Path := do
  return Path.ofText (← Job.pathText value)

end TapeMachine
