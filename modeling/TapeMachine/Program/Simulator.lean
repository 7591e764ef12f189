import TapeMachine.Machine.Load
import TapeMachine.Program.Ending
import TapeMachine.Session
/-!
# The simulator

The simulator runs the inputs of its command line on a machine and logs the results, or, when it is given no
input, holds a session with the user. What the command line says wins over the settings file.

* `Simulator.usage` : what it accepts;
* `Simulator.begin`, `Simulator.resume` : up to the first question, and on from an answer;
* `Simulator.run` : the whole program, with the answers of the user.
-/

namespace TapeMachine.Simulator

open CommandLine

/-! ## 1. Command line -/

/-- What the simulator accepts. -/
def usage : Usage :=
  { program := "app.py"
    operands := ["machine"]
    options := [
      .help,
      { spellings := ["--input", "-i"], wish := .text },
      { spellings := ["--config"], wish := .text },
      { spellings := ["--max-steps"], wish := .wholeNumber },
      { spellings := ["--workers"], wish := .wholeNumber },
      { spellings := ["--left-bounded"], wish := .presence },
      { spellings := ["--no-trace"], wish := .presence },
      { spellings := ["--no-log"], wish := .presence }] }

/-- What the arguments say about the settings. -/
def overrides (arguments : Arguments) : List (String × Json) :=
  ((arguments.value? "--max-steps").map ("max_steps", ·)).toList ++
  ((arguments.value? "--workers").map ("workers", ·)).toList ++
  (if arguments.has "--left-bounded" then [("left_bounded", .bool true)] else []) ++
  (if arguments.has "--no-trace" then [("show_trace", .bool false)] else []) ++
  (if arguments.has "--no-log" then [("log_runs", .bool false)] else [])

/-! ## 2. Settings -/

/-- The settings of a file, or the defaults if there is no such file. The path is shown as markup. -/
def readEntries (path : Json) : Job Entries := do
  let normal ← Path.ofJson path
  if ← Job.askFiles (·.probe normal.text) then Entries.load path false
  else
    Job.print (styled "yellow" s!"Config {path.display} not found, using defaults.")
    return Entries.defaults

/-- The settings for a command line. -/
def readSettings (arguments : Arguments) : Job Settings := do
  let entries ← readEntries ((arguments.value? "--config").getD (.str Entries.defaultPath))
  let entries := (overrides arguments).foldl (fun entries (key, value) => entries.put (.str key) value) entries
  Job.ofExcept entries.settings

/-- The log of the runs, if they are to be logged. -/
def openLog (settings : Settings) : Job (Option RunLog) := do
  if settings.logRuns then
    return some (← RunLog.create (.str settings.outputDirectory) (.str settings.logFilePrefix))
  else return none

/-! ## 3. Inputs of the command line -/

/-- Runs inputs, shows the machine and all results, logs them, and shows the counts. Nothing is shown before
all inputs have been run. -/
def runInputs (d : Definition) (inputs : List Json) (settings : Settings) : Job Unit := do
  let results ← Job.ofExcept (d.runAll inputs settings.batchOptions)
  d.report
  results.forM (·.report settings.showTrace)
  match ← openLog settings with
  | some log => log.logResults results d.name
  | none => pure ()
  (summarize (results.map (·.outcome))).report

/-! ## 4. The program -/

/-- Where the program is: over, or in a session that waits for an answer. -/
inductive Stage where
  | ended (ending : Ending)
  | waiting (session : Session) (mode : Session.Mode)

/-- Where a session leaves the program. -/
def stageOf (session : Session) : Session.Mode → Stage
  | .finished => .ended .done
  | mode => .waiting session mode

/-- A job on a machine, whose expected errors are shown. -/
def onMachine (job : Job Stage) : Job Stage :=
  Job.reporting Error.isMachineFault "Error: " (.ended .failed) job

/-- The first question of a session. -/
def openSession (definition : Definition) (settings : Settings) : Job Stage := do
  let session : Session := { definition, settings, log := ← openLog settings }
  return stageOf session (← session.enter .menu)

/-- The work on a machine up to the first question. -/
def work (arguments : Arguments) (settings : Settings) : Job Stage :=
  onMachine do
    let d ← Definition.load (.str (arguments.operand "machine"))
    match arguments.values "--input" with
    | [] => openSession d settings
    | inputs => do
        runInputs d inputs settings
        return .ended .done

/-- The program up to the first question. -/
def begin (texts : List String) : Job Stage :=
  Job.withArguments usage texts .ended fun arguments => do
    let settings ← Job.reporting Error.isSettingsFault "Configuration error: " none
      (some <$> readSettings arguments)
    match settings with
    | some settings => work arguments settings
    | none => return .ended .failed

/-- The program from an answer to the next question. -/
def resume (session : Session) (mode : Session.Mode) (answer : String) : Job Stage :=
  onMachine do return stageOf session (← session.respond mode answer)

/-- The program with the answers that the user gives; a question without an answer is an error. -/
def finish : Stage → List String → Job Ending
  | .ended ending, _ => return ending
  | .waiting _ _, [] => throw .endOfAnswers
  | .waiting session mode, answer :: answers => do finish (← resume session mode answer) answers

/-- The whole program. -/
def run (texts answers : List String) : Job Ending := do
  finish (← begin texts) answers

end TapeMachine.Simulator
