import TapeMachine.Report
import TapeMachine.RunLog
import TapeMachine.Settings
/-!
# Sessions

In a session the user tests tapes step by step. A session is in one of few modes, each of which asks one
question; an answer does something and leads to the next mode. An answer that is not understood leads to the
same question again. A run is logged once, when it is first seen to be over.

* `Session`, `Session.Mode` : what stays the same in a session, and where it is;
* `Session.enter` : what is shown in a mode before its question;
* `Session.respond` : what an answer does.
-/

namespace TapeMachine

open Markup (escape)

/-! ## 1. Questions -/

/-- A question in markup, the choices if only some answers are understood, and the answer that saying nothing
gives. -/
structure Question where
  text : String
  choices : Option (List String)
  default : String
  deriving DecidableEq, Repr

namespace Question

/-- What is shown behind the question: its choices and its default. -/
def hints (q : Question) : String :=
  let choices := match q.choices with
    | none => ""
    | some choices => " [" ++ "/".intercalate choices ++ "]"
  choices ++ " (" ++ q.default ++ "): "

/-- Asks the question. -/
def ask (q : Question) : Job Unit :=
  Job.prompt q.text q.hints

/-- What an answer says, if it is understood: the default for saying nothing, else the answer without the
blanks around it. -/
def read? (q : Question) (answer : String) : Option String :=
  if answer = "" then some q.default
  else
    let said := Text.trim answer
    match q.choices with
    | none => some said
    | some choices => if choices.contains said then some said else none

end Question

/-! ## 2. Modes -/

/-- What stays the same in a session. -/
structure Session where
  definition : Definition
  settings : Settings
  log : Option RunLog

namespace Session

/-- Where a session is. -/
inductive Mode where
  | menu
  /-- A tape is asked for. -/
  | tape
  /-- A run is stepped through; it may have been logged. -/
  | stepping (executor : Executor) (logged : Bool)
  | finished

variable (s : Session)

/-- The question of the menu. -/
def menuQuestion : Question :=
  { text := "\nChoose an option", choices := some ["1", "2", "3"], default := "3" }

/-- The question for a tape. -/
def tapeQuestion : Question :=
  { text := "\nTape over " ++ Definition.braced (s.definition.inputSymbols.toList.map glyph) ++
      " (type :q to go back)"
    choices := none
    default := "" }

/-- The question in a run. -/
def stepQuestion : Question :=
  { text := "(n)ext, (p)revious, (r)un, (q)uit", choices := some ["n", "p", "r", "q"], default := "n" }

/-- The question of a mode. -/
def question : Mode → Option Question
  | .menu => some menuQuestion
  | .tape => some s.tapeQuestion
  | .stepping _ _ => some stepQuestion
  | .finished => none

/-! ## 3. Entering a mode -/

/-- Shows the menu. -/
def showMenu : Job Unit := do
  Job.print ("\n" ++ styled "bold cyan" "Turing Machine Simulator" ++ " - " ++ escape s.definition.name.display)
  Job.print "[1] Test a tape"
  Job.print "[2] Show machine definition"
  Job.print "[3] Exit"

/-- Logs a run unless it has been logged. -/
def logOnce (result : Result Char) (logged : Bool) : Job Bool :=
  match s.log, logged with
  | some log, false => do
      log.logResult result s.definition.name
      return true
  | _, _ => return logged

/-- Shows where a run stands; one that is over is also named and logged. -/
def showRun (executor : Executor) (logged : Bool) : Job Bool := do
  executor.report
  match executor.result with
  | .error _ => return logged
  | .ok result =>
      result.reportLabel
      s.logOnce result logged

/-- Shows what belongs to a mode. -/
def announce : Mode → Job Mode
  | .menu => do
      s.showMenu
      return .menu
  | .stepping executor logged => do return .stepping executor (← s.showRun executor logged)
  | mode => return mode

/-- Asks the question of a mode. -/
def ask (mode : Mode) : Job Unit :=
  match s.question mode with
  | some question => question.ask
  | none => pure ()

/-- Shows what belongs to a mode, and asks its question. -/
def enter (mode : Mode) : Job Mode := do
  let mode ← s.announce mode
  s.ask mode
  return mode

/-! ## 4. Answers -/

/-- The executor of a valid tape. -/
def start (tape : String) : Except Error Executor :=
  Executor.create s.definition (.str tape)
    { maxSteps := s.settings.maxSteps, leftBounded := s.settings.leftBounded }

/-- What a choice in the menu leads to. -/
def chooseInMenu (choice : String) : Job Mode :=
  match choice with
  | "1" => s.enter .tape
  | "2" => do
      s.definition.report
      s.enter .menu
  | _ => do
      Job.print (styled "bold green" "Goodbye!")
      return .finished

/-- What a tape leads to: its run, unless it holds other symbols or is the wish to go back. -/
def chooseTape (tape : String) : Job Mode :=
  if tape = ":q" then s.enter .menu
  else match s.start tape with
    | .ok executor => s.enter (.stepping executor false)
    | .error e => do
        Job.print (styled "red" (escape e.message))
        s.enter .tape

/-- What a choice in a run leads to. -/
def chooseInRun (executor : Executor) (logged : Bool) (choice : String) : Job Mode :=
  match choice with
  | "n" => s.enter (.stepping executor.step logged)
  | "p" =>
      match executor.undo with
      | .ok executor => s.enter (.stepping executor logged)
      | .error e => do
          Job.print (styled "yellow" e.message)
          s.enter (.stepping executor logged)
  | "r" => do
      let executor := executor.run
      let result ← Job.ofExcept (executor.result.mapError .run)
      result.report s.settings.showTrace
      s.enter (.stepping executor logged)
  | _ => s.enter .menu

/-- What is said when an answer is not understood. -/
def notUnderstood : String :=
  "Please select one of the available options"

/-- What an answer in a mode leads to, once it is understood. -/
def choose (said : String) : Mode → Job Mode
  | .menu => s.chooseInMenu said
  | .tape => s.chooseTape said
  | .stepping executor logged => s.chooseInRun executor logged said
  | .finished => return .finished

/-- What an answer does: one that is understood leads on, after any other the question comes again. -/
def respond (mode : Mode) (answer : String) : Job Mode :=
  match s.question mode with
  | none => return mode
  | some question =>
      match question.read? answer with
      | some said => s.choose said mode
      | none => do
          Job.print notUnderstood
          question.ask
          return mode

end Session

end TapeMachine
