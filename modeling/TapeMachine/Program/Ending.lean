import TapeMachine.CommandLine.Arguments
import TapeMachine.Report
/-!
# How programs end

A program ends well, or after an error that it has shown, or because its command line is no good; then it
says what is wrong with it. Errors that a program does not expect end its job.

* `Ending`, `Ending.status`, `Ending.complaint` : the ways to end, the exit status and the complaint;
* `Job.withArguments` : a job for the arguments of a command line.
-/

namespace TapeMachine

open CommandLine

/-- How a program ends. -/
inductive Ending where
  | done
  /-- It has shown an error. -/
  | failed
  | misused (program : String) (e : UsageError)
  deriving DecidableEq, Repr

/-- The exit status. -/
def Ending.status : Ending → Nat
  | .done => 0
  | .failed => 1
  | .misused _ _ => 2

/-- What a program says about a command line that is no good. -/
def Ending.complaint : Ending → String
  | .misused program e => s!"{program}: error: {e.message}"
  | _ => ""

/-- Goes on with the arguments of a command line. A wish for help ends the program well. -/
def Job.withArguments {α : Type} (usage : Usage) (texts : List String) (ended : Ending → α)
    (next : Arguments → Job α) : Job α :=
  match usage.read texts with
  | .ok arguments => next arguments
  | .error .help => return ended .done
  | .error (.fault e) => return ended (.misused usage.program e)

/-- A job whose expected errors are shown and end the program. -/
def Job.reporting {α : Type} (isExpected : Error → Bool) (lead : String) (failed : α) (job : Job α) : Job α :=
  tryCatch job fun e =>
    if isExpected e then do
      Job.print (styled "red" (lead ++ Markup.escape e.message))
      return failed
    else throw e

end TapeMachine
