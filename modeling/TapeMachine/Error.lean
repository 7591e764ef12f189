import TapeMachine.Json.Reader
import TapeMachine.Machine.Error
import TapeMachine.Markup.Render
import TapeMachine.Parts
import TapeMachine.Workspace.Timestamp
/-!
# Errors

Every way in which a job can fail, by cause. The wording of each cause stands beside it.

* `FileError`, `SettingsError`, `RunError` : the causes that concern files, settings and runs;
* `Error` : all causes, with `Error.message`;
* `Error.isSettingsFault`, `Error.isMachineFault` : the groups that a program reports instead of failing.
-/

namespace TapeMachine

/-! ## 1. Files -/

/-- Why the file system refuses an operation. -/
inductive FileFault where
  | notFound
  | taken
  | notDirectory
  | isDirectory
  | nameTooLong
  deriving DecidableEq, Repr

/-- The number and the words of a fault. -/
def FileFault.text : FileFault → String
  | .notFound => "[Errno 2] No such file or directory"
  | .taken => "[Errno 17] File exists"
  | .notDirectory => "[Errno 20] Not a directory"
  | .isDirectory => "[Errno 21] Is a directory"
  | .nameTooLong => "[Errno 36] File name too long"

/-- What can go wrong with a file. -/
inductive FileError where
  | refused (fault : FileFault) (path : String)
  /-- The path holds the character of code zero, which no file name can hold. -/
  | zeroInPath
  | noMachine (path : String)
  | noSettings (path : String)
  /-- A number names no file that is open. -/
  | notOpen
  | negativeNumber
  | numberTooSmall
  | numberTooGreat
  deriving DecidableEq, Repr

/-- The wording of a file error. -/
def FileError.message : FileError → String
  | .refused fault path => s!"{fault.text}: {Text.quote path}"
  | .zeroInPath => "embedded null byte"
  | .noMachine path => s!"Machine definition not found at: {path}"
  | .noSettings path => s!"Configuration file not found at: {path}"
  | .notOpen => "[Errno 9] Bad file descriptor"
  | .negativeNumber => "negative file descriptor"
  | .numberTooSmall => "fd is less than minimum"
  | .numberTooGreat => "fd is greater than maximum"

/-- The numbers of files lie between this limit below zero, which may be reached, and this one above it. -/
def fileNumberLimit : Int :=
  2147483648

/-! ## 2. Settings -/

/-- What can be wrong with settings. -/
inductive SettingsError where
  | missing (key : String)
  | wrongShape (key : String) (expected found : Shape)
  | negativeMaxSteps
  | tooFewWorkers
  /-- An entry that should be a name and a value has another number of items. -/
  | notPair (index length : Nat)
  deriving DecidableEq, Repr

/-- The wording of a settings error. -/
def SettingsError.message : SettingsError → String
  | .missing key => s!"Missing required configuration key: {key}"
  | .wrongShape key expected found =>
      s!"Config key '{key}' expected <class '{expected.word}'>, got <class '{found.word}'>."
  | .negativeMaxSteps => "max_steps must be zero or greater."
  | .tooFewWorkers => "workers must be at least 1."
  | .notPair index length =>
      s!"dictionary update sequence element #{index} has length {length}; 2 is required"

/-! ## 3. Runs -/

/-- What can go wrong with a run. -/
inductive RunError where
  | badMaxSteps (value : Json)
  | nothingToUndo
  | stillRunning
  | unknownOutcome (value : Json)
  | unknownReason (value : Json)
  | zeroBatchSize
  deriving DecidableEq, Repr

/-- The wording of a run error. -/
def RunError.message : RunError → String
  | .badMaxSteps value => s!"max_steps must be a non-negative integer, got {value.quoted}"
  | .nothingToUndo => "Nothing to undo."
  | .stillRunning => "Machine is still running; call step() or run() first."
  | .unknownOutcome value => s!"{value.quoted} is not a valid Outcome"
  | .unknownReason value => s!"{value.quoted} is not a valid HaltReason"
  | .zeroBatchSize => "range() arg 3 must not be zero"

/-! ## 4. All errors -/

/-- Why a job fails. -/
inductive Error where
  | definition (e : DefinitionError)
  | parts (e : PartsError)
  | input (e : InputError)
  | read (e : Json.ReadError)
  | shape (e : ShapeError)
  | file (e : FileError)
  | settings (e : SettingsError)
  | run (e : RunError)
  | markup (e : MarkupError)
  | time (e : TimeError)
  /-- The user is asked and gives no answer any more. -/
  | endOfAnswers
  deriving DecidableEq, Repr

namespace Error

/-- The wording of an error. -/
def message : Error → String
  | .definition e => e.message
  | .parts e => e.message
  | .input e => e.message
  | .read e => e.message
  | .shape e => e.message
  | .file e => e.message
  | .settings e => e.message
  | .run e => e.message
  | .markup e => e.message
  | .time e => e.message
  | .endOfAnswers => "EOF when reading a line"

/-- Whether an error lies in what a settings file says, and not in the way to it. -/
def isSettingsFault : Error → Bool
  | .read (.tooDeep _) => false
  | .read _ | .settings _ | .file .zeroInPath => true
  | .markup e => e.isColourPart
  | .shape (.lacks _ _) | .shape .tooLarge => false
  | .shape _ => true
  | _ => false

/-- Whether an error lies in a machine or in an input, or is a file that is not there. -/
def isMachineFault : Error → Bool
  | .definition _ | .input _ | .read (.malformed _ _) => true
  | .file (.refused .notFound _) | .file (.noMachine _) | .file (.noSettings _) => true
  | _ => false

instance : MonadLift (Except DefinitionError) (Except Error) := ⟨fun x => x.mapError .definition⟩
instance : MonadLift (Except PartsError) (Except Error) := ⟨fun x => x.mapError .parts⟩
instance : MonadLift (Except InputError) (Except Error) := ⟨fun x => x.mapError .input⟩
instance : MonadLift (Except Json.ReadError) (Except Error) := ⟨fun x => x.mapError .read⟩
instance : MonadLift (Except ShapeError) (Except Error) := ⟨fun x => x.mapError .shape⟩
instance : MonadLift (Except FileError) (Except Error) := ⟨fun x => x.mapError .file⟩
instance : MonadLift (Except SettingsError) (Except Error) := ⟨fun x => x.mapError .settings⟩
instance : MonadLift (Except RunError) (Except Error) := ⟨fun x => x.mapError .run⟩
instance : MonadLift (Except MarkupError) (Except Error) := ⟨fun x => x.mapError .markup⟩
instance : MonadLift (Except TimeError) (Except Error) := ⟨fun x => x.mapError .time⟩

end Error

end TapeMachine
