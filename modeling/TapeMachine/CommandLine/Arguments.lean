import TapeMachine.CommandLine.Word
import TapeMachine.Json.Value
/-!
# Arguments

A command line read by a usage: the texts of the operands, and the options with their values in the order in
which they were given. Operands and options may be mixed. Reading stops at the first fault, or at a wish for
help; what is missing or left over is looked at in the end.

There are two conventions for two dashes that are attached to an option: to drop them there as they are dropped
between arguments, so that the option is left with an empty list, or to keep them as its text. The library follows
the first one (`Wish.value`).

* `CommandLine.Arguments` : what was given, with `operand`, `values`, `value?` and `has`;
* `Usage.read` : the arguments of a command line, or why there are none.
-/

namespace TapeMachine.CommandLine

/-! ## 1. Arguments -/

/-- What was given: the operands by their names, the options by theirs, and what belongs to neither. The value
of an option is a text or a number, `true` if it takes none, and an empty list for two lone dashes attached
to it. -/
structure Arguments where
  operands : List (String × String) := []
  given : List (String × Json) := []
  extras : List String := []
  deriving DecidableEq, Repr

namespace Arguments

variable (a : Arguments)

/-- The text of an operand. -/
def operand (name : String) : String :=
  (a.operands.lookup name).getD ""

/-- The values that were given for an option, in order. -/
def values (name : String) : List Json :=
  a.given.filterMap fun (option, value) => if option = name then some value else none

/-- The last value that was given for an option. -/
def value? (name : String) : Option Json :=
  (a.values name).getLast?

/-- Whether an option was given. -/
def has (name : String) : Bool :=
  a.given.any (·.1 = name)

/-- The arguments with an operand in front. -/
def withOperand (name text : String) : Arguments :=
  { a with operands := (name, text) :: a.operands }

/-- The arguments with something in front that belongs nowhere. -/
def withExtra (text : String) : Arguments :=
  { a with extras := text :: a.extras }

end Arguments

/-! ## 2. Options and their values -/

/-- Why no arguments are read. -/
inductive Stop where
  | help
  | fault (e : UsageError)
  deriving DecidableEq, Repr

/-- An option as it is used, with the text of its value if it takes one. -/
structure Use where
  option : OptionSpec
  value : Option String
  deriving DecidableEq, Repr

/-- The value that a text stands for. Two lone dashes are dropped, which leaves an empty list whatever the option
asks for. -/
def Wish.value (wish : Wish) (text : String) : Option Json :=
  if text = "--" then some (.arr [])
  else match wish with
    | .wholeNumber => (Text.readInteger text).map .int
    | _ => some (.str text)

/-- The name of the option and its value. -/
def Use.perform (use : Use) : Except Stop (String × Json) :=
  match use.option.wish, use.value with
  | .help, _ => .error .help
  | wish, some text =>
      match wish.value text with
      | some value => .ok (use.option.name, value)
      | none => .error (.fault (.notWholeNumber use.option text))
  | _, none => .ok (use.option.name, .bool true)

/-- What an argument says that is an option: the uses in it, and the option, if any, whose value must be the
next argument. -/
structure Cluster where
  uses : List Use := []
  open? : Option OptionSpec := none

/-- The uses with the value of the option that still waits for one. -/
def Cluster.closedBy (cluster : Cluster) (text : String) : List Use :=
  cluster.uses ++ (cluster.open?.map fun spec => ⟨spec, some text⟩).toList

/-- An option with nothing attached. -/
def alone (spec : OptionSpec) : Cluster :=
  if spec.wish.takesValue then { open? := some spec } else { uses := [⟨spec, none⟩] }

/-- A short option with characters attached to it: its value, or more short options if it takes none. -/
def withShort (u : Usage) (spec : OptionSpec) (cs : List Char) : Except UsageError Cluster :=
  if spec.wish.takesValue then .ok { uses := [⟨spec, some (String.ofList cs)⟩] }
  else match cs with
    | [] => .error (.needlessValue spec "")
    | c :: rest =>
        match u.find? (String.ofList ['-', c]), rest with
        | none, _ => .error (.needlessValue spec (String.ofList (c :: rest)))
        | some next, [] => do
            let cluster := alone next
            return { cluster with uses := ⟨spec, none⟩ :: cluster.uses }
        | some next, rest => do
            let cluster ← withShort u next rest
            return { cluster with uses := ⟨spec, none⟩ :: cluster.uses }
termination_by cs.length

/-- A long option with a value attached to it. -/
def withLong (spec : OptionSpec) (value : String) : Except UsageError Cluster :=
  if spec.wish.takesValue then .ok { uses := [⟨spec, some value⟩] }
  else .error (.needlessValue spec value)

/-- An option with what is attached to it. -/
def cluster (u : Usage) (spec : OptionSpec) : Option Attached → Except UsageError Cluster
  | none => .ok (alone spec)
  | some ⟨true, cs⟩ => withShort u spec cs
  | some ⟨false, value⟩ => withLong spec (String.ofList value)

/-! ## 3. Reading -/

/-- The words without a separator in front. -/
def dropSeparator : List Word → List Word
  | .separator :: rest => rest
  | rest => rest

theorem length_dropSeparator_le (words : List Word) : (dropSeparator words).length ≤ words.length := by
  unfold dropSeparator
  split <;> simp

/-- Some options, then more arguments. -/
def followedBy (uses : List Use) (more : Except Stop Arguments) : Except Stop Arguments := do
  let given ← uses.mapM Use.perform
  let more ← more
  return { more with given := given ++ more.given }

/-- What the words say, where some operands are not seen yet. A separator beside an operand belongs to it. -/
def walk (u : Usage) (waiting : List String) (words : List Word) : Except Stop Arguments :=
  match waiting, words with
  | _, [] => .ok {}
  | name :: waiting, .operand text :: rest => do
      return (← walk u waiting (dropSeparator rest)).withOperand name text
  | name :: waiting, .separator :: .operand text :: rest => do
      return (← walk u waiting rest).withOperand name text
  | [], .operand text :: rest => do return (← walk u [] rest).withExtra text
  | waiting, .separator :: rest => do return (← walk u waiting rest).withExtra "--"
  | waiting, .stray text :: rest => do return (← walk u waiting rest).withExtra text
  | waiting, .option spec attached :: rest => do
      let cluster ← (cluster u spec attached).mapError .fault
      match cluster.open?, rest with
      | none, rest => followedBy cluster.uses (walk u waiting rest)
      | some _, .operand text :: rest => followedBy (cluster.closedBy text) (walk u waiting rest)
      | some spec, _ => .error (.fault (.noValue spec))
termination_by words.length
decreasing_by
  all_goals simp only [List.length_cons]
  · have := length_dropSeparator_le rest
    omega
  all_goals omega

/-- What is required and not there. -/
def Usage.missing (u : Usage) (a : Arguments) : List String :=
  u.operands.filter (fun name => !a.operands.any (·.1 = name)) ++
    (u.options.filter fun o => o.required && !a.has o.name).map OptionSpec.label

/-- The arguments of a command line. -/
def Usage.read (u : Usage) (texts : List String) : Except Stop Arguments := do
  let words ← (u.words texts).mapError .fault
  let arguments ← walk u u.operands words
  if u.missing arguments ≠ [] then
    throw (.fault (.missing (u.missing arguments)))
  if arguments.extras ≠ [] then
    throw (.fault (.unknown arguments.extras))
  return arguments

end TapeMachine.CommandLine
