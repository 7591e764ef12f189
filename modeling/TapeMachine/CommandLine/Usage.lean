import TapeMachine.Text.Quoted
/-!
# Usages

What a program accepts on its command line: operands, known by their position, and options, known by their
spellings.

* `CommandLine.OptionSpec`, `CommandLine.Usage` : an option, and all that a program accepts;
* `CommandLine.UsageError` : what can be wrong with a command line.
-/

namespace TapeMachine.CommandLine

/-! ## 1. Options -/

/-- What an option asks for. -/
inductive Wish where
  /-- Nothing more: the option is there or not. -/
  | presence
  | text
  | wholeNumber
  /-- Nothing more: the program shows how it is used and does nothing else. -/
  | help
  deriving DecidableEq, Repr

/-- Whether a value belongs to the option. -/
def Wish.takesValue : Wish → Bool
  | .text | .wholeNumber => true
  | .presence | .help => false

/-- An option: its spellings, what it asks for, and whether it may be left out. -/
structure OptionSpec where
  spellings : List String
  wish : Wish
  required : Bool := false
  deriving DecidableEq, Repr

namespace OptionSpec

/-- The name by which the values of an option are asked for: its first spelling. -/
def name (o : OptionSpec) : String :=
  o.spellings.headD ""

/-- The option in messages: all its spellings. -/
def label (o : OptionSpec) : String :=
  "/".intercalate o.spellings

/-- The option that every program has. -/
def help : OptionSpec :=
  { spellings := ["-h", "--help"], wish := .help }

end OptionSpec

/-- What a program accepts: the names of its operands, and its options. -/
structure Usage where
  program : String
  operands : List String
  options : List OptionSpec
  deriving DecidableEq, Repr

namespace Usage

/-- All spellings in order, each with its option. -/
def spellings (u : Usage) : List (String × OptionSpec) :=
  u.options.flatMap fun o => o.spellings.map (·, o)

/-- The option with a spelling. -/
def find? (u : Usage) (spelling : String) : Option OptionSpec :=
  (u.spellings.find? (·.1 = spelling)).map (·.2)

end Usage

/-! ## 2. Errors -/

/-- What can be wrong with a command line. -/
inductive UsageError where
  /-- An argument could be short for several options. -/
  | ambiguous (argument : String) (spellings : List String)
  | noValue (option : OptionSpec)
  | needlessValue (option : OptionSpec) (value : String)
  | notWholeNumber (option : OptionSpec) (value : String)
  | missing (names : List String)
  | unknown (arguments : List String)
  deriving DecidableEq, Repr

/-- The wording of a usage error. -/
def UsageError.message : UsageError → String
  | .ambiguous argument spellings =>
      "ambiguous option: " ++ argument ++ " could match " ++ ", ".intercalate spellings
  | .noValue option => s!"argument {option.label}: expected one argument"
  | .needlessValue option value =>
      s!"argument {option.label}: ignored explicit argument {Text.quote value}"
  | .notWholeNumber option value => s!"argument {option.label}: invalid int value: {Text.quote value}"
  | .missing names => "the following arguments are required: " ++ ", ".intercalate names
  | .unknown arguments => "unrecognized arguments: " ++ " ".intercalate arguments

end TapeMachine.CommandLine
