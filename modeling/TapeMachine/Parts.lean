import TapeMachine.Json.Value
import TapeMachine.Text.Quoted
/-!
# Named parts

Some things are made of parts that are given by name. No part may be there that is not known, and none may be
missing that is needed; the others have values of their own when they are left out.

* `PartList`, `PartList.check` : the parts of a thing, and the check of those that are given;
* `PartsError.message` : what is wrong with them.
-/

namespace TapeMachine

/-- What is wrong with the parts of which a thing is to be made. -/
inductive PartsError where
  | missing (whole : String) (names : List String)
  | unknown (whole name : String)
  /-- The part stands for the thing itself. -/
  | repeated (whole name : String)
  deriving DecidableEq, Repr

/-- Names in quotes, the last one behind `and`. -/
def enumerate : List String → String
  | [] => ""
  | [a] => Text.quote a
  | [a, b] => Text.quote a ++ " and " ++ Text.quote b
  | names => ", ".intercalate (names.dropLast.map Text.quote) ++ ", and " ++ Text.quote (names.getLastD "")

/-- The wording of a parts error. -/
def PartsError.message : PartsError → String
  | .missing whole [name] => s!"{whole} missing 1 required positional argument: {Text.quote name}"
  | .missing whole names =>
      s!"{whole} missing {names.length} required positional arguments: {enumerate names}"
  | .unknown whole name => s!"{whole} got an unexpected keyword argument '{name}'"
  | .repeated whole name => s!"{whole} got multiple values for argument '{name}'"

/-- The parts of a thing. -/
structure PartList where
  /-- What messages call the thing. -/
  whole : String
  /-- The name that stands for the thing itself, if there is one. -/
  own : Option String
  required : List String
  optional : List String

namespace PartList

variable (list : PartList)

/-- Why a part of that name is refused, if it is. -/
def refusal? (name : String) : Option PartsError :=
  if list.own = some name then some (.repeated list.whole name)
  else if name ∈ list.required ++ list.optional then none
  else some (.unknown list.whole name)

/-- The names of the parts that are needed and not there. -/
def missing (parts : Fields) : List String :=
  list.required.filter fun name => !parts.has name

/-- Refuses the first part that is not known, then missing ones. -/
def check (parts : Fields) : Except PartsError Unit :=
  match parts.findSome? fun part => list.refusal? part.1, list.missing parts with
  | some e, _ => .error e
  | none, [] => .ok ()
  | none, names => .error (.missing list.whole names)

end PartList

end TapeMachine
