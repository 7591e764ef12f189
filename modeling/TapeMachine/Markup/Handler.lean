import TapeMachine.Literal.Value
import TapeMachine.Markup.Error
import TapeMachine.Text.Letter
/-!
# Handlers in markup

A tag that starts with an at sign names an event, and its parameters say what handles it: the name of a handler
and its arguments in parentheses, or the arguments alone. When the tag is closed, the arguments must be a literal.

* `Handler.argumentsOf` : the arguments that parameters hold;
* `Handler.check` : whether these are a literal.
-/

namespace TapeMachine.Handler

/-- Whether a character may stand in the name of a handler. -/
def inName (c : Char) : Bool :=
  Text.isWordChar c || c = '.'

/-- The arguments that parameters hold: what stands in parentheses behind a name, nothing in parentheses behind a
name alone, and otherwise all of them. -/
def argumentsOf (cs : List Char) : List Char :=
  match cs.dropWhile inName with
  | [] => ['(', ')']
  | '(' :: rest =>
      if rest.getLast? = some ')' && !rest.contains '\n' then '(' :: rest else cs
  | _ => cs

/-- Checks the parameters of a tag. Without any there is nothing to check. -/
def check (parameters : List Char) : Except MarkupError Unit :=
  if parameters.isEmpty then .ok ()
  else
    let arguments := argumentsOf (Text.trim (String.ofList parameters)).toList
    match Literal.fault? arguments with
    | some fault => .error (.badHandler (String.ofList arguments) (String.ofList parameters) fault)
    | none => .ok ()

end TapeMachine.Handler
