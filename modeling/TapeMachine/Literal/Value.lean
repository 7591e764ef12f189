import TapeMachine.Literal.Reading
/-!
# Literals

An expression is a literal if it says a value by itself: a constant, a number with a sign, a sum of a real and an
imaginary number, a text, or a tuple, a set or a dictionary of literals. The items of a set and the keys of a
dictionary must be values that never change.

* `Literal.valueFault?` : the first part of an expression that is no literal;
* `Literal.fault?` : what is wrong with a text that should be a literal.
-/

namespace TapeMachine.Literal

/-- A number with at most one sign. -/
def signedNumber? : Expression → Option Number
  | .sign (.number n) | .number n => some n
  | _ => none

/-- Whether a number is whole and too large to be made decimal: the limit is `2 ^ 1024 - 2 ^ 970`. -/
def Number.isTooLarge : Number → Bool
  | .whole n => Nat.pow 2 54 - 1 ≤ n >>> 970
  | _ => false

mutual

/-- The kind of a value that may change, or of the first such value in a tuple. -/
def unhashable? : Expression → Option String
  | .set _ | .call _ _ => some "set"
  | .dictionary _ => some "dict"
  | .tuple items => unhashableOf? items
  | _ => none

/-- The kind of the first value that may change. -/
def unhashableOf? : List Expression → Option String
  | [] => none
  | e :: es => (unhashable? e).or (unhashableOf? es)

end

/-- What is wrong with a value that must not change. -/
def hashFault? (e : Expression) : Option Fault :=
  (unhashable? e).map .unhashable

mutual

/-- The first part of an expression that is no literal, and why. -/
def valueFault? : Expression → Option Fault
  | .number _ | .text | .bytes | .constant _ | .ellipsis => none
  | .tuple items => itemFault? items
  | .set items => setFault? items
  | .dictionary entries => entryFault? entries
  | .call (.name function) isEmpty => if function = "set" && isEmpty then none else some .noLiteral
  | .sign e => if (signedNumber? (.sign e)).isSome then none else some .noLiteral
  | .sum left right =>
      match signedNumber? left, right with
      | some n, .number .imaginary =>
          if n = .imaginary then some .noLiteral else if n.isTooLarge then some .tooLarge else none
      | _, _ => some .noLiteral
  | _ => some .noLiteral

/-- The first item that is no literal. -/
def itemFault? : List Expression → Option Fault
  | [] => none
  | e :: es => (valueFault? e).or (itemFault? es)

/-- The first item of a set that is no literal or may change. -/
def setFault? : List Expression → Option Fault
  | [] => none
  | e :: es => ((valueFault? e).or (hashFault? e)).or (setFault? es)

/-- The first entry of a dictionary that is no literal, or whose key may change. -/
def entryFault? : List Expression → Option Fault
  | [] => none
  | .entry key value :: es =>
      (((valueFault? key).or (valueFault? value)).or (hashFault? key)).or (entryFault? es)
  | _ :: _ => some .noKey

end

/-- What is wrong with a text that should be a literal. -/
def fault? (cs : List Char) : Option Fault :=
  match readExpression cs with
  | .ok e => valueFault? e
  | .error fault => some fault

end TapeMachine.Literal
