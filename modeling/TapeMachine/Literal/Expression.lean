import TapeMachine.Literal.Number
/-!
# Expressions

An expression as far as it matters whether it is a literal and how it is called in complaints.

* `Literal.Expression` : expressions;
* `Literal.Expression.word` : what an expression is called;
* `Literal.Expression.wrongTarget?` : the part of an expression to which nothing can be assigned.
-/

namespace TapeMachine.Literal

/-- The kinds of arguments in a call: by position, by name, or all entries of a dictionary. -/
inductive ArgumentKind where
  | positional
  | named
  | spread
  deriving DecidableEq, Repr

/-- Expressions. What does not matter for literals and complaints is left out. -/
inductive Expression where
  | name (text : String)
  | number (n : Number)
  | text
  | bytes
  /-- A text with expressions in it. -/
  | filled
  /-- One of the words for the two truths and for nothing. -/
  | constant (word : String)
  | ellipsis
  | tuple (items : List Expression)
  | set (items : List Expression)
  | dictionary (entries : List Expression)
  /-- An entry of a dictionary. -/
  | entry (key value : Expression)
  /-- All entries of another dictionary, in a dictionary. -/
  | entries (value : Expression)
  | starred (e : Expression)
  | sign (e : Expression)
  | sum (left right : Expression)
  /-- Any other operation. -/
  | operation
  | comparison (left : Expression) (isIn : Bool)
  | call (function : Expression) (isEmpty : Bool)
  /-- What stands between the brackets of a call. -/
  | arguments (kinds : List ArgumentKind)
  | attribute
  | lambda
  | conditional
  | generator
  | setComprehension
  | dictionaryComprehension
  | yielded
  | awaited
  | assignment

namespace Expression

/-- What an expression is called in complaints. -/
def word : Expression → String
  | .name _ => "name"
  | .number _ | .text | .bytes => "literal"
  | .filled => "f-string expression"
  | .constant word => word
  | .ellipsis => "ellipsis"
  | .tuple _ => "tuple"
  | .set _ => "set display"
  | .dictionary _ | .entry _ _ | .entries _ => "dict literal"
  | .starred _ => "starred"
  | .sign _ | .sum _ _ | .operation => "expression"
  | .comparison _ _ => "comparison"
  | .call _ _ | .arguments _ => "function call"
  | .attribute => "attribute"
  | .lambda => "lambda"
  | .conditional => "conditional expression"
  | .generator => "generator expression"
  | .setComprehension => "set comprehension"
  | .dictionaryComprehension => "dict comprehension"
  | .yielded => "yield expression"
  | .awaited => "await expression"
  | .assignment => "named expression"

mutual

/-- The part of an expression to which nothing can be assigned. Of a comparison with `in` only the left side
counts, because what stands on the right is no part of the target. -/
def wrongTarget? : Expression → Option Expression
  | .name _ | .attribute => none
  | .tuple items => wrongTargetOf? items
  | .starred e => wrongTarget? e
  | .comparison left isIn => if isIn then wrongTarget? left else none
  | e => some e

/-- The first wrong target of several. -/
def wrongTargetOf? : List Expression → Option Expression
  | [] => none
  | e :: es => (wrongTarget? e).or (wrongTargetOf? es)

end

end Expression

end TapeMachine.Literal
