/-!
# Counts for the reader

* `Text.thousands` : a count with a comma in front of each group of three digits.
-/

namespace TapeMachine.Text

/-- Puts a comma behind every third digit, counted from the least one, when more digits follow. -/
def groupDigits : List Char → List Char
  | a :: b :: c :: d :: rest => a :: b :: c :: ',' :: groupDigits (d :: rest)
  | digits => digits

/-- A count with a comma in front of each group of three digits. -/
def thousands (n : Nat) : String :=
  String.ofList (groupDigits (Nat.toDigits 10 n).reverse).reverse

end TapeMachine.Text
