import TapeMachine.Text.Pieces
/-!
# Lines

A text file may end its lines with a line feed, a carriage return, or both in this order; reading it makes
each of the three a line feed. No other character ends a line.

* `Text.unifyNewlines` : every line end as a line feed;
* `Text.linesOf` : the lines of a file, where a last line feed ends the last line and starts no new one;
* `Text.lastLine` : the last line of a message, with the line ends of Unicode;
* `Text.linesOf_append` : **a line and its line feed in front of a text are one more line.**
-/

namespace TapeMachine.Text

/-- Every line end as one line feed. -/
def unifyNewlines : List Char → List Char
  | [] => []
  | '\r' :: '\n' :: cs => '\n' :: unifyNewlines cs
  | c :: cs => (if c = '\r' then '\n' else c) :: unifyNewlines cs

/-- The lines of a file: the piece behind the last line feed counts only if it is not empty. -/
def linesOf (cs : List Char) : List (List Char) :=
  let lines := pieces '\n' cs
  if lines.getLast? = some [] then lines.dropLast else lines

/-- Whether a character ends a line for a reader who knows all the line ends of Unicode, and the separators
of files, groups and records. -/
def isLineEnd (c : Char) : Bool :=
  let n := c.toNat
  (0xa ≤ n && n ≤ 0xd) || (0x1c ≤ n && n ≤ 0x1e) || n = 0x85 || n = 0x2028 || n = 0x2029

/-- The last line of a message with a line feed behind it, for such a reader. A carriage return at the end of the
message and the line feed are one line end. -/
def lastLine (message : String) : String :=
  let reversed := message.toList.reverse
  let line := if reversed.head? = some '\r' then reversed.tail else reversed
  String.ofList (line.takeWhile (!isLineEnd ·)).reverse

/-- The lines of a text that is shown: each line feed starts a new one. -/
def shownLines (s : String) : List String :=
  (pieces '\n' s.toList).map String.ofList

/-! ## Laws -/

/-- **A line and its line feed in front of a text are one more line.** -/
theorem linesOf_append {line cs : List Char} (h : '\n' ∉ line) :
    linesOf (line ++ '\n' :: cs) = line :: linesOf cs := by
  simp only [linesOf, pieces_append h]
  have hne : pieces '\n' cs ≠ [] := by simp [pieces]
  rw [List.getLast?_cons_of_ne_nil hne, List.dropLast_cons_of_ne_nil hne]
  split <;> rfl

end TapeMachine.Text
