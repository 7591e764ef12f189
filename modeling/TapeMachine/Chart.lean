import TapeMachine.Machine.Definition
/-!
# Charts of a machine

A machine as tables for the reader: its seven parts, and the grid of its rules with a row for each state and
a column for each symbol. The grid is also written as a LaTeX array.

* `Table`, `Table.seen` : tables of plain texts, and what is seen of them;
* `Definition.orderedSymbols`, `Definition.orderedStates` : the columns and the rows of the grid;
* `Definition.cell` : what stands in the grid for a state and a symbol;
* `Definition.partsTable`, `Definition.gridTable`, `Definition.latex` : the charts.
-/

namespace TapeMachine

/-- A table of plain texts. -/
structure Table where
  title : String
  header : List String
  rows : List (List String)
  deriving DecidableEq, Repr

/-- What is seen of a plain text that is put into markup. -/
def seenText (text : String) : Except MarkupError String :=
  Markup.render (Markup.escape text)

/-- What is seen of a table. -/
def Table.seen (table : Table) : Except MarkupError Table := do
  return { title := ← seenText table.title
           header := ← table.header.mapM seenText
           rows := ← table.rows.mapM (·.mapM seenText) }

/-- What a rule does: the symbol it writes, the letter of its movement, and the next state. -/
def Rule.action (rule : Rule Char) : String :=
  glyph rule.write ++ rule.move.letter ++ rule.next

namespace Definition

variable (d : Definition)

/-- The symbols of the alphabet that are neither input symbols nor the blank. -/
def extraSymbols : List Char :=
  d.alphabet.toList.filter fun c => !d.inputSymbols.contains c && c ≠ d.blank

/-- The input symbols, then the other symbols, and the blank at the end. -/
def orderedSymbols : List Char :=
  d.inputSymbols.toList ++ d.extraSymbols ++ [d.blank]

/-- The initial state, then the other states. -/
def orderedStates : List String :=
  d.initial :: d.states.toList.filter (· ≠ d.initial)

/-- What the machine does in a state on a symbol: the action of its rule, or that it halts. -/
def cell (state : String) (symbol : Char) : String :=
  match d.rules.lookup state symbol with
  | none => "HALT"
  | some rule => rule.action

/-- Texts between braces. -/
def braced (texts : List String) : String :=
  "\x7b" ++ ", ".intercalate texts ++ "\x7d"

/-- The name of the machine in titles: nothing for a name that counts as false. -/
def titleName : String :=
  if d.name.truthy then d.name.display else ""

/-- The parts of the machine, one a row. -/
def partsTable : Table :=
  { title := Text.trim ("Machine " ++ d.titleName)
    header := ["Field", "Value"]
    rows := [
      ["States", braced d.orderedStates],
      ["Alphabet", braced (d.orderedSymbols.map glyph)],
      ["Input symbols", braced (d.inputSymbols.toList.map glyph)],
      ["Blank symbol", glyph d.blank],
      ["Initial state", d.initial],
      ["Final states", braced d.finals.toList],
      ["Transitions", toString d.rules.size]] }

/-- The row of a state in the grid; a final state is marked with a star. -/
def gridRow (state : String) : List String :=
  (if d.isFinal state then "*" ++ state else state) :: d.orderedSymbols.map (d.cell state)

/-- The grid of states and symbols. -/
def gridTable : Table :=
  { title := "Transition Table"
    header := "State" :: d.orderedSymbols.map glyph
    rows := d.orderedStates.map d.gridRow }

/-- The row of a state in the LaTeX array. -/
def latexRow (state : String) : String :=
  " & ".intercalate (state :: d.orderedSymbols.map (d.cell state)) ++ " \\\\"

/-- The heading of the LaTeX array. -/
def latexHeading : String :=
  "State/Symbol & " ++ " & ".intercalate (d.orderedSymbols.map fun c => "\\text\x7b" ++ glyph c ++ "\x7d") ++
    " \\\\ \\hline"

/-- The columns of the LaTeX array: one for the states, then one for each symbol. -/
def latexColumns : String :=
  "c|" ++ String.ofList (List.replicate d.orderedSymbols.length 'c')

/-- The lines of the LaTeX array. -/
def latexLines : List String :=
  ["\\begin\x7barray\x7d\x7b" ++ d.latexColumns ++ "\x7d", d.latexHeading] ++
    d.orderedStates.map d.latexRow ++ ["\\end\x7barray\x7d"]

/-- The grid as a LaTeX array. -/
def latex : String :=
  "\n".intercalate d.latexLines

end Definition

end TapeMachine
