import Mathlib.Algebra.GroupWithZero.Nat
import TapeMachine.Proofs.Machine.Grid
/-!
# The grid as a LaTeX array

The array has a row for the symbols and one for each state. Within a row an ampersand stands between two cells, and so
does every other ampersand without a backslash in front: the names of states and the symbols are put into the cells as
they are. The rows have as many separators as the columns need exactly when no name and no symbol brings one along.

* `separators` : the column separators of a text;
* `separatorsFrom_row` : **a row has the separators between its cells, and those within them**;
* `Definition.latexRows`, `Definition.separators_heading`, `Definition.separators_latexRow` : the separators of each row
  of the array;
* `Text.pieces_intercalate_eq_iff` : lines that are joined are the lines of the whole when none of them is broken;
* `Definition.latex_rectangular` : **when the array is rectangular**, and `Definition.exists_latex_uneven` : an array
  that is not.
-/

namespace TapeMachine

/-! ## 1. Column separators -/

/-- The ampersands of some characters with no backslash in front. The first one stands behind `before`. -/
def separatorsFrom (before : Char) : List Char → Nat
  | [] => 0
  | c :: cs => (if c = '&' ∧ before ≠ '\\' then 1 else 0) + separatorsFrom c cs

/-- The column separators of a text: its ampersands with no backslash in front. -/
def separators (text : String) : Nat :=
  separatorsFrom '\n' text.toList

section Separators

variable {b c : Char} {cs ds : List Char}

/-- Only a backslash in front changes what is counted. -/
theorem separatorsFrom_of_ne (hb : b ≠ '\\') (hc : c ≠ '\\') (cs : List Char) :
    separatorsFrom b cs = separatorsFrom c cs := by
  cases cs with
  | nil => rfl
  | cons d cs => simp [separatorsFrom, hb, hc]

theorem separatorsFrom_eq (hb : b ≠ '\\') (text : String) : separatorsFrom b text.toList = separators text :=
  separatorsFrom_of_ne hb (by decide) _

theorem separatorsFrom_of_not_mem (h : '&' ∉ cs) : separatorsFrom b cs = 0 := by
  induction cs generalizing b with
  | nil => rfl
  | cons c cs ih =>
      simp only [List.mem_cons, not_or] at h
      rw [separatorsFrom, ih h.2, if_neg fun hc => h.1 hc.1.symm]

/-- What stands in front of another character than an ampersand does not matter to what follows. -/
theorem separatorsFrom_append (hc : c ≠ '&') :
    separatorsFrom b (cs ++ c :: ds) = separatorsFrom b cs + separatorsFrom c ds := by
  induction cs generalizing b with
  | nil => simp [separatorsFrom, hc]
  | cons d cs ih => rw [List.cons_append, separatorsFrom, separatorsFrom, ih, Nat.add_assoc]

/-- **A row has the separators between its cells, and those within them.** -/
theorem separatorsFrom_row (hb : b ≠ '\\') (cell : String) (cells : List String) (rest : List Char) :
    separatorsFrom b ((" & ".intercalate (cell :: cells)).toList ++ ' ' :: rest) =
      cells.length + ((cell :: cells).map separators).sum + separatorsFrom ' ' rest := by
  induction cells generalizing b cell with
  | nil =>
      rw [String.intercalate_singleton, separatorsFrom_append (by decide), separatorsFrom_eq hb]
      simp
  | cons next cells ih =>
      have hrow : (" & ".intercalate (cell :: next :: cells)).toList ++ ' ' :: rest =
          cell.toList ++ ' ' :: '&' :: ' ' :: ((" & ".intercalate (next :: cells)).toList ++ ' ' :: rest) := by
        simp [String.intercalate_cons_cons]
      have hbetween (cs : List Char) : separatorsFrom ' ' ('&' :: ' ' :: cs) = 1 + separatorsFrom ' ' cs := by
        simp [separatorsFrom]
      rw [hrow, separatorsFrom_append (by decide), hbetween, ih (by decide), separatorsFrom_eq hb]
      simp only [List.map_cons, List.sum_cons, List.length_cons]
      omega

/-- A row that ends with a mark of its own. -/
theorem separators_row {ending : String} (hending : ending.toList = ' ' :: cs) (hnone : '&' ∉ cs) (cell : String)
    (cells : List String) :
    separators (" & ".intercalate (cell :: cells) ++ ending) = cells.length + ((cell :: cells).map separators).sum := by
  rw [separators, String.toList_append, hending, separatorsFrom_row (by decide), separatorsFrom_of_not_mem hnone,
    Nat.add_zero]

end Separators

/-! ## 2. The rows of an array -/

namespace Definition

variable {d : Definition} {q : String} {a : Char}

/-- The rows of the array: the heading and a row for each state. -/
def latexRows (d : Definition) : List String :=
  d.latexHeading :: d.orderedStates.map d.latexRow

/-- How a symbol is put into the heading. -/
def latexSymbol (c : Char) : String :=
  "\\text\x7b" ++ glyph c ++ "\x7d"

theorem separators_latexSymbol (c : Char) : separators (latexSymbol c) = if c = '&' then 1 else 0 := by
  simp [separators, latexSymbol, glyph, separatorsFrom]

theorem sum_separators_latexSymbol (symbols : List Char) :
    ((symbols.map latexSymbol).map separators).sum = symbols.count '&' := by
  induction symbols with
  | nil => rfl
  | cons c symbols ih =>
      rw [List.map_cons, List.map_cons, List.sum_cons, ih, separators_latexSymbol, List.count_cons, Nat.add_comm]
      simp

theorem orderedSymbols_ne_nil (d : Definition) : d.orderedSymbols ≠ [] :=
  List.ne_nil_of_mem (mem_orderedSymbols.mpr d.blank_mem)

theorem latexHeading_eq (d : Definition) :
    d.latexHeading = " & ".intercalate ("State/Symbol" :: d.orderedSymbols.map latexSymbol) ++ " \\\\ \\hline" := by
  rw [String.intercalate_cons_of_ne_nil (by simpa using orderedSymbols_ne_nil d)]
  rfl

/-- **The heading has a separator for each symbol**, and one more when the ampersand is a symbol. -/
theorem separators_heading (d : Definition) :
    separators d.latexHeading = d.orderedSymbols.length + d.orderedSymbols.count '&' := by
  have hfirst : separators "State/Symbol" = 0 := by decide
  rw [latexHeading_eq, separators_row rfl (by decide), List.map_cons, List.sum_cons, hfirst, Nat.zero_add,
    sum_separators_latexSymbol, List.length_map]

/-- **The row of a state has a separator for each symbol**, and those within its cells. -/
theorem separators_latexRow (d : Definition) (q : String) : separators (d.latexRow q) =
    d.orderedSymbols.length + (separators q + (d.orderedSymbols.map fun a => separators (d.cell q a)).sum) := by
  rw [latexRow, separators_row rfl (by decide), List.map_cons, List.sum_cons, List.map_map, List.length_map]
  rfl

/-- The separators within an action are that of the symbol that is written, and those of the next state. -/
theorem separators_action (rule : Rule Char) :
    separators rule.action = (if rule.write = '&' then 1 else 0) + separators rule.next := by
  have hletter : ∃ c, rule.move.letter.toList = [c] ∧ c ≠ '&' ∧ c ≠ '\\' := by
    cases rule.move <;> exact ⟨_, rfl, by decide, by decide⟩
  obtain ⟨letter, hletter, hbar, hbackslash⟩ := hletter
  have hchars : rule.action.toList = rule.write :: letter :: rule.next.toList := by
    simp [Rule.action, glyph, hletter]
  rw [separators, hchars, separatorsFrom, separatorsFrom, separatorsFrom_eq hbackslash]
  simp [hbar]

theorem separators_cell_eq_zero (hsymbols : '&' ∉ d.alphabet) (hstates : ∀ q ∈ d.states, separators q = 0) :
    separators (d.cell q a) = 0 := by
  unfold cell
  cases hlookup : d.rules.lookup q a with
  | none => rfl
  | some rule =>
      have hrule := (RuleTable.lookup_eq_some_iff.mp hlookup).1
      have hwrite : rule.write ≠ '&' := fun hwrite => hsymbols (hwrite ▸ (d.rule_symbols rule hrule).2)
      show separators rule.action = 0
      rw [separators_action, if_neg hwrite, hstates _ (d.rule_states rule hrule).2]

/-- **The array is rectangular exactly when no symbol and no state brings a separator along.** -/
theorem separators_eq_length_iff : (∀ row ∈ d.latexRows, separators row = d.orderedSymbols.length) ↔
    '&' ∉ d.alphabet ∧ ∀ q ∈ d.states, separators q = 0 := by
  constructor
  · intro hrows
    have hheading := hrows _ List.mem_cons_self
    rw [separators_heading, Nat.add_eq_left, List.count_eq_zero, mem_orderedSymbols] at hheading
    refine ⟨hheading, fun q hq => ?_⟩
    have hrow := hrows _ (List.mem_cons_of_mem _ (List.mem_map_of_mem (mem_orderedStates.mpr hq)))
    rw [separators_latexRow] at hrow
    omega
  · intro h row hrow
    obtain ⟨hsymbols, hstates⟩ := h
    rcases List.mem_cons.mp hrow with rfl | hrow
    · rw [separators_heading, Nat.add_eq_left, List.count_eq_zero, mem_orderedSymbols]
      exact hsymbols
    · obtain ⟨q, hq, rfl⟩ := List.mem_map.mp hrow
      have hcells : (d.orderedSymbols.map fun a => separators (d.cell q a)).sum = 0 :=
        List.sum_eq_zero_iff_forall_eq_nat.mpr fun n hn => by
          obtain ⟨a, _, rfl⟩ := List.mem_map.mp hn
          exact separators_cell_eq_zero hsymbols hstates
      rw [separators_latexRow, hcells, hstates q (mem_orderedStates.mp hq), Nat.add_zero]

end Definition

/-! ## 3. The lines of an array -/

namespace Text

variable {separator c : Char} {piece cs : List Char} {lines : List (List Char)} {joint : String} {texts : List String}

/-- No piece holds the separator. -/
theorem not_mem_of_mem_pieces (h : piece ∈ pieces separator cs) : separator ∉ piece := by
  induction cs generalizing piece with
  | nil =>
      rw [List.mem_singleton.mp h]
      exact List.not_mem_nil
  | cons c cs ih =>
      simp only [pieces, List.foldr_cons, prependPiece] at h ih
      by_cases hc : c = separator
      · rw [if_pos hc] at h
        rcases List.mem_cons.mp h with rfl | h
        · exact List.not_mem_nil
        · exact ih h
      · rw [if_neg hc] at h
        rcases List.mem_cons.mp h with rfl | h
        · have hfirst := ih List.mem_cons_self
          exact List.not_mem_cons_of_ne_of_not_mem (Ne.symm hc) hfirst
        · exact ih (List.mem_cons_of_mem _ h)

/-- **Lines that are joined are the lines of the whole exactly when none of them is broken.** -/
theorem pieces_intercalate_eq_iff (hne : lines ≠ []) :
    pieces separator ([separator].intercalate lines) = lines ↔ ∀ line ∈ lines, separator ∉ line := by
  constructor
  · intro h line hline
    rw [← h] at hline
    exact not_mem_of_mem_pieces hline
  · intro h
    induction lines with
    | nil => exact absurd rfl hne
    | cons line lines ih =>
        have hline := h line List.mem_cons_self
        cases lines with
        | nil => rw [List.intercalate_singleton, pieces_of_not_mem hline]
        | cons next lines =>
            rw [List.intercalate_cons_cons, List.append_assoc, List.singleton_append, pieces_append hline,
              ih (by simp) fun l hl => h l (List.mem_cons_of_mem _ hl)]

/-- What stands in joined texts and not in what joins them stands in one of the texts. -/
theorem mem_intercalate_iff (hc : c ∉ joint.toList) :
    c ∈ (joint.intercalate texts).toList ↔ ∃ text ∈ texts, c ∈ text.toList := by
  induction texts with
  | nil => simp
  | cons text texts ih =>
      cases texts with
      | nil => simp
      | cons next texts =>
          rw [String.intercalate_cons_cons, String.toList_append, String.toList_append, List.mem_append,
            List.mem_append, ih]
          simp [hc]

end Text

namespace Definition

variable {d : Definition} {q : String} {a : Char}

/-- The first line of the array, which declares its columns. -/
def latexOpening (d : Definition) : String :=
  "\\begin\x7barray\x7d\x7b" ++ d.latexColumns ++ "\x7d"

theorem latexLines_eq (d : Definition) :
    d.latexLines = d.latexOpening :: (d.latexRows ++ ["\\end\x7barray\x7d"]) :=
  rfl

/-- A column is declared for the states and one for each symbol. -/
theorem count_latexColumns (d : Definition) : d.latexColumns.toList.count 'c' = 1 + d.orderedSymbols.length := by
  have hsymbols : (String.ofList (List.replicate d.orderedSymbols.length 'c')).toList =
      List.replicate d.orderedSymbols.length 'c' := String.toList_ofList
  rw [latexColumns, String.toList_append, List.count_append, hsymbols, List.count_replicate_self]
  rfl

theorem newline_mem_latexHeading_iff : '\n' ∈ d.latexHeading.toList ↔ '\n' ∈ d.alphabet := by
  rw [latexHeading_eq, String.toList_append, List.mem_append, Text.mem_intercalate_iff (by decide)]
  simp [latexSymbol, glyph, mem_orderedSymbols]

theorem newline_mem_latexRow_iff : '\n' ∈ (d.latexRow q).toList ↔
    '\n' ∈ q.toList ∨ ∃ a ∈ d.orderedSymbols, '\n' ∈ (d.cell q a).toList := by
  rw [latexRow, String.toList_append, List.mem_append, Text.mem_intercalate_iff (by decide)]
  simp

theorem newline_not_mem_cell (hsymbols : '\n' ∉ d.alphabet) (hstates : ∀ q ∈ d.states, '\n' ∉ q.toList) :
    '\n' ∉ (d.cell q a).toList := by
  unfold cell
  cases hlookup : d.rules.lookup q a with
  | none => decide
  | some rule =>
      have hrule := (RuleTable.lookup_eq_some_iff.mp hlookup).1
      have hwrite : '\n' ≠ rule.write := fun hwrite => hsymbols (hwrite ▸ (d.rule_symbols rule hrule).2)
      have hnext := hstates _ (d.rule_states rule hrule).2
      have hletter : '\n' ∉ rule.move.letter.toList := by cases rule.move <;> decide
      show '\n' ∉ rule.action.toList
      simp [Rule.action, glyph, hwrite, hnext, hletter]

/-- **The lines of the array are the lines of its text exactly when no symbol and no state brings a line feed along.** -/
theorem pieces_latex_eq_iff : Text.pieces '\n' d.latex.toList = d.latexLines.map String.toList ↔
    '\n' ∉ d.alphabet ∧ ∀ q ∈ d.states, '\n' ∉ q.toList := by
  have hlines : d.latex.toList = ['\n'].intercalate (d.latexLines.map String.toList) := String.toList_intercalate
  rw [hlines, Text.pieces_intercalate_eq_iff (by simp [latexLines_eq])]
  constructor
  · intro h
    have hunbroken {row : String} (hrow : row ∈ d.latexRows) : '\n' ∉ row.toList :=
      h _ (List.mem_map_of_mem (by simp [latexLines_eq, hrow]))
    refine ⟨fun hsymbol => ?_, fun q hq hstate => ?_⟩
    · exact hunbroken List.mem_cons_self (newline_mem_latexHeading_iff.mpr hsymbol)
    · have hrow := List.mem_map_of_mem (f := d.latexRow) (mem_orderedStates.mpr hq)
      exact hunbroken (List.mem_cons_of_mem _ hrow) (newline_mem_latexRow_iff.mpr (.inl hstate))
  · intro h line hline
    obtain ⟨hsymbols, hstates⟩ := h
    obtain ⟨text, htext, rfl⟩ := List.mem_map.mp hline
    rw [latexLines_eq, List.mem_cons, List.mem_append, List.mem_singleton, latexRows, List.mem_cons,
      List.mem_map] at htext
    rcases htext with rfl | (rfl | ⟨q, hq, rfl⟩) | rfl
    · simp [latexOpening, latexColumns]
    · exact fun hnewline => hsymbols (newline_mem_latexHeading_iff.mp hnewline)
    · intro hnewline
      rcases newline_mem_latexRow_iff.mp hnewline with hstate | ⟨a, _, hcell⟩
      · exact hstates q (mem_orderedStates.mp hq) hstate
      · exact newline_not_mem_cell hsymbols hstates hcell
    · decide

/-! ## 4. Rectangular arrays -/

/-- **When the array is rectangular.** It declares a column for the states and one for each symbol, and has a heading and
a row for each state. A row has a separator for each symbol, and besides those that stand in its cells. So every row has
as many separators as the columns need exactly when the ampersand is no symbol and stands in names of states behind a
backslash only. Each row is a line of the text exactly when no symbol and no name has a line feed. -/
theorem latex_rectangular (d : Definition) :
    d.latexLines = d.latexOpening :: (d.latexRows ++ ["\\end\x7barray\x7d"]) ∧
    d.latexOpening = "\\begin\x7barray\x7d\x7b" ++ d.latexColumns ++ "\x7d" ∧
    d.latexColumns.toList.count 'c' = 1 + d.orderedSymbols.length ∧
    d.latexRows.length = 1 + d.states.size ∧
    separators d.latexHeading = d.orderedSymbols.length + (if '&' ∈ d.alphabet then 1 else 0) ∧
    (∀ q, separators (d.latexRow q) =
      d.orderedSymbols.length + (separators q + (d.orderedSymbols.map fun a => separators (d.cell q a)).sum)) ∧
    ((∀ row ∈ d.latexRows, separators row = d.orderedSymbols.length) ↔
      '&' ∉ d.alphabet ∧ ∀ q ∈ d.states, separators q = 0) ∧
    (Text.pieces '\n' d.latex.toList = d.latexLines.map String.toList ↔
      '\n' ∉ d.alphabet ∧ ∀ q ∈ d.states, '\n' ∉ q.toList) := by
  have hrows : d.latexRows.length = 1 + d.states.size := by
    rw [latexRows, List.length_cons, List.length_map, length_orderedStates, Nat.add_comm]
  have hcount : d.orderedSymbols.count '&' = if '&' ∈ d.alphabet then 1 else 0 := by
    rw [(nodup_orderedSymbols d).count]
    simp only [mem_orderedSymbols]
  exact ⟨latexLines_eq d, rfl, count_latexColumns d, hrows, hcount ▸ separators_heading d, separators_latexRow d,
    separators_eq_length_iff, pieces_latex_eq_iff⟩

/-- A machine with the ampersand among its symbols. -/
def ampersandDraft : Draft where
  alphabet := .arr [.str "&", .str "B"]
  inputSymbols := .arr [.str "&"]
  blank := .str "B"
  states := .arr [.str "q"]
  initial := .str "q"
  finals := .arr []
  rules := .rules [{ state := "q", read := "&", write := "&", move := .right, next := "q" }]
  name := .null

/-- **Not every array is rectangular**: when the ampersand is a symbol, the heading has a separator too many, and so has
a row in which it is written. -/
theorem exists_latex_uneven : ∃ d, create ampersandDraft = .ok d ∧ d.orderedSymbols.length = 2 ∧
    d.latexRows.map separators = [3, 3] := by
  have hcreate : ((create ampersandDraft).toOption.any fun d =>
      d.orderedSymbols.length == 2 && d.latexRows.map separators == [3, 3]) = true := by decide +kernel
  obtain ⟨d, hd, huneven⟩ := (Option.any_eq_true _ _).mp hcreate
  simp only [Bool.and_eq_true, beq_iff_eq] at huneven
  exact ⟨d, toOption_eq_some.mp hd, huneven⟩

end Definition

end TapeMachine
