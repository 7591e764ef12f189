import Mathlib.Data.List.Nodup
import Mathlib.Data.List.ProdSigma
import TapeMachine.Chart
import TapeMachine.Proofs.Machine.Increment
import TapeMachine.Proofs.Machine.RuleTables
import TapeMachine.Proofs.Run.Reports
/-!
# The grid is a picture of the rules

The symbol of a rule is one character and so is the letter of its movement. An action therefore spells its rule without
anything between the parts, and since no movement is called `A`, no action spells what stands where the machine halts.

* `Rule.ofCell?`, `Rule.ofCell?_action` : the rule that a cell spells;
* `Definition.perm_orderedSymbols`, `Definition.perm_orderedStates` : the columns and the rows of the grid;
* `Definition.ofCell?_cell` : **what a cell spells is the rule for its state and symbol**;
* `Definition.perm_acting` : the cells that do not halt are those of the rules;
* `Table.Literal.seen_eq` : when a table is seen as it is;
* `Definition.grid_lossless` : **the grid tells all about the rules.**
-/

namespace TapeMachine

/-! ## 1. Cells and rules -/

namespace Rule

/-- The rule that a cell spells for a state and a symbol. -/
def ofCell? (state : String) (read : Char) (cell : String) : Option (Rule Char) :=
  match cell.toList with
  | write :: letter :: next =>
      (Direction.ofLetter? letter).map fun move =>
        { state, read, write, move, next := String.ofList next }
  | _ => none

/-- **An action spells its rule.** -/
theorem ofCell?_action (rule : Rule Char) : ofCell? rule.state rule.read rule.action = some rule := by
  have hletter : ∃ letter, rule.move.letter.toList = [letter] ∧ Direction.ofLetter? letter = some rule.move := by
    cases rule.move <;> exact ⟨_, rfl, rfl⟩
  obtain ⟨letter, hletter, hmove⟩ := hletter
  have hchars : rule.action.toList = rule.write :: letter :: rule.next.toList := by
    simp [action, glyph, hletter]
  simp [ofCell?, hchars, hmove]

theorem ofCell?_halt (state : String) (read : Char) : ofCell? state read "HALT" = none := rfl

/-- No action spells what stands where the machine halts. -/
theorem action_ne_halt (rule : Rule Char) : rule.action ≠ "HALT" := fun h => by
  have hsome := ofCell?_action rule
  rw [h, ofCell?_halt] at hsome
  cases hsome

end Rule

namespace Definition

variable {d d' : Definition} {q : String} {a : Char} {rule : Rule Char}

/-- **What a cell spells is the rule for its state and symbol.** -/
theorem ofCell?_cell (d : Definition) (q : String) (a : Char) :
    Rule.ofCell? q a (d.cell q a) = d.rules.lookup q a := by
  unfold cell
  cases hlookup : d.rules.lookup q a with
  | none => exact Rule.ofCell?_halt q a
  | some rule =>
      have hkey : (rule.state, rule.read) = (q, a) := (RuleTable.lookup_eq_some_iff.mp hlookup).2
      cases hkey
      exact Rule.ofCell?_action rule

theorem cell_of_mem (hrule : rule ∈ d.rules.rules) : d.cell rule.state rule.read = rule.action := by
  rw [cell, RuleTable.lookup_eq_some_iff.mpr ⟨hrule, rfl⟩]

/-- The machine acts where it has a rule. -/
theorem cell_ne_halt_iff : d.cell q a ≠ "HALT" ↔ ∃ rule ∈ d.rules.rules, rule.key = (q, a) := by
  constructor
  · intro hne
    cases hlookup : d.rules.lookup q a with
    | none => exact absurd (by rw [cell, hlookup]) hne
    | some rule => exact ⟨rule, RuleTable.lookup_eq_some_iff.mp hlookup⟩
  · rintro ⟨rule, hrule, hkey⟩
    cases hkey
    rw [cell_of_mem hrule]
    exact rule.action_ne_halt

/-! ## 2. Columns and rows -/

theorem nodup_toList {α : Type} {cmp : α → α → Ordering} [Std.TransCmp cmp] (set : Std.ExtTreeSet α cmp) :
    set.toList.Nodup :=
  Std.ExtTreeSet.distinct_toList.imp fun hne heq => hne (by rw [heq]; exact Std.ReflCmp.compare_self)

theorem mem_extraSymbols : a ∈ d.extraSymbols ↔ a ∈ d.alphabet ∧ a ∉ d.inputSymbols ∧ a ≠ d.blank := by
  simp [extraSymbols, ← Bool.not_eq_true]

theorem mem_orderedSymbols : a ∈ d.orderedSymbols ↔ a ∈ d.alphabet := by
  simp only [orderedSymbols, List.mem_append, List.mem_singleton, Std.ExtTreeSet.mem_toList, mem_extraSymbols]
  constructor
  · rintro ((hinput | ⟨hextra, _⟩) | rfl)
    · exact d.input_subset a hinput
    · exact hextra
    · exact d.blank_mem
  · intro ha
    by_cases hblank : a = d.blank
    · exact .inr hblank
    · by_cases hinput : a ∈ d.inputSymbols
      · exact .inl (.inl hinput)
      · exact .inl (.inr ⟨ha, hinput, hblank⟩)

theorem nodup_orderedSymbols (d : Definition) : d.orderedSymbols.Nodup := by
  rw [orderedSymbols, List.nodup_append, List.nodup_append]
  refine ⟨⟨nodup_toList _, (nodup_toList _).filter _, ?_⟩, by simp, ?_⟩
  · rintro c hc _ hextra rfl
    exact (mem_extraSymbols.mp hextra).2.1 (Std.ExtTreeSet.mem_toList.mp hc)
  · rintro c hc _ hblank rfl
    rw [List.mem_singleton.mp hblank, List.mem_append, Std.ExtTreeSet.mem_toList, mem_extraSymbols] at hc
    obtain hinput | ⟨_, _, hne⟩ := hc
    · exact d.blank_not_input hinput
    · exact hne rfl

/-- **The columns are the symbols of the alphabet, each once.** -/
theorem perm_orderedSymbols (d : Definition) : d.orderedSymbols.Perm d.alphabet.toList := by
  rw [List.perm_ext_iff_of_nodup (nodup_orderedSymbols d) (nodup_toList _)]
  exact fun c => mem_orderedSymbols.trans Std.ExtTreeSet.mem_toList.symm

theorem mem_orderedStates : q ∈ d.orderedStates ↔ q ∈ d.states := by
  simp only [orderedStates, List.mem_cons, List.mem_filter, Std.ExtTreeSet.mem_toList, decide_eq_true_eq]
  constructor
  · rintro (rfl | ⟨hq, _⟩)
    · exact d.initial_mem
    · exact hq
  · exact fun hq => or_iff_not_imp_left.mpr fun hne => ⟨hq, hne⟩

theorem nodup_orderedStates (d : Definition) : d.orderedStates.Nodup := by
  rw [orderedStates, List.nodup_cons]
  exact ⟨by simp, (nodup_toList _).filter _⟩

/-- **The rows are the states, each once.** -/
theorem perm_orderedStates (d : Definition) : d.orderedStates.Perm d.states.toList := by
  rw [List.perm_ext_iff_of_nodup (nodup_orderedStates d) (nodup_toList _)]
  exact fun q => mem_orderedStates.trans Std.ExtTreeSet.mem_toList.symm

/-- No rule is missing in the grid. -/
theorem mem_grid_of_mem_rules (hrule : rule ∈ d.rules.rules) :
    rule.state ∈ d.orderedStates ∧ rule.read ∈ d.orderedSymbols :=
  ⟨mem_orderedStates.mpr (d.rule_states rule hrule).1, mem_orderedSymbols.mpr (d.rule_symbols rule hrule).1⟩

theorem length_orderedSymbols (d : Definition) : d.orderedSymbols.length = d.alphabet.size :=
  (perm_orderedSymbols d).length_eq.trans Std.ExtTreeSet.length_toList

theorem length_orderedStates (d : Definition) : d.orderedStates.length = d.states.size :=
  (perm_orderedStates d).length_eq.trans Std.ExtTreeSet.length_toList

/-- What a machine does in a state, symbol by symbol. -/
def actions (d : Definition) (q : String) : List String :=
  d.orderedSymbols.map (d.cell q)

/-- The charts have a row for each state, and in it an action for each symbol. -/
structure Charted (d : Definition) : Prop where
  header : d.gridTable.header = "State" :: d.orderedSymbols.map glyph
  rows : d.gridTable.rows =
    d.orderedStates.map fun q => (if d.isFinal q then "*" ++ q else q) :: d.actions q
  latex : d.latex = "\n".intercalate (["\\begin\x7barray\x7d\x7b" ++ d.latexColumns ++ "\x7d", d.latexHeading] ++
    (d.orderedStates.map fun q => " & ".intercalate (q :: d.actions q) ++ " \\\\") ++ ["\\end\x7barray\x7d"])
  states : d.orderedStates.length = d.states.size
  symbols : ∀ q, (d.actions q).length = d.alphabet.size

theorem charted (d : Definition) : d.Charted where
  header := rfl
  rows := rfl
  latex := rfl
  states := length_orderedStates d
  symbols q := by rw [actions, List.length_map, length_orderedSymbols]

example : increment.gridTable.rows =
    [["scan", "0Rscan", "1Rscan", "BLcarry"], ["carry", "1Sdone", "0Lcarry", "1Sdone"],
      ["*done", "HALT", "HALT", "HALT"]] := by decide +kernel

/-! ## 3. The number of actions -/

/-- The states and symbols on which a machine acts. -/
def acting (d : Definition) : List (String × Char) :=
  (d.orderedStates ×ˢ d.orderedSymbols).filter fun key => d.cell key.1 key.2 ≠ "HALT"

/-- **A machine acts on the keys of its rules.** -/
theorem perm_acting (d : Definition) : d.acting.Perm (d.rules.rules.map Rule.key) := by
  have hnodup : d.acting.Nodup := ((nodup_orderedStates d).product (nodup_orderedSymbols d)).filter _
  rw [List.perm_ext_iff_of_nodup hnodup d.rules.nodup]
  rintro ⟨q, a⟩
  rw [acting, List.mem_filter, List.mem_product, decide_eq_true_iff, cell_ne_halt_iff, List.mem_map]
  constructor
  · exact And.right
  · intro hkeys
    obtain ⟨rule, hrule, hkey⟩ := hkeys
    cases hkey
    exact ⟨mem_grid_of_mem_rules hrule, rule, hrule, rfl⟩

/-- **The grid has as many actions as there are rules.** -/
theorem countP_cells (d : Definition) :
    (d.gridTable.rows.flatMap List.tail).countP (· ≠ "HALT") = d.rules.size := by
  have hcells : d.gridTable.rows.flatMap List.tail =
      (d.orderedStates ×ˢ d.orderedSymbols).map fun key => d.cell key.1 key.2 := by
    show (d.orderedStates.map d.gridRow).flatMap List.tail = (d.orderedStates.product d.orderedSymbols).map _
    simp [List.product, List.flatMap_map, List.map_flatMap, gridRow, Function.comp_def]
  calc (d.gridTable.rows.flatMap List.tail).countP (· ≠ "HALT")
      = d.acting.length := by
        rw [hcells, List.countP_map, List.countP_eq_length_filter]
        rfl
    _ = d.rules.size := by rw [(perm_acting d).length_eq, List.length_map, RuleTable.size]

/-! ## 4. The rules from the grid -/

/-- A rule stands in every grid that has its cell. -/
theorem mem_rules_of_cell_eq (hrule : rule ∈ d.rules.rules)
    (h : d.cell rule.state rule.read = d'.cell rule.state rule.read) : rule ∈ d'.rules.rules := by
  have hlookup : d'.rules.lookup rule.state rule.read = some rule := by
    rw [← ofCell?_cell, ← h, ofCell?_cell]
    exact RuleTable.lookup_eq_some_iff.mpr ⟨hrule, rfl⟩
  exact (RuleTable.lookup_eq_some_iff.mp hlookup).1

/-- **Machines with the same grid have the same rules.** -/
theorem same_of_cells (hstates : d.orderedStates = d'.orderedStates) (hsymbols : d.orderedSymbols = d'.orderedSymbols)
    (hcells : ∀ q ∈ d.orderedStates, ∀ a ∈ d.orderedSymbols, d.cell q a = d'.cell q a) :
    d.rules.same d'.rules = true := by
  rw [RuleTable.same_iff_perm,
    List.perm_ext_iff_of_nodup (List.Nodup.of_map _ d.rules.nodup) (List.Nodup.of_map _ d'.rules.nodup)]
  intro rule
  constructor
  · intro hrule
    obtain ⟨hq, ha⟩ := mem_grid_of_mem_rules hrule
    exact mem_rules_of_cell_eq hrule (hcells _ hq _ ha)
  · intro hrule
    obtain ⟨hq, ha⟩ := mem_grid_of_mem_rules hrule
    exact mem_rules_of_cell_eq hrule (hcells _ (hstates ▸ hq) _ (hsymbols ▸ ha)).symm

end Definition

/-! ## 5. What is seen -/

/-- Whether every text of a table is seen as it is. -/
structure Table.Literal (table : Table) : Prop where
  title : seenText table.title = .ok table.title
  header : ∀ text ∈ table.header, seenText text = .ok text
  rows : ∀ row ∈ table.rows, ∀ text ∈ row, seenText text = .ok text

/-- A table is seen as it is when its texts are. -/
theorem Table.Literal.seen_eq {table : Table} (h : table.Literal) : table.seen = .ok table := by
  have hall (texts : List String) (htexts : ∀ text ∈ texts, seenText text = .ok text) :
      texts.mapM seenText = .ok texts :=
    mapM_eq_ok_iff.mpr (List.map_congr_left fun text htext => (htexts text htext).symm)
  have hrows : table.rows.mapM (·.mapM seenText) = .ok table.rows :=
    mapM_eq_ok_iff.mpr (List.map_congr_left fun row hrow => (hall row (h.rows row hrow)).symm)
  rw [Table.seen, h.title, hall _ h.header, hrows]
  rfl

/-- Quiet texts make a table that is seen as it is. -/
theorem Table.literal_of_quiet {table : Table} (htitle : Quiet table.title) (hheader : ∀ text ∈ table.header, Quiet text)
    (hrows : ∀ row ∈ table.rows, ∀ text ∈ row, Quiet text) : table.Literal where
  title := htitle.seenText_eq
  header text htext := (hheader text htext).seenText_eq
  rows row hrow text htext := (hrows row hrow text htext).seenText_eq

namespace Definition

/-- **The grid tells all about the rules.** It has a column for each symbol and a row for each state. A cell holds `HALT`
exactly where there is no rule, and otherwise spells the rule. So there are as many actions as rules, and machines with
the same rows, columns and cells have the same rules. All this is seen, where texts are seen as they are. -/
theorem grid_lossless (d : Definition) :
    (d.orderedSymbols.Nodup ∧ d.orderedSymbols.Perm d.alphabet.toList) ∧
    (d.orderedStates.Nodup ∧ d.orderedStates.Perm d.states.toList) ∧
    d.Charted ∧
    (∀ q a, (d.cell q a = "HALT" ↔ ∀ rule ∈ d.rules.rules, rule.key ≠ (q, a)) ∧
      Rule.ofCell? q a (d.cell q a) = d.rules.lookup q a) ∧
    (∀ rule ∈ d.rules.rules, d.cell rule.state rule.read = glyph rule.write ++ rule.move.letter ++ rule.next ∧
      Rule.ofCell? rule.state rule.read (d.cell rule.state rule.read) = some rule) ∧
    (d.gridTable.rows.flatMap List.tail).countP (· ≠ "HALT") = d.rules.size ∧
    (∀ d' : Definition, d.orderedStates = d'.orderedStates → d.orderedSymbols = d'.orderedSymbols →
      d.gridTable.rows.map List.tail = d'.gridTable.rows.map List.tail → d.rules.same d'.rules = true) ∧
    (d.gridTable.Literal → d.gridTable.seen = .ok d.gridTable) := by
  refine ⟨⟨nodup_orderedSymbols d, perm_orderedSymbols d⟩, ⟨nodup_orderedStates d, perm_orderedStates d⟩, charted d,
    fun q a => ⟨?halts, ofCell?_cell d q a⟩, fun rule hrule => ⟨cell_of_mem hrule, ?spells⟩, countP_cells d,
    fun d' hstates hsymbols hcells => ?same, Table.Literal.seen_eq⟩
  case halts =>
    rw [← not_iff_not, ← ne_eq, cell_ne_halt_iff]
    simp
  case spells =>
    rw [cell_of_mem hrule]
    exact rule.ofCell?_action
  case same =>
    refine same_of_cells hstates hsymbols fun q hq a ha => ?_
    have hrows : d.orderedStates.map d.actions = d.orderedStates.map d'.actions := by
      simpa [gridTable, gridRow, actions, Function.comp_def, hstates] using hcells
    have hrow : d.orderedSymbols.map (d.cell q) = d.orderedSymbols.map (d'.cell q) := by
      simpa [actions, hsymbols] using List.map_inj_left.mp hrows q hq
    exact List.map_inj_left.mp hrow a ha

/-- The machine that adds one, with its rules in the opposite order. -/
def incrementBackwards : Definition where
  __ := increment
  rules := ⟨incrementRules.rules.reverse, by decide⟩
  rule_states := by decide
  rule_symbols := by decide

theorem grid_lossless_increment :
    increment.gridTable.seen = .ok increment.gridTable ∧
    (increment.gridTable.rows.flatMap List.tail).countP (· ≠ "HALT") = 6 ∧
    increment.rules.same incrementBackwards.rules = true := by
  obtain ⟨_, _, _, _, _, hcount, hsame, hseen⟩ := grid_lossless increment
  have hliteral : increment.gridTable.Literal :=
    Table.literal_of_quiet (by decide +kernel) (by decide +kernel) (by decide +kernel)
  exact ⟨hseen hliteral, hcount, hsame incrementBackwards rfl rfl (by decide +kernel)⟩

end Definition

end TapeMachine
