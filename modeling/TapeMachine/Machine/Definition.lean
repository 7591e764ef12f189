import Std.Data.ExtTreeSet
import TapeMachine.Error
import TapeMachine.Machine.RuleTable
import TapeMachine.Text.Blank
/-!
# Machine definitions

A definition is a Turing machine as a 7-tuple whose parts fit together. Its sets are ordered, its symbols
are single characters, and the conditions under which the parts fit are fields of the type, so that a run
can rely on them. A `Draft` is a definition as it is written down, with values of any shape.

* `Direction.ofJson`, `Rule.ofJson` : a movement and a rule as written down;
* `RuleTable.fill` : a table from rules read one by one: the first bad or repeated one is the error;
* `Definition.create` : a definition from a draft, or the first condition that fails.
-/

namespace TapeMachine

/-! ## 1. Rules as written down -/

/-- The movement that a value names: none for `null`, else by its trimmed text. -/
def Direction.ofJson (value : Json) : Except DefinitionError Direction :=
  match value with
  | .null => .ok .stay
  | value =>
      match ofWord? (Text.trimChars value.display.toList) with
      | some d => .ok d
      | none => .error (.unknownDirection value)

/-- The fields that a rule must have. -/
def Rule.requiredFields : List String :=
  ["from_state", "read_symbol", "write_symbol", "next_state"]

/-- The rule that an object describes; `index` is what messages call it by. A movement may be missing. -/
def Rule.ofJson (index : Option Json) (entry : Json) : Except DefinitionError (Rule String) :=
  match entry with
  | .obj fields =>
      let missing := requiredFields.filter fun name => !Fields.has fields name
      if missing.isEmpty then do
        let text (name : String) : String := ((Fields.get? fields name).getD .null).display
        let move ← Direction.ofJson ((Fields.get? fields "move_to").getD .null)
        return { state := text "from_state", read := text "read_symbol", write := text "write_symbol",
                 move := move, next := text "next_state" }
      else .error (.ruleMissingFields index missing)
  | entry => .error (.ruleNotObject index entry.shape)

/-- Adds a rule to a table, unless its key is taken. -/
def RuleTable.add (table : RuleTable String) (rule : Rule String) :
    Except DefinitionError (RuleTable String) :=
  match table.insert? rule with
  | some table => .ok table
  | none => .error (.duplicateRule rule.state rule.read)

/-- Adds the next rule as soon as it is read. -/
def RuleTable.addRead (table : RuleTable String) (next : Except DefinitionError (Rule String)) :
    Except DefinitionError (RuleTable String) := do
  table.add (← next)

/-- The table of rules that are read one by one: each is added before the next one is looked at. -/
def RuleTable.fill (entries : List (Except DefinitionError (Rule String))) :
    Except DefinitionError (RuleTable String) :=
  entries.foldlM addRead empty

/-- The entries of a list as rules, numbered from zero. -/
def Rule.ofItems (items : List Json) : List (Except DefinitionError (Rule String)) :=
  items.mapIdx fun i entry => ofJson (some (.int i)) entry

/-! ## 2. Definitions -/

/-- A finite set of symbols, in the order of their codes. -/
abbrev SymbolSet := Std.ExtTreeSet Char

/-- A finite set of state names, in the order of their characters' codes. -/
abbrev StateSet := Std.ExtTreeSet String

/-- A Turing machine with one tape whose parts fit together. -/
structure Definition where
  alphabet : SymbolSet
  inputSymbols : SymbolSet
  blank : Char
  states : StateSet
  initial : String
  finals : StateSet
  rules : RuleTable Char
  name : Json
  blank_mem : blank ∈ alphabet
  input_subset : ∀ c ∈ inputSymbols, c ∈ alphabet
  blank_not_input : blank ∉ inputSymbols
  initial_mem : initial ∈ states
  finals_subset : ∀ q ∈ finals, q ∈ states
  rule_states : ∀ r ∈ rules.rules, r.state ∈ states ∧ r.next ∈ states
  rule_symbols : ∀ r ∈ rules.rules, r.read ∈ alphabet ∧ r.write ∈ alphabet

namespace Definition

/-- Whether a state is final. -/
def isFinal (d : Definition) (state : String) : Bool :=
  d.finals.contains state

/-- Whether a value is a final state: only a text can be one, and a value that is no key cannot even be
looked up. -/
def isFinalValue (d : Definition) (value : Json) : Except ShapeError Bool := do
  match ← value.asKey with
  | .str state => return d.isFinal state
  | _ => return false

/-- Whether two definitions are equal, in whatever order their rules were given. -/
def same (a b : Definition) : Bool :=
  a.alphabet = b.alphabet && a.inputSymbols = b.inputSymbols && a.blank = b.blank &&
    a.states = b.states && a.initial = b.initial && a.finals = b.finals && a.rules.same b.rules &&
    a.name = b.name

end Definition

/-! ## 3. Drafts -/

/-- The rules of a draft: values to be read, rules, or a finished table. -/
inductive RuleSource where
  | entries (value : Json)
  | rules (rules : List (Rule String))
  | table (table : RuleTable String)

/-- The table of a rule source. -/
def RuleSource.table? : RuleSource → Except Error (RuleTable String)
  | .entries value => do RuleTable.fill (Rule.ofItems (← value.items))
  | .rules list => RuleTable.fill (list.map .ok)
  | .table finished => .ok finished

/-- A definition as it is written down. -/
structure Draft where
  alphabet : Json
  inputSymbols : Json
  blank : Json
  states : Json
  initial : Json
  finals : Json
  rules : RuleSource
  name : Json

namespace Definition

/-- The texts of the items of a value. -/
def texts (value : Json) : Except ShapeError (List String) := do
  return (← value.items).map Json.display

/-- The set of single characters among some texts. -/
def symbolSet (texts : List String) : SymbolSet :=
  Std.ExtTreeSet.ofList (texts.flatMap String.toList) compare

/-- The set of some state names. -/
def stateSet (texts : List String) : StateSet :=
  Std.ExtTreeSet.ofList texts compare

/-- The texts that are not exactly one character long, each once and in increasing order. -/
def wideTexts (texts : List String) : List String :=
  (stateSet (texts.filter (·.length ≠ 1))).toList

/-- The symbol of the alphabet that a text is. -/
def symbol? (alphabet : SymbolSet) (text : String) : Option Char :=
  match text.toList with
  | [c] => if alphabet.contains c then some c else none
  | _ => none

theorem symbol?_eq_some {alphabet : SymbolSet} {text : String} {c : Char} (h : symbol? alphabet text = some c) :
    c ∈ alphabet ∧ glyph c = text := by
  unfold symbol? at h
  split at h
  · rename_i x hx
    split at h
    · rename_i hc
      cases h
      refine ⟨Std.ExtTreeSet.mem_iff_contains.2 hc, ?_⟩
      rw [← String.toList_inj]
      simp [glyph, hx]
    · simp at h
  · simp at h

/-- A rule of known states and symbols. -/
abbrev KnownRule (states : StateSet) (alphabet : SymbolSet) :=
  { r : Rule Char // (r.state ∈ states ∧ r.next ∈ states) ∧ r.read ∈ alphabet ∧ r.write ∈ alphabet }

/-- The rule with its symbols as characters, if it uses only states and symbols of the machine. -/
def knownRule (states : StateSet) (alphabet : SymbolSet) (rule : Rule String) :
    Except DefinitionError { r : KnownRule states alphabet // r.val.mapSymbols glyph = rule } :=
  if hstate : rule.state ∈ states then
    if hnext : rule.next ∈ states then
      match hread : symbol? alphabet rule.read with
      | none => .error (.unknownSymbol rule rule.read)
      | some read =>
          match hwrite : symbol? alphabet rule.write with
          | none => .error (.unknownSymbol rule rule.write)
          | some write =>
              .ok ⟨⟨{ state := rule.state, read := read, write := write, move := rule.move, next := rule.next },
                ⟨hstate, hnext⟩, (symbol?_eq_some hread).1, (symbol?_eq_some hwrite).1⟩, by
                  simp [Rule.mapSymbols, (symbol?_eq_some hread).2, (symbol?_eq_some hwrite).2]⟩
    else .error (.unknownState rule rule.next)
  else .error (.unknownState rule rule.state)

/-- Rules of known states and symbols, in their order. -/
def knownRules (states : StateSet) (alphabet : SymbolSet) : (rules : List (Rule String)) →
    Except DefinitionError
      { known : List (KnownRule states alphabet) // (known.map Subtype.val).map (Rule.mapSymbols glyph) = rules }
  | [] => .ok ⟨[], rfl⟩
  | rule :: rules => do
      let known ← knownRule states alphabet rule
      let others ← knownRules states alphabet rules
      return ⟨known.val :: others.val, by
        have h1 := known.property
        have h2 := others.property
        simp only [List.map_cons, h1, h2]⟩

/-- The first condition that fails becomes the error; the rules are looked at after all other parts. -/
def create (draft : Draft) : Except Error Definition := do
  let alphabetTexts ← texts draft.alphabet
  let inputTexts ← texts draft.inputSymbols
  let blankText := draft.blank.display
  let stateTexts ← texts draft.states
  let initial := draft.initial.display
  let finalTexts ← texts draft.finals
  let wide := wideTexts (alphabetTexts ++ inputTexts ++ [blankText])
  match wide, blankText.toList with
  | [], [blank] =>
    let alphabet := symbolSet alphabetTexts
    let inputSymbols := symbolSet inputTexts
    let states := stateSet stateTexts
    let finals := stateSet finalTexts
    if hblank : blank ∈ alphabet then
      if hinput : inputSymbols.toList.all alphabet.contains then
        if hfree : blank ∉ inputSymbols then
          if hinitial : initial ∈ states then
            if hfinals : finals.toList.all states.contains then
              let table ← draft.rules.table?
              let known ← (knownRules states alphabet table.rules : Except DefinitionError _)
              return {
                alphabet, inputSymbols, blank, states, initial, finals
                rules := ⟨known.val.map Subtype.val, RuleTable.nodup_of_mapSymbols (f := glyph) (by
                  rw [known.property]; exact table.nodup)⟩
                name := draft.name
                blank_mem := hblank
                input_subset := fun c hc => Std.ExtTreeSet.mem_iff_contains.2
                  (List.all_eq_true.1 hinput c (Std.ExtTreeSet.mem_toList.2 hc))
                blank_not_input := hfree
                initial_mem := hinitial
                finals_subset := fun q hq => Std.ExtTreeSet.mem_iff_contains.2
                  (List.all_eq_true.1 hfinals q (Std.ExtTreeSet.mem_toList.2 hq))
                rule_states := fun r hr => by
                  obtain ⟨k, _, rfl⟩ := List.mem_map.1 hr
                  exact k.property.1
                rule_symbols := fun r hr => by
                  obtain ⟨k, _, rfl⟩ := List.mem_map.1 hr
                  exact k.property.2 }
            else
              throw (.definition (.finalsNotInStates (finals.toList.filter fun q => !states.contains q)))
          else throw (.definition (.initialNotInStates initial))
        else throw (.definition (.blankInInput blankText))
      else
        throw (.definition (.inputNotInAlphabet
          ((inputSymbols.toList.filter fun c => !alphabet.contains c).map String.singleton)))
    else throw (.definition (.blankNotInAlphabet blankText))
  | wide, _ => throw (.definition (.wideSymbols wide))

end Definition

end TapeMachine
