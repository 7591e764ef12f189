import TapeMachine.Machine.Document
import TapeMachine.Proofs.Except
import Mathlib.Logic.Basic
/-!
# How a definition is made

What can come of a draft, said once: which condition fails and with which error, or which definition it is. All
conditions are put on the texts of a draft and not on the sets and characters that are made of them.

* `Sheet`, `Draft.Reads` : the parts of a draft as texts;
* `Sheet.Fits` : the conditions on the parts, and `Sheet.refusal?` the one on a rule;
* `Definition.Holds` : what the definition of a sheet holds;
* `CreateTo`, `createTo_create` : **everything that can come of a draft whose parts are read**;
* `Definition.holds_of_create` : a definition that was made holds what its draft says.
-/

namespace TapeMachine

/-! ## 1. The parts of a draft as texts -/

/-- The parts of a machine as texts, in the order in which they were written down. -/
structure Sheet where
  alphabet : List String
  inputSymbols : List String
  blank : String
  states : List String
  initial : String
  finals : List String

/-- A draft has these parts: each symbol and each state is the text of an item. -/
structure Draft.Reads (draft : Draft) (s : Sheet) : Prop where
  alphabet : Definition.texts draft.alphabet = .ok s.alphabet
  inputSymbols : Definition.texts draft.inputSymbols = .ok s.inputSymbols
  blank : draft.blank.display = s.blank
  states : Definition.texts draft.states = .ok s.states
  initial : draft.initial.display = s.initial
  finals : Definition.texts draft.finals = .ok s.finals

namespace Sheet

variable (s : Sheet)

/-- All symbols of a sheet. -/
def symbols : List String :=
  s.alphabet ++ s.inputSymbols ++ [s.blank]

/-- Whether every symbol is one character. -/
def Narrow : Prop :=
  ∀ text ∈ s.symbols, text.length = 1

/-- **The conditions on the parts**, in the order in which they are looked at. -/
structure Fits : Prop where
  narrow : s.Narrow
  blank_mem : s.blank ∈ s.alphabet
  input_subset : s.inputSymbols ⊆ s.alphabet
  blank_not_input : s.blank ∉ s.inputSymbols
  initial_mem : s.initial ∈ s.states
  finals_subset : s.finals ⊆ s.states

/-- Why a rule is refused, if it is: its two states are looked at before its two symbols. -/
def refusal? (rule : Rule String) : Option DefinitionError :=
  if rule.state ∉ s.states then some (.unknownState rule rule.state)
  else if rule.next ∉ s.states then some (.unknownState rule rule.next)
  else if rule.read ∉ s.alphabet then some (.unknownSymbol rule rule.read)
  else if rule.write ∉ s.alphabet then some (.unknownSymbol rule rule.write)
  else none

end Sheet

/-- **What the definition of a sheet holds**: its symbols are the texts of the sheet, character by character, and
    its rules are those of the table in their order. -/
structure Definition.Holds (d : Definition) (s : Sheet) (table : RuleTable String) (name : Json) : Prop where
  alphabet : ∀ c, c ∈ d.alphabet ↔ String.singleton c ∈ s.alphabet
  inputSymbols : ∀ c, c ∈ d.inputSymbols ↔ String.singleton c ∈ s.inputSymbols
  blank : String.singleton d.blank = s.blank
  states : ∀ q, q ∈ d.states ↔ q ∈ s.states
  initial : d.initial = s.initial
  finals : ∀ q, q ∈ d.finals ↔ q ∈ s.finals
  rules : d.rules.rules.map (Rule.mapSymbols glyph) = table.rules
  name : d.name = name

/-- **What can come of a draft whose parts are read**: the first condition that fails, the errors of its rules, or
    its definition. Where an error names symbols or states, it names exactly those at fault. -/
inductive CreateTo (s : Sheet) (source : RuleSource) (name : Json) : Except Error Definition → Prop where
  | wide (symbols : List String) (hsymbols : ∀ t, t ∈ symbols ↔ t ∈ s.symbols ∧ t.length ≠ 1)
      (h : ¬ s.Narrow) : CreateTo s source name (.error (.definition (.wideSymbols symbols)))
  | blankUnknown (hnarrow : s.Narrow) (h : s.blank ∉ s.alphabet) :
      CreateTo s source name (.error (.definition (.blankNotInAlphabet s.blank)))
  | inputUnknown (symbols : List String)
      (hsymbols : ∀ t, t ∈ symbols ↔ t ∈ s.inputSymbols ∧ t ∉ s.alphabet) (hnarrow : s.Narrow)
      (hblank : s.blank ∈ s.alphabet) (h : ¬ s.inputSymbols ⊆ s.alphabet) :
      CreateTo s source name (.error (.definition (.inputNotInAlphabet symbols)))
  | blankInput (hnarrow : s.Narrow) (hblank : s.blank ∈ s.alphabet) (hinput : s.inputSymbols ⊆ s.alphabet)
      (h : s.blank ∈ s.inputSymbols) :
      CreateTo s source name (.error (.definition (.blankInInput s.blank)))
  | initialUnknown (hnarrow : s.Narrow) (hblank : s.blank ∈ s.alphabet)
      (hinput : s.inputSymbols ⊆ s.alphabet) (hfree : s.blank ∉ s.inputSymbols) (h : s.initial ∉ s.states) :
      CreateTo s source name (.error (.definition (.initialNotInStates s.initial)))
  | finalsUnknown (states : List String) (hstates : ∀ q, q ∈ states ↔ q ∈ s.finals ∧ q ∉ s.states)
      (hnarrow : s.Narrow) (hblank : s.blank ∈ s.alphabet) (hinput : s.inputSymbols ⊆ s.alphabet)
      (hfree : s.blank ∉ s.inputSymbols) (hinitial : s.initial ∈ s.states) (h : ¬ s.finals ⊆ s.states) :
      CreateTo s source name (.error (.definition (.finalsNotInStates states)))
  | tableRefused (e : Error) (hfits : s.Fits) (h : source.table? = .error e) :
      CreateTo s source name (.error e)
  | ruleRefused (table : RuleTable String) (e : DefinitionError) (hfits : s.Fits)
      (htable : source.table? = .ok table) (h : table.rules.findSome? s.refusal? = some e) :
      CreateTo s source name (.error (.definition e))
  | created (table : RuleTable String) (d : Definition) (hfits : s.Fits) (htable : source.table? = .ok table)
      (h : table.rules.findSome? s.refusal? = none) (hd : d.Holds s table name) :
      CreateTo s source name (.ok d)

namespace Definition

/-! ## 2. Sets of texts -/

section Sets

variable {texts : List String} {text : String} {c : Char}

theorem mem_stateSet : text ∈ stateSet texts ↔ text ∈ texts := by
  rw [stateSet, Std.ExtTreeSet.mem_ofList, List.contains_iff_mem]

theorem mem_wideTexts : text ∈ wideTexts texts ↔ text ∈ texts ∧ text.length ≠ 1 := by
  rw [wideTexts, Std.ExtTreeSet.mem_toList, mem_stateSet, List.mem_filter, decide_eq_true_iff]

theorem wideTexts_eq_nil_iff : wideTexts texts = [] ↔ ∀ t ∈ texts, t.length = 1 := by
  simp only [List.eq_nil_iff_forall_not_mem, mem_wideTexts, not_and, not_not]

/-- A text of one character is that character. -/
theorem exists_singleton_of_length (h : text.length = 1) : ∃ c, text = String.singleton c := by
  rw [← String.length_toList, List.length_eq_one_iff] at h
  obtain ⟨c, hc⟩ := h
  exact ⟨c, by rw [← String.toList_inj, hc, String.toList_singleton]⟩

/-- **Where every text is one character, the set holds the characters that stand in the list.** -/
theorem mem_symbolSet (h : ∀ t ∈ texts, t.length = 1) : c ∈ symbolSet texts ↔ String.singleton c ∈ texts := by
  rw [symbolSet, Std.ExtTreeSet.mem_ofList, List.contains_iff_mem, List.mem_flatMap]
  constructor
  · rintro ⟨t, ht, hc⟩
    obtain ⟨a, rfl⟩ := exists_singleton_of_length (h t ht)
    rw [String.toList_singleton, List.mem_singleton] at hc
    rwa [hc]
  · exact fun hc => ⟨_, hc, by rw [String.toList_singleton, List.mem_singleton]⟩

/-- A text is a symbol of the set exactly when it stands in the list. -/
theorem symbol?_symbolSet (h : ∀ t ∈ texts, t.length = 1) :
    symbol? (symbolSet texts) text = none ↔ text ∉ texts := by
  constructor
  · intro hnone hmem
    obtain ⟨a, rfl⟩ := exists_singleton_of_length (h text hmem)
    have ha : a ∈ symbolSet texts := (mem_symbolSet h).mpr hmem
    simp [symbol?, Std.ExtTreeSet.mem_iff_contains.mp ha] at hnone
  · intro hmem
    cases hsome : symbol? (symbolSet texts) text with
    | none => rfl
    | some a =>
        obtain ⟨ha, htext⟩ := symbol?_eq_some hsome
        exact absurd (htext ▸ (mem_symbolSet h).mp ha) hmem

end Sets

/-! ## 3. Rules of known states and symbols -/

section Rules

variable {s : Sheet} {rule : Rule String} {rules : List (Rule String)} {e : DefinitionError}

/-- The states and symbols of a rule are known exactly when nothing is wrong with it. -/
theorem refusal?_eq_none_iff_known : s.refusal? rule = none ↔
    (rule.state ∈ s.states ∧ rule.next ∈ s.states) ∧ rule.read ∈ s.alphabet ∧ rule.write ∈ s.alphabet := by
  unfold Sheet.refusal?
  split
  · simp_all
  · split
    · simp_all
    · split
      · simp_all
      · split <;> simp_all

variable (h : ∀ t ∈ s.alphabet, t.length = 1)
include h

/-- A rule with which something is wrong is refused for that. -/
theorem knownRule_of_refusal (he : s.refusal? rule = some e) :
    knownRule (stateSet s.states) (symbolSet s.alphabet) rule = .error e := by
  unfold Sheet.refusal? at he
  unfold knownRule
  split at he
  · rename_i hstate
    cases he
    rw [dif_neg (mt mem_stateSet.mp hstate)]
  · rename_i hstate
    rw [dif_pos (mem_stateSet.mpr (not_not.mp hstate))]
    split at he
    · rename_i hnext
      cases he
      rw [dif_neg (mt mem_stateSet.mp hnext)]
    · rename_i hnext
      rw [dif_pos (mem_stateSet.mpr (not_not.mp hnext))]
      split at he
      · rename_i hread
        cases he
        split
        · rfl
        · rename_i hsome
          rw [(symbol?_symbolSet h).mpr hread] at hsome
          cases hsome
      · rename_i hread
        split
        · rename_i hnone
          exact absurd ((symbol?_symbolSet h).mp hnone) hread
        · split at he
          · rename_i hwrite
            cases he
            split
            · rfl
            · rename_i hsome
              rw [(symbol?_symbolSet h).mpr hwrite] at hsome
              cases hsome
          · cases he

/-- A rule with which nothing is wrong is taken over. -/
theorem exists_knownRule (hnone : s.refusal? rule = none) :
    ∃ known, knownRule (stateSet s.states) (symbolSet s.alphabet) rule = .ok known := by
  obtain ⟨⟨hstate, hnext⟩, hread, hwrite⟩ := refusal?_eq_none_iff_known.mp hnone
  unfold knownRule
  rw [dif_pos (mem_stateSet.mpr hstate), dif_pos (mem_stateSet.mpr hnext)]
  split
  · rename_i hunknown
    exact absurd hread ((symbol?_symbolSet h).mp hunknown)
  · split
    · rename_i hunknown
      exact absurd hwrite ((symbol?_symbolSet h).mp hunknown)
    · exact ⟨_, rfl⟩

/-- **Rules are refused for the first one with which something is wrong.** -/
theorem knownRules_of_refusal (he : rules.findSome? s.refusal? = some e) :
    knownRules (stateSet s.states) (symbolSet s.alphabet) rules = .error e := by
  induction rules with
  | nil => cases he
  | cons rule rules ih =>
      rw [knownRules]
      rw [List.findSome?_cons] at he
      cases hfirst : s.refusal? rule with
      | some other =>
          rw [hfirst] at he
          cases he
          rw [knownRule_of_refusal h hfirst]
          rfl
      | none =>
          rw [hfirst] at he
          obtain ⟨known, hknown⟩ := exists_knownRule h hfirst
          rw [hknown, ih he]
          rfl

/-- **Rules are taken over when nothing is wrong with any of them.** -/
theorem exists_knownRules (hnone : rules.findSome? s.refusal? = none) :
    ∃ known, knownRules (stateSet s.states) (symbolSet s.alphabet) rules = .ok known := by
  induction rules with
  | nil => exact ⟨_, rfl⟩
  | cons rule rules ih =>
      rw [List.findSome?_eq_none_iff] at hnone
      obtain ⟨known, hknown⟩ := exists_knownRule h (hnone rule List.mem_cons_self)
      obtain ⟨others, hothers⟩ :=
        ih (List.findSome?_eq_none_iff.mpr fun r hr => hnone r (List.mem_cons_of_mem _ hr))
      rw [knownRules, hknown, hothers]
      exact ⟨_, rfl⟩

end Rules

/-! ## 4. The making -/

section Making

variable {draft : Draft} {s : Sheet}

theorem all_contains_stateSet {qs states : List String} :
    (stateSet qs).toList.all (stateSet states).contains = true ↔ qs ⊆ states := by
  simp only [List.all_eq_true, Std.ExtTreeSet.mem_toList, ← Std.ExtTreeSet.mem_iff_contains, mem_stateSet]
  exact Iff.rfl

theorem mem_filter_stateSet {qs states : List String} {q : String} :
    q ∈ (stateSet qs).toList.filter (fun q => !(stateSet states).contains q) ↔ q ∈ qs ∧ q ∉ states := by
  rw [List.mem_filter, Std.ExtTreeSet.mem_toList, mem_stateSet, Bool.not_eq_true', ← Bool.not_eq_true,
    ← Std.ExtTreeSet.mem_iff_contains, mem_stateSet]

section Symbols

variable {symbols alphabet : List String} (hs : ∀ t ∈ symbols, t.length = 1)
  (ha : ∀ t ∈ alphabet, t.length = 1)
include hs ha

theorem all_contains_symbolSet :
    (symbolSet symbols).toList.all (symbolSet alphabet).contains = true ↔ symbols ⊆ alphabet := by
  simp only [List.all_eq_true, Std.ExtTreeSet.mem_toList, ← Std.ExtTreeSet.mem_iff_contains, mem_symbolSet hs,
    mem_symbolSet ha]
  constructor
  · intro h t ht
    obtain ⟨c, rfl⟩ := exists_singleton_of_length (hs t ht)
    exact h c ht
  · exact fun h c hc => h hc

theorem mem_filter_symbolSet {text : String} :
    text ∈ ((symbolSet symbols).toList.filter fun c => !(symbolSet alphabet).contains c).map String.singleton ↔
      text ∈ symbols ∧ text ∉ alphabet := by
  simp only [List.mem_map, List.mem_filter, Std.ExtTreeSet.mem_toList, Bool.not_eq_true', ← Bool.not_eq_true,
    ← Std.ExtTreeSet.mem_iff_contains, mem_symbolSet hs, mem_symbolSet ha]
  constructor
  · rintro ⟨c, hc, rfl⟩
    exact hc
  · intro h
    obtain ⟨c, rfl⟩ := exists_singleton_of_length (hs text h.1)
    exact ⟨c, h, rfl⟩

end Symbols

/-- **What the making of a definition does**, once the parts are read. -/
theorem createTo_create (h : draft.Reads s) : CreateTo s draft.rules draft.name (create draft) := by
  unfold create
  rw [h.alphabet, h.inputSymbols, h.states, h.finals]
  simp only [liftM, monadLift, MonadLift.monadLift, mapError_ok, bind, Except.bind, h.blank, h.initial]
  by_cases hnarrow : s.Narrow
  case neg =>
    split
    · rename_i hnil _
      exact absurd (wideTexts_eq_nil_iff.mp hnil) hnarrow
    · exact .wide _ (fun t => mem_wideTexts) hnarrow
  have ha : ∀ t ∈ s.alphabet, t.length = 1 := fun t ht => hnarrow t (by simp [Sheet.symbols, ht])
  have hi : ∀ t ∈ s.inputSymbols, t.length = 1 := fun t ht => hnarrow t (by simp [Sheet.symbols, ht])
  obtain ⟨b, hb⟩ := exists_singleton_of_length (hnarrow s.blank (by simp [Sheet.symbols]))
  have hwide : wideTexts (s.alphabet ++ s.inputSymbols ++ [s.blank]) = [] := wideTexts_eq_nil_iff.mpr hnarrow
  have hchars : s.blank.toList = [b] := by rw [hb, String.toList_singleton]
  have hknown : b ∈ symbolSet s.alphabet ↔ s.blank ∈ s.alphabet := by rw [mem_symbolSet ha, ← hb]
  have htaken : b ∈ symbolSet s.inputSymbols ↔ s.blank ∈ s.inputSymbols := by rw [mem_symbolSet hi, ← hb]
  simp only [hwide, hchars]
  by_cases hblank : s.blank ∈ s.alphabet
  case neg =>
    rw [dif_neg (mt hknown.mp hblank)]
    exact .blankUnknown hnarrow hblank
  rw [dif_pos (hknown.mpr hblank)]
  by_cases hinput : s.inputSymbols ⊆ s.alphabet
  case neg =>
    rw [dif_neg (mt (all_contains_symbolSet hi ha).mp hinput)]
    exact .inputUnknown _ (fun t => mem_filter_symbolSet hi ha) hnarrow hblank hinput
  rw [dif_pos ((all_contains_symbolSet hi ha).mpr hinput)]
  by_cases hfree : s.blank ∈ s.inputSymbols
  case pos =>
    rw [dif_neg (not_not_intro (htaken.mpr hfree))]
    exact .blankInput hnarrow hblank hinput hfree
  rw [dif_pos (mt htaken.mp hfree)]
  by_cases hinitial : s.initial ∈ s.states
  case neg =>
    rw [dif_neg (mt mem_stateSet.mp hinitial)]
    exact .initialUnknown hnarrow hblank hinput hfree hinitial
  rw [dif_pos (mem_stateSet.mpr hinitial)]
  by_cases hfinals : s.finals ⊆ s.states
  case neg =>
    rw [dif_neg (mt all_contains_stateSet.mp hfinals)]
    exact .finalsUnknown _ (fun q => mem_filter_stateSet) hnarrow hblank hinput hfree hinitial hfinals
  rw [dif_pos (all_contains_stateSet.mpr hfinals)]
  have hfits : s.Fits := ⟨hnarrow, hblank, hinput, hfree, hinitial, hfinals⟩
  cases htable : draft.rules.table? with
  | error e => exact .tableRefused e hfits htable
  | ok table =>
      cases hrefusal : table.rules.findSome? s.refusal? with
      | some e =>
          simp only [knownRules_of_refusal ha hrefusal]
          exact .ruleRefused table e hfits htable hrefusal
      | none =>
          obtain ⟨known, hrules⟩ := exists_knownRules ha hrefusal
          simp only [hrules]
          exact .created table _ hfits htable hrefusal
            ⟨fun c => mem_symbolSet ha, fun c => mem_symbolSet hi, hb.symm, fun q => mem_stateSet, rfl,
              fun q => mem_stateSet, known.property, rfl⟩

/-- **The parts of a draft are read, or one of the four sets has no items.** -/
theorem reads_or_refused (draft : Draft) :
    (∃ s, draft.Reads s) ∨ ∃ value ∈ [draft.alphabet, draft.inputSymbols, draft.states, draft.finals],
      ∃ e, texts value = .error e ∧ create draft = .error (.shape e) := by
  cases halphabet : texts draft.alphabet with
  | error e => exact .inr ⟨_, by simp, e, halphabet, by rw [create, halphabet]; rfl⟩
  | ok alphabet =>
      cases hinput : texts draft.inputSymbols with
      | error e => exact .inr ⟨_, by simp, e, hinput, by rw [create, halphabet, hinput]; rfl⟩
      | ok inputSymbols =>
          cases hstates : texts draft.states with
          | error e => exact .inr ⟨_, by simp, e, hstates, by rw [create, halphabet, hinput, hstates]; rfl⟩
          | ok states =>
              cases hfinals : texts draft.finals with
              | error e =>
                  exact .inr ⟨_, by simp, e, hfinals, by rw [create, halphabet, hinput, hstates, hfinals]; rfl⟩
              | ok finals =>
                  exact .inl ⟨⟨alphabet, inputSymbols, _, states, _, finals⟩, halphabet, hinput, rfl, hstates, rfl,
                    hfinals⟩

/-- **A definition that was made holds what its draft says**, and nothing is wrong with the draft. -/
theorem holds_of_create {d : Definition} (h : create draft = .ok d) :
    ∃ s table, draft.Reads s ∧ s.Fits ∧ draft.rules.table? = .ok table ∧
      table.rules.findSome? s.refusal? = none ∧ d.Holds s table draft.name := by
  obtain ⟨s, hs⟩ | ⟨value, _, e, _, he⟩ := reads_or_refused draft
  · have hto := createTo_create hs
    rw [h] at hto
    cases hto with
    | created table _ hfits htable hnone hd => exact ⟨s, table, hs, hfits, htable, hnone, hd⟩
  · rw [h] at he
    cases he

end Making

end Definition

end TapeMachine
