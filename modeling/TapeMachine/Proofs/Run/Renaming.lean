import TapeMachine.Proofs.Machine.Renaming
import TapeMachine.Proofs.Run.Invariant
import Mathlib.Logic.Equiv.Basic
/-!
# Renamed machines run alike

No run depends on how the states of a machine are called or which characters its symbols are. Where different ones stay
different, the renamed machine goes the renamed course on the renamed input, and stops at the same moment.

* `Json.mapSymbols`, `Renaming.config`, `Renaming.result` : an input, a configuration and a result with other names;
* `Definition.readInput_renamed` : the renamed machine takes the renamed input;
* `Definition.Known`, `Definition.known_course` : **a course knows the states and the symbols of its machine only**;
* `Definition.course_renamed` : **the renamed machine goes the renamed course**;
* `Definition.run_renamed` : **it is accepted, and its results are the renamed ones.**
-/

namespace TapeMachine

/-! ## 1. Inputs -/

namespace Json

/-- A text with other characters; all other values stay. -/
def mapText (g : Char → Char) : Json → Json
  | .str s => .str (s.map g)
  | value => value

/-- An input with other symbols: its characters, its items or its names are replaced. -/
def mapSymbols (g : Char → Char) : Json → Json
  | .arr items => .arr (items.map (mapText g))
  | .obj fields => .obj (fields.map fun field => (field.1.map g, field.2))
  | value => mapText g value

/-- Some symbols as the items of a value. -/
def symbolItems (symbols : List Char) : List Json :=
  symbols.map fun c => .str (String.singleton c)

theorem map_singleton (g : Char → Char) (c : Char) : (String.singleton c).map g = String.singleton (g c) := by
  rw [← String.toList_inj, String.toList_map, String.toList_singleton, String.toList_singleton]
  rfl

theorem map_symbolItems (g : Char → Char) (symbols : List Char) :
    (symbolItems symbols).map (mapText g) = symbolItems (symbols.map g) := by
  rw [symbolItems, symbolItems, List.map_map, List.map_map]
  exact List.map_congr_left fun c _ => congrArg Json.str (map_singleton g c)

/-- A value with symbols as its items has the other symbols as items when they are replaced. -/
theorem items_mapSymbols {g : Char → Char} {given : Json} {symbols : List Char}
    (h : given.items = .ok (symbolItems symbols)) : (given.mapSymbols g).items = .ok (symbolItems (symbols.map g)) := by
  rw [← map_symbolItems]
  cases given with
  | str s =>
      rw [← Except.ok.inj h, List.map_map]
      show Except.ok ((s.map g).toList.map _) = _
      rw [String.toList_map, List.map_map]
      exact congrArg Except.ok (List.map_congr_left fun c _ => congrArg Json.str (map_singleton g c).symm)
  | arr items => rw [← Except.ok.inj h]; rfl
  | obj fields =>
      rw [← Except.ok.inj h, List.map_map]
      show Except.ok ((fields.map _).map _) = _
      rw [List.map_map]
      rfl
  | _ => cases h

theorem eq_of_mapM_asKey {items keys : List Json} (h : items.mapM asKey = .ok keys) : keys = items := by
  induction items generalizing keys with
  | nil => cases h; rfl
  | cons item items ih =>
      rw [List.mapM_cons] at h
      obtain ⟨key, hkey, h⟩ := exists_of_bind_eq_ok h
      obtain ⟨others, hothers, h⟩ := exists_of_bind_eq_ok h
      cases h
      have hsame : key = item := by
        cases item <;> cases hkey <;> rfl
      rw [hsame, ih hothers]

end Json

namespace Definition

variable {d : Definition}

/-- The symbols that are found among some values are these values. -/
theorem eq_of_mapM_inputSymbol? {keys : List Json} {symbols : List Char}
    (h : keys.mapM d.inputSymbol? = some symbols) : keys = Json.symbolItems symbols := by
  induction keys generalizing symbols with
  | nil => cases h; rfl
  | cons key keys ih =>
      simp only [List.mapM_cons, bind, pure, Option.bind_eq_some_iff, Option.some_inj] at h
      obtain ⟨symbol, hsymbol, others, hothers, rfl⟩ := h
      have hkey : key = .str (String.singleton symbol) := by
        unfold inputSymbol? at hsymbol
        split at hsymbol
        · exact congrArg Json.str (symbol?_eq_some hsymbol).2.symm
        · cases hsymbol
      rw [hkey, ih hothers]
      rfl

/-- **A value is an input exactly when its items are input symbols.** -/
theorem readInput_eq_ok_iff {given : Json} {input : Input} : d.readInput given = .ok input ↔
    input.given = given ∧ given.items = .ok (Json.symbolItems input.symbols) ∧
      ∀ c ∈ input.symbols, c ∈ d.inputSymbols := by
  constructor
  · intro h
    refine ⟨given_of_readInput h, ?_, mem_of_readInput h⟩
    unfold readInput at h
    split at h
    · cases h
    · rename_i items hitems
      split at h
      · cases h
      · rename_i keys hkeys
        split at h
        · rename_i symbols hsymbols
          cases h
          rw [hitems, ← Json.eq_of_mapM_asKey hkeys, eq_of_mapM_inputSymbol? hsymbols]
        · cases h
  · rintro ⟨rfl, hitems, hmem⟩
    have hall : input.symbols.all d.inputSymbols.contains = true :=
      List.all_eq_true.mpr fun c hc => Std.ExtTreeSet.mem_iff_contains.mp (hmem c hc)
    unfold readInput
    simp only [hitems, Json.symbolItems, mapM_asKey_chars, mapM_inputSymbol?_chars, hall, if_true]

variable (ρ : d.Renaming)

/-- An input with other symbols. -/
def Renaming.input (input : Input) : Input :=
  { given := input.given.mapSymbols ρ.symbol, symbols := input.symbols.map ρ.symbol }

/-- **The renamed machine takes the renamed input.** -/
theorem readInput_renamed {given : Json} {input : Input} (h : d.readInput given = .ok input) :
    (d.renamed ρ).readInput (given.mapSymbols ρ.symbol) = .ok (ρ.input input) := by
  obtain ⟨hgiven, hitems, hmem⟩ := readInput_eq_ok_iff.mp h
  refine readInput_eq_ok_iff.mpr
    ⟨congrArg (Json.mapSymbols ρ.symbol) hgiven, Json.items_mapSymbols hitems, fun c hc => ?_⟩
  obtain ⟨a, ha, rfl⟩ := List.mem_map.mp hc
  exact mem_image_of_mem (hmem a ha)

/-! ## 2. Courses -/

/-- Whether the states and the symbols of a configuration are those of its machine. -/
structure Known (d : Definition) (c : Config) : Prop where
  state : c.state ∈ d.states
  symbols : ∀ i, c.tape i ∈ d.alphabet

section Course

variable {symbols : List Char} {c : Config}

theorem known_start (h : ∀ a ∈ symbols, a ∈ d.inputSymbols) : d.Known (.start d symbols) where
  state := d.initial_mem
  symbols := fun i => by
    have hget : (Tape.ofInput symbols d.blank).get i = (Config.start d symbols).tape i := Tape.get_ofInput
    rw [← hget]
    obtain hblank | ⟨hmem, _⟩ := Tape.get_ofInput_cases symbols d.blank i
    · rw [hblank]
      exact d.blank_mem
    · exact d.input_subset _ (h _ hmem)

theorem Known.next (h : d.Known c) : d.Known (c.next d) := by
  unfold Config.next
  split
  · exact h
  · rename_i rule hrule
    have hmem : rule ∈ d.rules.rules := (RuleTable.lookup_eq_some_iff.mp hrule).1
    refine ⟨(d.rule_states rule hmem).2, fun i => ?_⟩
    rw [Config.tape_apply]
    split
    · exact (d.rule_symbols rule hmem).2
    · exact h.symbols i

/-- **A course knows the states and the symbols of its machine only.** -/
theorem known_course (h : ∀ a ∈ symbols, a ∈ d.inputSymbols) (n : Nat) : d.Known (d.course symbols n) := by
  induction n with
  | zero => exact known_start h
  | succ n ih => exact ih.next

/-- A configuration with other names. -/
def Renaming.config (c : Config) : Config :=
  { state := ρ.state c.state, head := c.head, tape := fun i => ρ.symbol (c.tape i) }

theorem Renaming.config_start (symbols : List Char) :
    ρ.config (.start d symbols) = .start (d.renamed ρ) (symbols.map ρ.symbol) := by
  have htape : (fun i => ρ.symbol ((Config.start d symbols).tape i)) =
      (Config.start (d.renamed ρ) (symbols.map ρ.symbol)).tape := by
    funext i
    simp only [Config.start]
    split
    · rw [List.getElem?_map]
      exact (Option.getD_map ρ.symbol d.blank _).symm
    · rfl
  rw [Renaming.config, htape]
  rfl

theorem Renaming.config_apply (c : Config) (rule : Rule Char) :
    ρ.config (c.apply rule) = (ρ.config c).apply (ρ.rule rule) := by
  have htape : (fun i => ρ.symbol ((c.apply rule).tape i)) = ((ρ.config c).apply (ρ.rule rule)).tape := by
    funext i
    rw [Config.tape_apply, Config.tape_apply, apply_ite ρ.symbol]
    rfl
  rw [Renaming.config, htape]
  rfl

theorem Known.rule?_config (h : d.Known c) : (ρ.config c).rule? (d.renamed ρ) = (c.rule? d).map ρ.rule :=
  lookup_renamed ρ h.state (h.symbols _)

theorem Known.next_config (h : d.Known c) : (ρ.config c).next (d.renamed ρ) = ρ.config (c.next d) := by
  rw [Config.next, Config.next, h.rule?_config]
  cases c.rule? d with
  | none => rfl
  | some rule => exact (ρ.config_apply c rule).symm

end Course

section Runs

variable {input : Input} {limits : Limits} {n : Nat} (h : ∀ a ∈ input.symbols, a ∈ d.inputSymbols)
include h

/-- **The renamed machine goes the renamed course.** -/
theorem course_renamed (n : Nat) :
    (d.renamed ρ).course (ρ.input input).symbols n = ρ.config (d.course input.symbols n) := by
  induction n with
  | zero => exact (ρ.config_start input.symbols).symm
  | succ n ih => rw [course, ih, (known_course h n).next_config, course]

theorem rule?_course_renamed (n : Nat) : ((d.renamed ρ).course (ρ.input input).symbols n).rule? (d.renamed ρ) =
    ((d.course input.symbols n).rule? d).map ρ.rule := by
  rw [course_renamed ρ h, (known_course h n).rule?_config]

theorem heads_renamed (n : Nat) : (d.renamed ρ).heads (ρ.input input).symbols n = d.heads input.symbols n := by
  simp only [heads, course_renamed ρ h]
  rfl

theorem leftmost_renamed (n : Nat) :
    (d.renamed ρ).leftmost (ρ.input input).symbols n = d.leftmost input.symbols n := by
  rw [leftmost, leftmost, heads_renamed ρ h]

theorem rightmost_renamed (n : Nat) :
    (d.renamed ρ).rightmost (ρ.input input).symbols n = d.rightmost input.symbols n := by
  rw [rightmost, rightmost, heads_renamed ρ h, Renaming.input, List.length_map]

theorem window_renamed (n : Nat) :
    (d.renamed ρ).window (ρ.input input).symbols n = (d.window input.symbols n).map ρ.symbol := by
  simp only [window, leftmost_renamed ρ h, rightmost_renamed ρ h, course_renamed ρ h, List.map_map]
  rfl

/-- A moment of a run with other names. -/
def Renaming.moment (s : Snapshot Char) : Snapshot Char :=
  { step := s.step, state := ρ.state s.state, cells := .mk fun _ => s.cells.get.map ρ.symbol, head := s.head
    offset := s.offset }

/-- **A result with other names**: each state and each symbol is renamed, and all else is the same. -/
def Renaming.result (r : Result Char) : Result Char :=
  { outcome := r.outcome, finalState := ρ.state r.finalState, tape := r.tape.map ρ.symbol
    trace := r.trace.map ρ.moment, steps := r.steps, blank := ρ.symbol r.blank, reason := r.reason
    input := r.input.mapSymbols ρ.symbol }

theorem shown_renamed (n : Nat) :
    (d.renamed ρ).shown (ρ.input input).symbols n = ρ.moment (d.shown input.symbols n) := by
  simp only [shown, course_renamed ρ h, window_renamed ρ h, leftmost_renamed ρ h]
  rfl

theorem crosses_renamed_iff : (d.renamed ρ).Crosses (ρ.input input).symbols limits n ↔
    d.Crosses input.symbols limits n := by
  unfold Crosses
  rw [rule?_course_renamed ρ h, course_renamed ρ h]
  simp only [Option.map_eq_some_iff]
  constructor
  · rintro ⟨hbounded, hhead, _, ⟨rule, hrule, rfl⟩, hmove⟩
    exact ⟨hbounded, hhead, rule, hrule, hmove⟩
  · rintro ⟨hbounded, hhead, rule, hrule, hmove⟩
    exact ⟨hbounded, hhead, _, ⟨rule, hrule, rfl⟩, hmove⟩

/-- The renamed machine stops at the same moments. -/
theorem stops_renamed : (d.renamed ρ).Stops (ρ.input input).symbols limits = d.Stops input.symbols limits := by
  funext n
  rw [Stops, Stops, rule?_course_renamed ρ h, crosses_renamed_iff ρ h, Option.map_eq_none_iff]

theorem verdict_renamed (n : Nat) : (d.renamed ρ).verdict (ρ.input input).symbols limits n =
    d.verdict input.symbols limits n := by
  rw [verdict, verdict, rule?_course_renamed ρ h]
  cases (d.course input.symbols n).rule? d with
  | none =>
      rw [course_renamed ρ h]
      exact congrArg (fun final : Bool => (if final then Outcome.accepted else .rejected, none))
        (isFinal_renamed ρ (known_course h n).state)
  | some rule => rfl

theorem resultAt_renamed (n : Nat) :
    (d.renamed ρ).resultAt limits (ρ.input input) n = ρ.result (d.resultAt limits input n) := by
  have hshown : (d.renamed ρ).shown (ρ.input input).symbols = ρ.moment ∘ d.shown input.symbols :=
    funext (shown_renamed ρ h)
  simp only [resultAt, verdict_renamed ρ h, course_renamed ρ h, window_renamed ρ h, hshown, Renaming.result,
    List.map_map]
  rfl

end Runs

/-! ## 3. Results -/

/-- **Runs commute with renaming.** A machine with other names for its states and other characters for its symbols,
different ones for different ones, is accepted when it is written down. On each input of the machine with the symbols
replaced it has the same result, with each state and each symbol renamed. -/
theorem run_renamed (d : Definition) (ρ : d.Renaming) :
    create (d.renamed ρ).writing = .ok (d.renamed ρ) ∧
      ∀ given input limits, d.readInput given = .ok input → ∃ r, d.run given limits = .ok r ∧
        (d.renamed ρ).run (given.mapSymbols ρ.symbol) limits = .ok (ρ.result r) := by
  refine ⟨create_writing _, fun given input limits hinput => ?_⟩
  have hmem := mem_of_readInput hinput
  obtain ⟨k, hk⟩ := d.exists_isLeast_stops input.symbols limits
  refine ⟨_, run_eq_resultAt hinput hk, ?_⟩
  rw [← stops_renamed ρ hmem] at hk
  rw [run_eq_resultAt (readInput_renamed ρ hinput) hk, resultAt_renamed ρ hmem]

/-- The machine that adds one with its first and its last state exchanged, and its zero with its blank. -/
def exchanged : increment.Renaming where
  state := Equiv.swap "scan" "done"
  symbol := Equiv.swap '0' 'B'
  state_inj := fun _ _ _ _ h => (Equiv.swap _ _).injective h
  symbol_inj := fun _ _ _ _ h => (Equiv.swap _ _).injective h

/-- The machine whose blank is a zero adds one to a number with the old blank as its zero. -/
theorem run_renamed_increment : increment.readInput (.str "101") = .ok (.ofText "101") ∧
    create (increment.renamed exchanged).writing = .ok (increment.renamed exchanged) ∧
    ∃ r, increment.run (.str "101") { leftBounded := true } = .ok r ∧
      (increment.renamed exchanged).run (.str "1B1") { leftBounded := true } = .ok (exchanged.result r) := by
  have hinput : increment.readInput (.str "101") = .ok (.ofText "101") := readInput_increment.mpr (by simp)
  have hgiven : (Json.str "101").mapSymbols exchanged.symbol = .str "1B1" :=
    congrArg Json.str (by rw [← String.toList_inj, String.toList_map]; decide)
  obtain ⟨hcreate, hruns⟩ := run_renamed increment exchanged
  obtain ⟨r, hrun, hrenamed⟩ := hruns _ _ { leftBounded := true } hinput
  exact ⟨hinput, hcreate, r, hrun, hgiven ▸ hrenamed⟩

end Definition

end TapeMachine
