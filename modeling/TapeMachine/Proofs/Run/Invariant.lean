import TapeMachine.Proofs.Machine.Creation
import TapeMachine.Proofs.Run.History
/-!
# What holds of an executor at all times

The tape holds symbols of the alphabet only and stores none outside the window it has visited; every moment of the
trace shows its head; the trace, the stack of undo entries and the count of steps go together; and there is a reason
exactly when the run was stopped. All this holds at the start and is kept by every step, so it holds behind any calls.

* `Tape.IntactFor`, `Snapshot.IntactFor`, `Executor.Intact` : **the invariants** of a tape, of a moment and of an
  executor;
* `Tape.IntactFor.write`, `Tape.IntactFor.move` : what a rule does keeps the one of the tape;
* `Executor.Intact.step` : a step keeps the one of the executor;
* `Executor.intact_callAll` : **they hold behind any sequence of calls**, for every machine that was made and every
  input that was read.
-/

namespace TapeMachine

variable {d : Definition}

/-! ## 1. Tapes -/

/-- **What holds of the tape of a machine**, with an input of some length. -/
structure Tape.IntactFor (d : Definition) (length : Nat) (tape : Tape Char) : Prop where
  blank : tape.blank = d.blank
  symbols : ∀ i, tape.get i ∈ d.alphabet
  stored : ∀ i c, tape.cells[i]? = some c → c ≠ d.blank ∧ tape.low ≤ i ∧ i ≤ tape.high
  low_le : tape.low ≤ 0
  high_ge : 0 ≤ tape.high
  low_le_head : tape.low ≤ tape.head
  head_le_high : tape.head ≤ tape.high
  input_le_high : (length : Int) - 1 ≤ tape.high

namespace Tape

variable {tape : Tape Char} {length : Nat} {symbols : List Char} {symbol : Char}

/-- What stands on the tape of an input: blanks, and the input from position 0 on. -/
theorem get_ofInput_cases (symbols : List Char) (blank : Char) (i : Int) : (ofInput symbols blank).get i = blank ∨
    (ofInput symbols blank).get i ∈ symbols ∧ 0 ≤ i ∧ i < symbols.length := by
  rw [get_ofInput]
  split
  · cases hcell : symbols[i.toNat]? with
    | none => exact .inl rfl
    | some c =>
        obtain ⟨hlt, rfl⟩ := List.getElem?_eq_some_iff.mp hcell
        exact .inr ⟨List.getElem_mem hlt, by omega, by omega⟩
  · exact .inl rfl

/-- The tape of an input is intact. -/
theorem intactFor_ofInput (h : ∀ c ∈ symbols, c ∈ d.inputSymbols) :
    (ofInput symbols d.blank).IntactFor d symbols.length := by
  have hhigh : (ofInput symbols d.blank).high = max ((symbols.length : Int) - 1) 0 := high_ofInput
  refine ⟨blank_ofInput, fun i => ?_, fun i c hc => ?_, ?_, ?_, ?_, ?_, ?_⟩
  · obtain hblank | ⟨hmem, _⟩ := get_ofInput_cases symbols d.blank i
    · rw [hblank]
      exact d.blank_mem
    · exact d.input_subset _ (h _ hmem)
  · rw [getElem?_cells_eq_some_iff, blank_ofInput] at hc
    obtain ⟨rfl, hne⟩ := hc
    obtain hblank | ⟨_, hlower, hupper⟩ := get_ofInput_cases symbols d.blank i
    · exact absurd hblank hne
    · refine ⟨hne, ?_, ?_⟩
      · rw [low_ofInput]
        exact hlower
      · omega
  · exact Int.le_of_eq low_ofInput
  · omega
  · exact Int.le_of_eq (low_ofInput.trans head_ofInput.symm)
  · rw [head_ofInput]
    omega
  · omega

/-- Writing a symbol of the alphabet keeps a tape intact. -/
theorem IntactFor.write (h : tape.IntactFor d length) (hsymbol : symbol ∈ d.alphabet) :
    (tape.write symbol).IntactFor d length := by
  refine ⟨?_, fun i => ?_, fun i c hc => ?_, ?_, ?_, ?_, ?_, ?_⟩
  · rw [blank_write, h.blank]
  · rw [get_write]
    split
    · exact hsymbol
    · exact h.symbols i
  · rw [getElem?_cells_eq_some_iff, get_write, blank_write] at hc
    obtain ⟨hget, hblank⟩ := hc
    rw [low_write, high_write]
    split at hget
    · rename_i hhead
      rw [← h.blank, ← hhead]
      exact ⟨hblank, h.low_le_head, h.head_le_high⟩
    · exact h.stored i c (getElem?_cells_eq_some_iff.mpr ⟨hget, hblank⟩)
  · rw [low_write]
    exact h.low_le
  · rw [high_write]
    exact h.high_ge
  · rw [low_write, head_write]
    exact h.low_le_head
  · rw [head_write, high_write]
    exact h.head_le_high
  · rw [high_write]
    exact h.input_le_high

/-- Moving the head keeps a tape intact. -/
theorem IntactFor.move (h : tape.IntactFor d length) (direction : Direction) :
    (tape.move direction).IntactFor d length := by
  have hlow : (tape.move direction).low ≤ tape.low := Int.min_le_left _ _
  have hhigh : tape.high ≤ (tape.move direction).high := Int.le_max_left _ _
  refine ⟨h.blank, h.symbols, fun i c hc => ?_, Int.le_trans hlow h.low_le, Int.le_trans h.high_ge hhigh,
    Int.min_le_right _ _, Int.le_max_right _ _, Int.le_trans h.input_le_high hhigh⟩
  obtain ⟨hblank, hlower, hupper⟩ := h.stored i c hc
  exact ⟨hblank, Int.le_trans hlow hlower, Int.le_trans hupper hhigh⟩

theorem IntactFor.mem_contents (h : tape.IntactFor d length) : ∀ c ∈ tape.contents, c ∈ d.alphabet := by
  intro c hc
  obtain ⟨n, _, rfl⟩ := List.mem_map.mp hc
  exact h.symbols _

end Tape

/-! ## 2. Moments -/

/-- **What holds of every moment of a run.** -/
structure Snapshot.IntactFor (d : Definition) (s : Snapshot Char) : Prop where
  state : s.state ∈ d.states
  symbols : ∀ c ∈ s.cells.get, c ∈ d.alphabet
  head_nonneg : 0 ≤ s.headIndex
  head_lt : s.headIndex < s.cells.get.length

/-- A moment of an intact tape is intact. -/
theorem Executor.intactFor_snapshotOf {tape : Tape Char} {length : Nat} {state : String}
    (h : tape.IntactFor d length) (hstate : state ∈ d.states) (steps : Nat) :
    (snapshotOf tape state steps).IntactFor d := by
  have hlow := h.low_le_head
  have hhigh := h.head_le_high
  refine ⟨hstate, h.mem_contents, ?_, ?_⟩
  · show 0 ≤ tape.head - tape.low
    omega
  · show tape.head - tape.low < (tape.contents.length : Int)
    rw [Tape.contents, List.length_map, List.length_range]
    omega

/-! ## 3. Executors -/

namespace Executor

/-- **What holds of an executor at all times**, for its machine, its input and its limits. -/
structure Intact (d : Definition) (input : Input) (limits : Limits) (e : Executor) : Prop where
  definition : e.definition = d
  input_eq : e.input = input
  limits_eq : e.limits = limits
  state : e.state ∈ d.states
  tape : e.tape.IntactFor d input.symbols.length
  moments : ∀ s ∈ e.trace, s.IntactFor d
  undos : e.undos.length = e.steps
  steps_le : e.steps ≤ limits.maxSteps
  -- the latest moment comes first: the one of number `i` has counted `i` steps, and there is one more than steps
  numbered : e.trace.map Snapshot.step = (List.range (e.steps + 1)).reverse
  latest : e.trace.head? = some e.snapshot
  reason : e.reason.isSome = true ↔ e.outcome = some .halted

section Steps

variable {input : Input} {limits : Limits} {e : Executor}

/-- A fresh executor is intact. -/
theorem intact_start (h : ∀ c ∈ input.symbols, c ∈ d.inputSymbols) :
    (start d input limits).Intact d input limits := by
  have htape := Tape.intactFor_ofInput h
  refine ⟨rfl, rfl, rfl, d.initial_mem, htape, fun s hs => ?_, rfl, Nat.zero_le _, rfl, rfl, ?_⟩
  · obtain rfl := List.mem_singleton.mp hs
    exact intactFor_snapshotOf htape d.initial_mem 0
  · simp [start]

/-- **Applying a rule keeps an executor intact**, as long as the limit is not reached. -/
theorem Intact.apply {rule : Rule Char} (h : e.Intact d input limits) (hrunning : e.Running)
    (hrule : e.rule? = some rule) (hlimit : e.steps < e.limits.maxSteps) : (e.apply rule).Intact d input limits := by
  have hmem : rule ∈ d.rules.rules := by
    rw [rule?, h.definition] at hrule
    exact (RuleTable.lookup_eq_some_iff.mp hrule).1
  have hstate : rule.next ∈ d.states := (d.rule_states rule hmem).2
  have htape : ((e.tape.write rule.write).move rule.move).IntactFor d input.symbols.length :=
    (h.tape.write (d.rule_symbols rule hmem).2).move rule.move
  refine ⟨h.definition, h.input_eq, h.limits_eq, hstate, htape, fun s hs => ?_, ?_, ?_, ?_, rfl, ?_⟩
  · obtain rfl | hs := List.mem_cons.mp hs
    · exact intactFor_snapshotOf htape hstate _
    · exact h.moments s hs
  · show e.undos.length + 1 = e.steps + 1
    rw [h.undos]
  · rw [h.limits_eq] at hlimit
    exact hlimit
  · show (e.steps + 1) :: e.trace.map Snapshot.step = (List.range (e.steps + 1 + 1)).reverse
    rw [h.numbered, List.range_succ (n := e.steps + 1), List.reverse_append]
    rfl
  · show e.reason.isSome = true ↔ e.outcome = some .halted
    rw [hrunning.outcome, hrunning.reason]
    simp

/-- Ending a run keeps an executor intact, if there is a reason exactly when it is stopped. -/
theorem Intact.ended {outcome : Outcome} {reason : Option HaltReason} (h : e.Intact d input limits)
    (hreason : reason.isSome = true ↔ outcome = .halted) : (e.ended outcome reason).Intact d input limits :=
  ⟨h.definition, h.input_eq, h.limits_eq, h.state, h.tape, h.moments, h.undos, h.steps_le, h.numbered, h.latest,
    hreason.trans (Option.some_inj).symm⟩

/-- **A step keeps an executor intact.** -/
theorem Intact.step (h : e.Intact d input limits) (hrunning : e.Running) : e.step.Intact d input limits := by
  have hto := stepTo_step hrunning
  generalize e.step = e' at hto ⊢
  cases hto with
  | stuck => exact h.ended (by split <;> simp)
  | limited => exact h.ended (by simp)
  | blocked => exact h.ended (by simp)
  | applied rule hrule hlimit => exact h.apply hrunning hrule hlimit

/-- **Any number of steps keeps an executor intact.** -/
theorem Intact.iterate_step (h : e.Intact d input limits) (hrunning : e.Running) (n : Nat) :
    (Executor.step^[n] e).Intact d input limits := by
  induction n with
  | zero => exact h
  | succ n ih =>
      rw [Function.iterate_succ_apply']
      obtain hgoing | hover := running_or_halted_iterate_step hrunning n
      · exact ih.step hgoing
      · rw [step_of_halted hover]
        exact ih

/-- An intact executor that is not halted has no reason for an end. -/
theorem Intact.running (h : e.Intact d input limits) (hgo : e.halted = false) : e.Running := by
  have houtcome : e.outcome = none := by simpa [halted] using hgo
  refine ⟨houtcome, Option.not_isSome_iff_eq_none.mp fun hreason => ?_⟩
  rw [h.reason, houtcome] at hreason
  cases hreason

/-- The result of an intact executor has a label. -/
theorem Intact.exists_label (h : e.Intact d input limits) {r : Result Char} (hr : e.result = .ok r) :
    ∃ text, r.label = .ok text := by
  have hreason := h.reason
  unfold result at hr
  cases houtcome : e.outcome with
  | none =>
      rw [houtcome] at hr
      cases hr
  | some outcome =>
      rw [houtcome] at hr hreason
      cases hr
      cases outcome with
      | accepted => exact ⟨_, rfl⟩
      | rejected => exact ⟨_, rfl⟩
      | halted =>
          obtain ⟨reason, hsome⟩ := Option.isSome_iff_exists.mp (hreason.mpr rfl)
          rw [Result.label, hsome]
          exact ⟨_, rfl⟩

end Steps

/-! ## 4. Behind any calls -/

/-- Where calls lead, some number of steps of the fresh executor leads too. -/
theorem FromStart.exists_iterate_step {fresh e : Executor} (h : FromStart fresh e) :
    ∃ n, e = Executor.step^[n] fresh := by
  obtain heq | ⟨_, heq⟩ := h.same
  · exact ⟨_, heq⟩
  · exact ⟨e.steps + 1, by rw [Function.iterate_succ_apply', ← heq]⟩

end Executor

/-- The symbols that are found among some values are input symbols. -/
theorem Definition.mem_of_mapM_inputSymbol? {keys : List Json} {symbols : List Char}
    (h : keys.mapM d.inputSymbol? = some symbols) : ∀ c ∈ symbols, c ∈ d.inputSymbols := by
  induction keys generalizing symbols with
  | nil =>
      cases h
      simp
  | cons key keys ih =>
      simp only [List.mapM_cons, bind, pure, Option.bind_eq_some_iff, Option.some_inj] at h
      obtain ⟨symbol, hsymbol, others, hothers, rfl⟩ := h
      have hfirst : symbol ∈ d.inputSymbols := by
        unfold inputSymbol? at hsymbol
        split at hsymbol
        · exact (symbol?_eq_some hsymbol).1
        · cases hsymbol
      exact List.forall_mem_cons.mpr ⟨hfirst, ih hothers⟩

/-- An input consists of input symbols. -/
theorem Definition.mem_of_readInput {given : Json} {input : Input} (h : d.readInput given = .ok input) :
    ∀ c ∈ input.symbols, c ∈ d.inputSymbols := by
  unfold readInput at h
  split at h
  · cases h
  · split at h
    · cases h
    · split at h
      · rename_i hsymbols
        cases h
        exact mem_of_mapM_inputSymbol? hsymbols
      · cases h

namespace Executor

/-- A created executor is the start of its machine on an input of input symbols. -/
theorem exists_start_of_create {given : Json} {limits : Limits} {fresh : Executor}
    (h : create d given limits = .ok fresh) :
    ∃ input, d.readInput given = .ok input ∧ fresh = start d input limits := by
  unfold create at h
  cases hinput : d.readInput given with
  | error _ =>
      rw [hinput] at h
      cases h
  | ok input =>
      rw [hinput] at h
      cases h
      exact ⟨input, rfl, rfl⟩

/-- The executor behind any calls is intact. -/
theorem exists_intact_of_callAll {given : Json} {limits : Limits} {fresh e : Executor} {calls : List Call}
    (hfresh : create d given limits = .ok fresh) (he : fresh.callAll calls = e) :
    ∃ input, e.Intact d input limits := by
  have hreset := (fresh_of_create hfresh).1
  obtain ⟨input, hinput, hstart⟩ := exists_start_of_create hfresh
  obtain ⟨n, hn⟩ := ((fromStart_self hreset).callAll hreset calls).exists_iterate_step
  refine ⟨input, ?_⟩
  rw [← he, hn, hstart]
  exact (intact_start (Definition.mem_of_readInput hinput)).iterate_step running_start n

/-- **The invariants hold behind any sequence of calls**, for every machine that was made, every input that was read
    and all limits. Its state is one that was written down, and so are all symbols that are shown, each of them one
    character; the latest moment is there and shows the executor as it is, and every result has a label. -/
theorem intact_callAll {draft : Draft} {given : Json} {limits : Limits} {fresh e : Executor} {calls : List Call}
    (hd : Definition.create draft = .ok d) (hfresh : create d given limits = .ok fresh)
    (he : fresh.callAll calls = e) :
    ∃ s table input, draft.Reads s ∧ draft.rules.table? = .ok table ∧ d.Holds s table draft.name ∧
      d.readInput given = .ok input ∧ e.Intact d input limits ∧ e.state ∈ s.states ∧
      (∀ c, (c ∈ e.tape.contents ∨ ∃ moment ∈ e.trace, c ∈ moment.cells.get) →
        glyph c ∈ s.alphabet ∧ (glyph c).length = 1) ∧
      e.latest = e.snapshot ∧ ∀ r, e.result = .ok r → ∃ text, r.label = .ok text := by
  obtain ⟨s, table, hreads, _, htable, _, hholds⟩ := Definition.holds_of_create hd
  obtain ⟨input, hinput, rfl⟩ := exists_start_of_create hfresh
  have hstart : FromStart (start d input limits) (start d input limits) :=
    fromStart_iterate_step (n := 0) rfl running_start
  obtain ⟨n, hn⟩ := (hstart.callAll rfl calls).exists_iterate_step
  have hintact : e.Intact d input limits := by
    rw [← he, hn]
    exact (intact_start (Definition.mem_of_readInput hinput)).iterate_step running_start n
  refine ⟨s, table, input, hreads, htable, hholds, hinput, hintact, (hholds.states _).mp hintact.state,
    fun c hc => ⟨?_, String.length_singleton⟩, ?_, fun r => hintact.exists_label⟩
  · have hmem : c ∈ d.alphabet := by
      obtain hc | ⟨moment, hmoment, hc⟩ := hc
      · exact hintact.tape.mem_contents c hc
      · exact (hintact.moments moment hmoment).symbols c hc
    exact (hholds.alphabet c).mp hmem
  · rw [latest, List.headD_eq_head?_getD, hintact.latest, Option.getD_some]

/-- The machine that adds one, as it is written down. -/
def incrementDraft : Draft :=
  { alphabet := .str "01B", inputSymbols := .str "01", blank := .str "B"
    states := .arr [.str "scan", .str "carry", .str "done"], initial := .str "scan", finals := .arr [.str "done"]
    rules := .rules (Definition.incrementRules.rules.map (Rule.mapSymbols glyph)), name := .null }

/-- The machine that adds one, run to its end, taken back over it and beyond the start, and reset. -/
theorem intact_callAll_increment :
    ∃ d fresh, Definition.create incrementDraft = .ok d ∧ create d (.str "11") {} = .ok fresh ∧
      ∃ input, (fresh.callAll [.run, .undo, .step, .reset, .undo, .step, .visualize]).Intact d input {} := by
  have hmade : (Definition.create incrementDraft).isOk = true := by decide +kernel
  cases hd : Definition.create incrementDraft with
  | error _ =>
      rw [hd] at hmade
      cases hmade
  | ok d =>
      obtain ⟨s, _, hreads, _, _, _, hholds⟩ := Definition.holds_of_create hd
      have hone : '1' ∈ d.inputSymbols := by
        have hsymbols : s.inputSymbols = ["0", "1"] := (Except.ok.inj hreads.inputSymbols).symm
        rw [hholds.inputSymbols, hsymbols]
        decide
      have hinput : d.readInput (.str "11") = .ok (.ofText "11") :=
        Definition.readInput_text.mpr ⟨rfl, by simpa using hone⟩
      have hcreate : create d (.str "11") {} = .ok (start d (.ofText "11") {}) := by
        rw [create, hinput]
        rfl
      obtain ⟨_, _, input, _, _, _, _, hintact, _⟩ := intact_callAll hd hcreate rfl
      exact ⟨d, _, rfl, hcreate, input, hintact⟩

end Executor

end TapeMachine
