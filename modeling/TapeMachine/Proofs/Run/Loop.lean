import TapeMachine.Proofs.Run.Invariant
/-!
# Runs end within their limits

The loop of a run steps as long as the run is not over, and looks at nothing else. It ends because each step either
counts one more, which the limit allows only so often, or is the last one. This holds from wherever calls have led, even
when undoing has lowered the count and taken back an end.

* `Executor.step_counts` : **what a step does to the count**;
* `Executor.LoopsTo`, `Executor.exists_loopsTo_run` : the loop with the number of its steps, and that a run is one;
* `Executor.LoopsTo.steps_eq` : **all steps of a loop but the last one are counted**;
* `Executor.LoopsTo.count_of_complete` : **a machine that has a rule for everything uses the limit up**, and its loop makes
  one step more;
* `Executor.run_within_limits` : **behind any calls a run ends within the limit**, and has a result.
-/

namespace TapeMachine

/-- Whether a machine has a rule for each of its states and symbols. -/
def Definition.Complete (d : Definition) : Prop :=
  ∀ q ∈ d.states, ∀ a ∈ d.alphabet, (d.rules.lookup q a).isSome = true

namespace Executor

variable {d : Definition} {given : Json} {input : Input} {limits : Limits} {fresh e last : Executor} {n : Nat}

/-! ## 1. One step -/

/-- **What a step does to the count.** It counts one more and the run goes on, or it ends the run and counts nothing. -/
theorem step_counts (h : e.Running) :
    e.step.Running ∧ e.step.steps = e.steps + 1 ∨ e.step.halted = true ∧ e.step.steps = e.steps := by
  obtain ⟨rule, happly⟩ | ⟨outcome, reason, hend⟩ := apply_or_ended h
  · rw [happly]
    exact .inl ⟨h.apply, rfl⟩
  · rw [hend]
    exact .inr ⟨rfl, rfl⟩

/-! ## 2. The loop -/

/-- **The loop of a run**, with the number of its steps: it steps as long as the run is not over. -/
inductive LoopsTo : Executor → Nat → Executor → Prop where
  | done {e : Executor} (h : e.halted = true) : LoopsTo e 0 e
  | step {e last : Executor} {n : Nat} (h : e.halted = false) (rest : LoopsTo e.step n last) : LoopsTo e (n + 1) last

/-- A run is a loop. -/
theorem exists_loopsTo_run (e : Executor) : ∃ n, e.LoopsTo n e.run := by
  fun_induction run e with
  | case1 e h => exact ⟨0, .done h⟩
  | case2 e h ih =>
      obtain ⟨n, hn⟩ := ih
      exact ⟨n + 1, .step (eq_false_of_ne_true h) hn⟩

/-- A loop is over at once where the run is. -/
theorem LoopsTo.eq_of_halted (h : e.LoopsTo n last) (hover : e.halted = true) : n = 0 ∧ last = e := by
  cases h with
  | done => exact ⟨rfl, rfl⟩
  | step hgo =>
      rw [hover] at hgo
      cases hgo

/-- **All steps of a loop but the last one are counted.** -/
theorem LoopsTo.steps_eq (h : e.LoopsTo n last) (hrunning : e.Running) : last.steps + 1 = e.steps + n := by
  induction h with
  | done hover =>
      rw [hrunning.halted] at hover
      cases hover
  | step _ rest ih =>
      obtain ⟨hnext, hsteps⟩ | ⟨hover, hsteps⟩ := step_counts hrunning
      · have hrest := ih hnext
        omega
      · obtain ⟨rfl, rfl⟩ := rest.eq_of_halted hover
        omega

/-! ## 3. Machines that never stop by themselves -/

/-- An intact executor of a complete machine has a rule to apply. -/
theorem Intact.exists_rule (h : e.Intact d input limits) (hd : d.Complete) : ∃ rule, e.rule? = some rule := by
  rw [rule?, h.definition]
  exact Option.isSome_iff_exists.mp (hd _ h.state _ (h.tape.symbols _))

/-- A machine that has a rule for everything uses the limit up on a tape without a left end. -/
theorem LoopsTo.steps_of_complete (h : e.LoopsTo n last) (hintact : e.Intact d input limits) (hd : d.Complete)
    (hleft : limits.leftBounded = false) (hgo : e.halted = false) : last.steps = limits.maxSteps := by
  induction h with
  | done hover =>
      rw [hgo] at hover
      cases hover
  | @step e last n _ rest ih =>
      have hrunning := hintact.running hgo
      have hnext := hintact.step hrunning
      have hto := stepTo_step hrunning
      generalize e.step = e' at hto rest hnext ih
      cases hto with
      | stuck hrule =>
          obtain ⟨rule, hsome⟩ := hintact.exists_rule hd
          rw [hrule] at hsome
          cases hsome
      | limited rule _ hlimit =>
          obtain ⟨_, rfl⟩ := rest.eq_of_halted rfl
          rw [hintact.limits_eq] at hlimit
          exact Nat.le_antisymm hintact.steps_le hlimit
      | blocked rule _ _ hblocked =>
          have hbounded := hblocked.1
          rw [hintact.limits_eq, hleft] at hbounded
          cases hbounded
      | applied => exact ih hnext hrunning.apply.halted

/-- **The loop of a machine that has a rule for everything makes all steps that the limit allows, and one more.** -/
theorem LoopsTo.count_of_complete (h : e.LoopsTo n last) (hintact : e.Intact d input limits) (hd : d.Complete)
    (hleft : limits.leftBounded = false) (hgo : e.halted = false) : n = limits.maxSteps - e.steps + 1 := by
  have hlast := h.steps_of_complete hintact hd hleft hgo
  have hcount := h.steps_eq (hintact.running hgo)
  have hlimit := hintact.steps_le
  omega

/-! ## 4. Behind any calls -/

/-- **Behind any calls a run ends within the limit.** The count has not passed the limit; the loop makes at most one step
more than the limit still allows, and leaves an executor that is halted, has not passed the limit and has a result. A
step that does not find the executor halted either counts one more and lets the run go on, or ends it and counts
nothing. -/
theorem run_within_limits {calls : List Call} (hfresh : create d given limits = .ok fresh)
    (he : fresh.callAll calls = e) :
    e.steps ≤ limits.maxSteps ∧
    (∃ n r, e.LoopsTo n e.run ∧ n ≤ limits.maxSteps - e.steps + 1 ∧ e.run.halted = true ∧
      e.run.steps ≤ limits.maxSteps ∧ e.run.result = .ok r ∧ e.call .run = (.ok (.result r), e.run)) ∧
    (e.halted = false → e.step.halted = false ∧ e.step.steps = e.steps + 1 ∨
      e.step.halted = true ∧ e.step.steps = e.steps) := by
  obtain ⟨_, hintact⟩ := exists_intact_of_callAll hfresh he
  -- the executor behind the run is behind calls too, so its count has not passed the limit either
  have hcalls : fresh.callAll (calls ++ [.run]) = e.run := by
    rw [callAll, List.foldl_append]
    exact congrArg run he
  obtain ⟨_, hlast⟩ := exists_intact_of_callAll hfresh hcalls
  obtain ⟨n, hloop⟩ := exists_loopsTo_run e
  obtain ⟨r, hr⟩ := exists_result_of_halted (halted_run e)
  have hlimit := hintact.steps_le
  have hlimit' := hlast.steps_le
  refine ⟨hlimit, ⟨n, r, hloop, ?_, halted_run e, hlimit', hr, ?_⟩, fun hgo => ?_⟩
  · cases hover : e.halted with
    | true =>
        obtain ⟨rfl, _⟩ := hloop.eq_of_halted hover
        exact Nat.zero_le _
    | false =>
        have hcount := hloop.steps_eq (hintact.running hover)
        omega
  · rw [call, hr]
    rfl
  · exact (step_counts (hintact.running hgo)).imp_left fun h => ⟨h.1.halted, h.2⟩

end Executor

namespace Definition

/-- A machine that goes to the right for ever. -/
def restless : Definition where
  alphabet := .ofList ['0', 'B']
  inputSymbols := .ofList ['0']
  blank := 'B'
  states := .ofList ["go"]
  initial := "go"
  finals := .ofList ["go"]
  rules := ⟨[{ state := "go", read := '0', write := 'B', move := .right, next := "go" },
    { state := "go", read := 'B', write := '0', move := .right, next := "go" }], by decide⟩
  name := .null
  blank_mem := by decide
  input_subset := by simp
  blank_not_input := by decide
  initial_mem := by decide
  finals_subset := fun _ h => h
  rule_states := by decide
  rule_symbols := by decide

theorem complete_restless : restless.Complete := by
  intro q hq a ha
  obtain rfl : "go" = q := by simpa [restless] using hq
  obtain rfl | rfl : a = '0' ∨ a = 'B' := by simpa [restless] using ha
  · rfl
  · rfl

end Definition

namespace Executor

/-- A machine that never stops by itself, run to the limit, taken back by two steps and stepped once: the loop makes the
step that is left and the one that ends the run. -/
theorem run_within_limits_restless :
    ∃ fresh e, create Definition.restless (.str "0") { maxSteps := 7 } = .ok fresh ∧
      fresh.callAll [.run, .undo, .undo, .step] = e ∧ e.steps = 6 ∧ e.halted = false ∧
      (∃ n r, e.LoopsTo n e.run ∧ n = 2 ∧ n ≤ 7 - e.steps + 1 ∧ e.run.halted = true ∧ e.run.steps ≤ 7 ∧
        e.run.result = .ok r) ∧
      (e.step.halted = false ∧ e.step.steps = e.steps + 1 ∨ e.step.halted = true ∧ e.step.steps = e.steps) := by
  have hzero : '0' ∈ Definition.restless.inputSymbols := by decide
  have hinput : Definition.restless.readInput (.str "0") = .ok (.ofText "0") :=
    Definition.readInput_text.mpr ⟨rfl, by simpa using hzero⟩
  have hcreate : create Definition.restless (.str "0") { maxSteps := 7 } =
      .ok (start Definition.restless (.ofText "0") { maxSteps := 7 }) := by
    rw [create, hinput]
    rfl
  obtain ⟨e, he⟩ : ∃ e, (start Definition.restless (.ofText "0") { maxSteps := 7 }).callAll
      [.run, .undo, .undo, .step] = e := ⟨_, rfl⟩
  have hsteps : e.steps = 6 := he ▸ by decide +kernel
  have hgo : e.halted = false := he ▸ by decide +kernel
  obtain ⟨_, ⟨n, r, hloop, hn, hover, hlimit, hr, _⟩, hstep⟩ := run_within_limits hcreate he
  obtain ⟨_, hintact⟩ := exists_intact_of_callAll hcreate he
  have hcount : n = 7 - e.steps + 1 := hloop.count_of_complete hintact Definition.complete_restless rfl hgo
  exact ⟨_, e, hcreate, he, hsteps, hgo, ⟨n, r, hloop, by rw [hcount, hsteps], hn, hover, hlimit, hr⟩, hstep hgo⟩

end Executor

end TapeMachine
