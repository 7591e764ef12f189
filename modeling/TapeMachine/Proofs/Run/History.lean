import TapeMachine.Proofs.Machine.Increment
import TapeMachine.Proofs.Run.Stepping
/-!
# Calls in any order

An executor can be stepped, undone, run, reset and looked at in any order. Where it then stands depends on one
number only, the count of its steps: nothing is left of the way that led there.

* `Executor.Call`, `Executor.call`, `Executor.callAll` : the calls, with their answers and errors;
* `Executor.FromStart` : **the invariant**: the executor is the fresh one after as many steps as it counts, or the
  one that the next step then ends;
* `Executor.FromStart.callAll` : every sequence of calls keeps it;
* `Executor.history_independent` : **the state, undoing and the result depend on the number of steps only.**
-/

namespace TapeMachine.Executor

/-! ## 1. Calls -/

/-- What can be asked of an executor. -/
inductive Call where
  | step
  | undo
  | run
  | reset
  | result
  | visualize
  deriving DecidableEq, Repr

/-- What a call answers. -/
inductive Answer where
  | outcome (outcome : Option Outcome)
  | done
  | result (r : Result Char)
  | lines (lines : List String)

/-- A call: its answer, or the error that it raises, and the executor behind it. -/
def call (e : Executor) : Call → Except RunError Answer × Executor
  | .step => (.ok (.outcome e.step.outcome), e.step)
  | .undo =>
      match e.undo with
      | .ok before => (.ok .done, before)
      | .error error => (.error error, e)
  | .run => (e.run.result.map Answer.result, e.run)
  | .reset => (.ok .done, e.reset)
  | .result => (e.result.map Answer.result, e)
  | .visualize => (.ok (.lines e.visualize), e)

/-- The executor behind some calls, one after the other. -/
def callAll (e : Executor) (calls : List Call) : Executor :=
  calls.foldl (fun e c => (e.call c).2) e

/-- **A call that raises an error changes nothing**: undoing and asking for a result are the only ones that can,
    since a run is over in the end. -/
theorem call_of_error {e : Executor} {c : Call} {error : RunError} (h : (e.call c).1 = .error error) :
    (e.call c).2 = e := by
  cases c with
  | step => cases h
  | undo =>
      unfold call at h ⊢
      cases hu : e.undo with
      | error _ => rfl
      | ok before => rw [hu] at h; cases h
  | run =>
      obtain ⟨r, hr⟩ := exists_result_of_halted (halted_run e)
      have hok : (e.call .run).1 = .ok (.result r) := by
        show e.run.result.map Answer.result = _
        rw [hr]
        rfl
      rw [hok] at h
      cases h
  | reset => cases h
  | result => rfl
  | visualize => cases h

/-! ## 2. The invariant -/

/-- **What every sequence of calls leaves**: the fresh executor after as many steps as are counted, all of which
    applied a rule, or the one that the next step then ends. -/
structure FromStart (fresh e : Executor) : Prop where
  running : (step^[e.steps] fresh).Running
  same : e = step^[e.steps] fresh ∨ e.halted = true ∧ e = (step^[e.steps] fresh).step

section Invariant

variable {fresh e : Executor}

theorem running_of_reset (hfresh : fresh.reset = fresh) : fresh.Running := by
  rw [← hfresh]
  exact running_start

theorem steps_of_reset (hfresh : fresh.reset = fresh) : fresh.steps = 0 := by
  rw [← hfresh]
  rfl

theorem undo_of_reset (hfresh : fresh.reset = fresh) : fresh.undo = .error .nothingToUndo := by
  rw [← hfresh]
  rfl

/-- The count of an executor that is still running after some steps is their number. -/
theorem steps_iterate_of_reset (hfresh : fresh.reset = fresh) {n : Nat} (hn : (step^[n] fresh).Running) :
    (step^[n] fresh).steps = n := by
  rw [steps_iterate_step (running_of_reset hfresh) hn, steps_of_reset hfresh, Nat.zero_add]

theorem fromStart_iterate_step (hfresh : fresh.reset = fresh) {n : Nat} (hn : (step^[n] fresh).Running) :
    FromStart fresh (step^[n] fresh) := by
  have hsteps := steps_iterate_of_reset hfresh hn
  exact ⟨by rw [hsteps]; exact hn, .inl (by rw [hsteps])⟩

theorem fromStart_self (hfresh : fresh.reset = fresh) : FromStart fresh fresh :=
  fromStart_iterate_step (n := 0) hfresh (running_of_reset hfresh)

theorem FromStart.reset (h : FromStart fresh e) : e.reset = fresh.reset := by
  rcases h.same with heq | ⟨_, heq⟩
  · rw [heq, reset_iterate_step]
  · rw [heq, reset_step, reset_iterate_step]

/-- From wherever the calls have led, a run leads to where a run of the fresh executor leads. -/
theorem FromStart.run_eq (h : FromStart fresh e) : e.run = fresh.run := by
  rcases h.same with heq | ⟨_, heq⟩
  · rw [heq, run_iterate_step]
  · rw [heq, run_step, run_iterate_step]

/-- An end changes nothing that undoing looks at, so undoing looks at the running executor behind it. -/
theorem FromStart.undo_eq (h : FromStart fresh e) : e.undo = (step^[e.steps] fresh).undo := by
  rcases h.same with heq | ⟨hhalted, heq⟩
  · rw [← heq]
  · obtain ⟨rule, happly⟩ | ⟨outcome, reason, hend⟩ := apply_or_ended h.running
    · rw [heq, happly, h.running.apply.halted] at hhalted
      cases hhalted
    · conv => lhs; rw [heq, hend, undo_ended]

/-! ## 3. Every call keeps the invariant -/

theorem FromStart.step (h : FromStart fresh e) : FromStart fresh e.step := by
  rcases h.same with heq | ⟨hhalted, _⟩
  · have hrunning : e.Running := by
      rw [heq]
      exact h.running
    have hsucc : Executor.step^[e.steps + 1] fresh = e.step := by
      rw [Function.iterate_succ_apply', ← heq]
    -- an applied rule counts one more and the executor runs on; an end keeps the count
    obtain ⟨rule, happly⟩ | ⟨outcome, reason, hend⟩ := apply_or_ended hrunning
    · have hsteps : e.step.steps = e.steps + 1 := by
        rw [happly]
        rfl
      refine ⟨?_, .inl ?_⟩
      · rw [hsteps, hsucc, happly]
        exact hrunning.apply
      · rw [hsteps, hsucc]
    · have hsteps : e.step.steps = e.steps := by
        rw [hend]
        rfl
      refine ⟨?_, .inr ⟨?_, ?_⟩⟩
      · rw [hsteps]
        exact h.running
      · rw [hend]
        rfl
      · rw [hsteps, ← heq]
  · rw [step_of_halted hhalted]
    exact h

theorem FromStart.iterate_step (h : FromStart fresh e) (n : Nat) : FromStart fresh (Executor.step^[n] e) := by
  induction n with
  | zero => exact h
  | succ n ih =>
      rw [Function.iterate_succ_apply']
      exact ih.step

theorem FromStart.run (h : FromStart fresh e) : FromStart fresh e.run := by
  obtain ⟨n, hn⟩ := exists_iterate_step_eq_run e
  rw [hn]
  exact h.iterate_step n

theorem FromStart.undo (hfresh : fresh.reset = fresh) (h : FromStart fresh e) {before : Executor}
    (hu : e.undo = .ok before) : FromStart fresh before := by
  rw [h.undo_eq] at hu
  have hrunning := h.running
  cases hk : e.steps with
  | zero =>
      rw [hk] at hu
      rw [Function.iterate_zero, id, undo_of_reset hfresh] at hu
      cases hu
  | succ k =>
      rw [hk] at hu hrunning
      have hk := (exists_apply_of_running_succ (running_of_reset hfresh) hrunning).1
      rw [undo_iterate_step_succ (running_of_reset hfresh) hrunning] at hu
      cases hu
      exact fromStart_iterate_step hfresh hk

theorem FromStart.call (hfresh : fresh.reset = fresh) (h : FromStart fresh e) (c : Call) :
    FromStart fresh (e.call c).2 := by
  cases c with
  | step => exact h.step
  | undo =>
      unfold Executor.call
      cases hu : e.undo with
      | ok before => exact h.undo hfresh hu
      | error _ => exact h
  | run => exact h.run
  | reset =>
      show FromStart fresh e.reset
      rw [h.reset, hfresh]
      exact fromStart_self hfresh
  | result => exact h
  | visualize => exact h

/-- **Every sequence of calls keeps the invariant.** -/
theorem FromStart.callAll (hfresh : fresh.reset = fresh) (h : FromStart fresh e) (calls : List Call) :
    FromStart fresh (e.callAll calls) := by
  induction calls generalizing e with
  | nil => exact h
  | cons c calls ih => exact ih (h.call hfresh c)

end Invariant

/-! ## 4. What a sequence of calls leaves -/

/-- A created executor is fresh, and the machine's result is that of its run. -/
theorem fresh_of_create {d : Definition} {given : Json} {limits : Limits} {fresh : Executor}
    (h : create d given limits = .ok fresh) :
    fresh.reset = fresh ∧ ∀ r, fresh.run.result = .ok r → d.run given limits = .ok r := by
  refine ⟨?_, fun r hr => ?_⟩
  · unfold create at h
    cases hinput : d.readInput given with
    | error _ => rw [hinput] at h; cases h
    | ok input =>
        rw [hinput] at h
        cases h
        rfl
  · unfold Definition.run
    rw [h]
    show (Except.mapError _ _ : Except Error _) = _
    rw [hr]
    rfl

/-- **A step that applied a rule is taken back exactly.** -/
theorem FromStart.undo_step {fresh e : Executor} (h : FromStart fresh e) (hsteps : e.step.steps = e.steps + 1) :
    e.step.undo = .ok e := by
  rcases h.same with heq | ⟨hhalted, _⟩
  · have hrunning : e.Running := by
      rw [heq]
      exact h.running
    obtain ⟨rule, happly⟩ | ⟨outcome, reason, hend⟩ := apply_or_ended hrunning
    · rw [happly, undo_apply hrunning]
    · have hsame : e.step.steps = e.steps := by
        rw [hend]
        rfl
      omega
  · rw [step_of_halted hhalted] at hsteps
    omega

/-- **Executors are independent of their history.** Behind any calls stands the fresh executor after exactly
    as many applied rules as are counted, or, when the run is over, that one after the step that ends it. Calls
    that raise an error change nothing, undoing takes back a step that applied a rule, and the run always ends
    in the result of the machine. -/
theorem history_independent {d : Definition} {given : Json} {limits : Limits} {fresh : Executor}
    (h : create d given limits = .ok fresh) {calls : List Call} {e : Executor} (he : fresh.callAll calls = e) :
    ((step^[e.steps] fresh).halted = false ∧ (step^[e.steps] fresh).steps = e.steps) ∧
    (e.halted = false → e = step^[e.steps] fresh) ∧
    (e.halted = true → e = (step^[e.steps] fresh).step) ∧
    (∀ c error, (e.call c).1 = .error error → (e.call c).2 = e) ∧
    (e.step.steps = e.steps + 1 → e.step.undo = .ok e) ∧
    ∃ r, d.run given limits = .ok r ∧ e.run.result = .ok r ∧ (e.halted = true → e.result = .ok r) := by
  obtain ⟨hfresh, hrun⟩ := fresh_of_create h
  have hstart : FromStart fresh fresh := fromStart_iterate_step (n := 0) hfresh (running_of_reset hfresh)
  have hinv : FromStart fresh e := by
    rw [← he]
    exact hstart.callAll hfresh calls
  refine ⟨⟨hinv.running.halted, steps_iterate_of_reset hfresh hinv.running⟩, fun hgoing => ?_, fun hover => ?_,
    fun c error => call_of_error, hinv.undo_step, ?_⟩
  · rcases hinv.same with heq | ⟨hhalted, _⟩
    · exact heq
    · rw [hgoing] at hhalted
      cases hhalted
  · rcases hinv.same with heq | ⟨_, heq⟩
    · rw [heq, hinv.running.halted] at hover
      cases hover
    · exact heq
  · obtain ⟨r, hr⟩ := exists_result_of_halted (halted_run fresh)
    refine ⟨r, hrun r hr, by rw [hinv.run_eq, hr], fun hover => ?_⟩
    rw [← run_of_halted hover, hinv.run_eq, hr]

/-- The machine that adds one, undone from its end and over an end, and run again. -/
theorem history_independent_increment :
    ∃ fresh, create Definition.increment (.str "11") { leftBounded := true } = .ok fresh ∧
      ∃ r, Definition.increment.run (.str "11") { leftBounded := true } = .ok r ∧
        (fresh.callAll [.undo, .step, .result, .run, .undo, .undo, .step, .visualize]).run.result = .ok r := by
  have hinput : Definition.increment.readInput (.str "11") = .ok (.ofText "11") :=
    Definition.readInput_increment.2 (by simp)
  have hcreate : create Definition.increment (.str "11") { leftBounded := true } =
      .ok (start Definition.increment (.ofText "11") { leftBounded := true }) := by
    unfold create
    rw [hinput]
    rfl
  obtain ⟨_, _, _, _, _, r, hr, hlast, _⟩ := history_independent hcreate rfl
  exact ⟨_, hcreate, r, hr, hlast⟩

end TapeMachine.Executor
