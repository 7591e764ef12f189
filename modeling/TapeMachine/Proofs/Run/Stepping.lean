import TapeMachine.Proofs.Tape.Operations
import TapeMachine.Run.Executor
import Mathlib.Logic.Function.Iterate
/-!
# Steps and runs

What one step can do, said once, and what follows for a number of steps and for a run to the end.

* `Executor.StepTo`, `Executor.stepTo_step` : **the four things that a step can do to an executor that is not
  halted**: the run ends for want of a rule, at the step limit or at the left end, or the rule is applied;
* `Executor.undo_apply`, `Executor.undo_ended` : **undoing takes back the last applied rule**, and the end behind it
  if there was one;
* `Executor.run_iterate_step`, `Executor.halted_run` : a run goes on from any number of steps, and it is over in
  the end;
* `Executor.steps_iterate_step` : as long as the run goes on, each step has applied one rule.
-/

namespace TapeMachine.Executor

/-! ## 1. One step -/

/-- Whether a rule would lead over the left end of a bounded tape. -/
def Blocked (e : Executor) (rule : Rule Char) : Prop :=
  e.limits.leftBounded = true ∧ e.tape.head = 0 ∧ rule.move = .left

/-- The executor with its run ended, and the reason if it was stopped. -/
def ended (e : Executor) (outcome : Outcome) (reason : Option HaltReason) : Executor :=
  { e with outcome := some outcome, reason := reason }

/-- **What a step can do.** A run that lacks a rule ends by its state; the limit is looked at before the left
end; else the rule is applied. -/
inductive StepTo (e : Executor) : Executor → Prop where
  | stuck (hrule : e.rule? = none) :
      StepTo e (e.ended (if e.definition.isFinal e.state then .accepted else .rejected) none)
  | limited (rule : Rule Char) (hrule : e.rule? = some rule) (hlimit : e.limits.maxSteps ≤ e.steps) :
      StepTo e (e.ended .halted (some .stepLimit))
  | blocked (rule : Rule Char) (hrule : e.rule? = some rule) (hlimit : e.steps < e.limits.maxSteps)
      (hblocked : e.Blocked rule) : StepTo e (e.ended .halted (some .leftBoundary))
  | applied (rule : Rule Char) (hrule : e.rule? = some rule) (hlimit : e.steps < e.limits.maxSteps)
      (hfree : ¬ e.Blocked rule) : StepTo e (e.apply rule)

/-- An executor whose run is not over, and that has no reason for an end. -/
structure Running (e : Executor) : Prop where
  outcome : e.outcome = none
  reason : e.reason = none

section Step

variable {e : Executor} {rule : Rule Char}

theorem Running.halted (h : e.Running) : e.halted = false := by
  simp [Executor.halted, h.outcome]

theorem running_start {d : Definition} {input : Input} {limits : Limits} : (start d input limits).Running :=
  ⟨rfl, rfl⟩

theorem Running.apply (h : e.Running) : (e.apply rule).Running :=
  ⟨h.outcome, h.reason⟩

theorem step_of_halted (h : e.halted = true) : e.step = e := by
  rw [step, if_pos h]

/-- **A step does one of the four things.** -/
theorem stepTo_step (h : e.Running) : StepTo e e.step := by
  unfold step
  rw [if_neg (by simp [h.halted])]
  split
  · rename_i hrule
    have hstuck := StepTo.stuck hrule
    rwa [ended, ← h.reason] at hstuck
  · rename_i rule hrule
    split
    · rename_i hlimit
      exact .limited rule hrule hlimit
    · rename_i hlimit
      have hlt : e.steps < e.limits.maxSteps := Nat.lt_of_not_le hlimit
      split
      · rename_i hblocked
        exact .blocked rule hrule hlt hblocked
      · rename_i hfree
        exact .applied rule hrule hlt hfree

/-- A step that does not end the run has applied a rule. -/
theorem apply_or_ended (h : e.Running) :
    (∃ rule, e.step = e.apply rule) ∨ ∃ outcome reason, e.step = e.ended outcome reason := by
  have hs := stepTo_step h
  generalize e.step = e' at hs ⊢
  cases hs with
  | stuck => exact .inr ⟨_, _, rfl⟩
  | limited => exact .inr ⟨_, _, rfl⟩
  | blocked => exact .inr ⟨_, _, rfl⟩
  | applied rule => exact .inl ⟨rule, rfl⟩

/-- What stays the same in a run. -/
theorem step_fixed : e.step.definition = e.definition ∧ e.step.input = e.input ∧ e.step.limits = e.limits := by
  unfold step
  split
  · exact ⟨rfl, rfl, rfl⟩
  · split
    · exact ⟨rfl, rfl, rfl⟩
    · split
      · exact ⟨rfl, rfl, rfl⟩
      · split <;> exact ⟨rfl, rfl, rfl⟩

theorem reset_step : e.step.reset = e.reset := by
  obtain ⟨hd, hi, hl⟩ := step_fixed (e := e)
  rw [reset, reset, hd, hi, hl]

/-! ## 2. Taking back a rule -/

/-- **Undoing takes back the last applied rule**: the tape by rewinding, the rest from the entry on the stack. -/
theorem undo_apply (h : e.Running) : (e.apply rule).undo = .ok e := by
  have hback : { e with outcome := none, reason := none } = e := by
    rw [← h.outcome, ← h.reason]
  rw [← hback]
  simp only [undo, apply, Tape.rewind_move_write, List.tail_cons, Nat.add_sub_cancel]

/-- An end changes nothing that undoing looks at. -/
theorem undo_ended {outcome : Outcome} {reason : Option HaltReason} :
    (e.ended outcome reason).undo = e.undo := by
  unfold undo ended
  cases e.undos <;> rfl

end Step

/-! ## 3. Many steps -/

section Steps

variable {e : Executor} {n : Nat}

/-- A run goes on from the next step. -/
theorem run_step : e.step.run = e.run := by
  cases h : e.halted with
  | true => rw [step_of_halted h]
  | false =>
      conv => rhs; rw [run]
      rw [if_neg (by simp [h])]

/-- **A run goes on from any number of steps.** -/
theorem run_iterate_step : (step^[n] e).run = e.run := by
  induction n generalizing e with
  | zero => rfl
  | succ n ih => rw [Function.iterate_succ_apply, ih, run_step]

/-- **A run is a number of steps.** -/
theorem exists_iterate_step_eq_run (e : Executor) : ∃ n, e.run = step^[n] e := by
  fun_induction run e with
  | case1 e h => exact ⟨0, rfl⟩
  | case2 e h ih =>
      obtain ⟨n, hn⟩ := ih
      exact ⟨n + 1, by rw [hn, Function.iterate_succ_apply]⟩

/-- **A run is over in the end.** -/
theorem halted_run (e : Executor) : e.run.halted = true := by
  fun_induction run e with
  | case1 e h => exact h
  | case2 e h ih => exact ih

theorem run_of_halted (h : e.halted = true) : e.run = e := by
  rw [run, if_pos h]

/-- A run that is over has a result. -/
theorem exists_result_of_halted (h : e.halted = true) : ∃ r, e.result = .ok r := by
  cases ho : e.outcome with
  | none => simp [halted, ho] at h
  | some outcome => exact ⟨_, by rw [result, ho]⟩

/-- A run that is not over has none. -/
theorem result_of_not_halted (h : e.halted = false) : e.result = .error .stillRunning := by
  have houtcome : e.outcome = none := by simpa [halted] using h
  rw [result, houtcome]

theorem reset_iterate_step : (step^[n] e).reset = e.reset := by
  induction n generalizing e with
  | zero => rfl
  | succ n ih => rw [Function.iterate_succ_apply, ih, reset_step]

/-- After any number of steps the run goes on or is over; it never stands with a reason and no end. -/
theorem running_or_halted_iterate_step (h : e.Running) (n : Nat) :
    (step^[n] e).Running ∨ (step^[n] e).halted = true := by
  induction n with
  | zero => exact .inl h
  | succ n ih =>
      rw [Function.iterate_succ_apply']
      rcases ih with hrunning | hhalted
      · obtain ⟨rule, happly⟩ | ⟨outcome, reason, hend⟩ := apply_or_ended hrunning
        · rw [happly]
          exact .inl hrunning.apply
        · rw [hend]
          exact .inr rfl
      · rw [step_of_halted hhalted]
        exact .inr hhalted

/-- **A run that still goes on went on one step before, and that step has applied a rule.** -/
theorem exists_apply_of_running_succ (h : e.Running) (hn : (step^[n + 1] e).Running) :
    (step^[n] e).Running ∧ ∃ rule, step^[n + 1] e = (step^[n] e).apply rule := by
  rw [Function.iterate_succ_apply'] at hn ⊢
  rcases running_or_halted_iterate_step h n with hrunning | hhalted
  · refine ⟨hrunning, ?_⟩
    obtain happly | ⟨outcome, reason, hend⟩ := apply_or_ended hrunning
    · exact happly
    · have hnone := hn.outcome
      rw [hend] at hnone
      cases hnone
  · rw [step_of_halted hhalted] at hn
    rw [hn.halted] at hhalted
    cases hhalted

/-- **As long as a run goes on, each step has applied one rule.** -/
theorem steps_iterate_step (h : e.Running) (hn : (step^[n] e).Running) : (step^[n] e).steps = e.steps + n := by
  induction n with
  | zero => rfl
  | succ n ih =>
      obtain ⟨hrunning, rule, happly⟩ := exists_apply_of_running_succ h hn
      rw [happly]
      show (step^[n] e).steps + 1 = e.steps + (n + 1)
      rw [ih hrunning, Nat.add_assoc]

/-- Undoing goes back to one step before. -/
theorem undo_iterate_step_succ (h : e.Running) (hn : (step^[n + 1] e).Running) :
    (step^[n + 1] e).undo = .ok (step^[n] e) := by
  obtain ⟨hrunning, rule, happly⟩ := exists_apply_of_running_succ h hn
  rw [happly, undo_apply hrunning]

end Steps

end TapeMachine.Executor
