import TapeMachine.Proofs.Machine.Increment
import TapeMachine.Proofs.Run.Course
import TapeMachine.Proofs.Run.Stepping
/-!
# Runs follow the course

An executor keeps a sparse tape, the ends of a window and a stack of entries; the course of its machine keeps a
function on all positions. Step by step the one shows what the other is, until the run stops where the course
says.

* `Executor.Shows` : **the simulation**: an executor stands where the course stands after a number of rules;
* `Executor.Shows.apply`, `Executor.Shows.step` : one step keeps it, as long as the run does not stop;
* `Executor.shows_iterate_step` : and so does a whole run up to its first stop;
* `Executor.Shows.ended` : at the stop the run ends as the course says;
* `Definition.run_eq_resultAt` : **the result of a run is the one that the course gives at the first stop**;
* `Definition.run_refines_course` : the same, part by part.
-/

namespace TapeMachine

namespace Executor

/-! ## 1. The simulation -/

/-- **An executor stands where the course of its machine stands after `n` rules.** -/
structure Shows (d : Definition) (input : Input) (limits : Limits) (n : Nat) (e : Executor) : Prop where
  definition_eq : e.definition = d
  input_eq : e.input = input
  limits_eq : e.limits = limits
  running : e.Running
  steps : e.steps = n
  state : e.state = (d.course input.symbols n).state
  head : e.tape.head = (d.course input.symbols n).head
  get : ∀ i, e.tape.get i = (d.course input.symbols n).tape i
  low : e.tape.low = d.leftmost input.symbols n
  high : e.tape.high = d.rightmost input.symbols n
  trace : e.trace.reverse = (List.range (n + 1)).map (d.shown input.symbols)

section Simulation

variable {d : Definition} {input : Input} {limits : Limits} {n : Nat} {e : Executor} {rule : Rule Char}

theorem Shows.contents (h : Shows d input limits n e) : e.tape.contents = d.window input.symbols n :=
  Tape.contents_eq h.low h.high h.get

/-- The executor and the course look up the same rule. -/
theorem Shows.rule? (h : Shows d input limits n e) : e.rule? = (d.course input.symbols n).rule? d := by
  rw [Executor.rule?, Tape.read, h.definition_eq, h.state, h.get, h.head]
  rfl

/-- A tape that looks like the course gives the snapshot that is shown of it. -/
theorem snapshotOf_eq_shown {tape : Tape Char} {state : String}
    (hstate : state = (d.course input.symbols n).state) (hhead : tape.head = (d.course input.symbols n).head)
    (hget : ∀ i, tape.get i = (d.course input.symbols n).tape i) (hlow : tape.low = d.leftmost input.symbols n)
    (hhigh : tape.high = d.rightmost input.symbols n) :
    snapshotOf tape state n = d.shown input.symbols n := by
  have hcells : tape.contents = d.window input.symbols n := Tape.contents_eq hlow hhigh hget
  rw [snapshotOf, hcells, hstate, hhead, hlow]
  rfl

theorem shows_start : Shows d input limits 0 (start d input limits) := by
  have hget : ∀ i, (Tape.ofInput input.symbols d.blank).get i = (d.course input.symbols 0).tape i := fun _ =>
    Tape.get_ofInput
  have hlow : (Tape.ofInput input.symbols d.blank).low = d.leftmost input.symbols 0 := by
    rw [Definition.leftmost_zero]
    exact Tape.low_ofInput
  have hhigh : (Tape.ofInput input.symbols d.blank).high = d.rightmost input.symbols 0 := by
    rw [Definition.rightmost_zero]
    exact Tape.high_ofInput
  have hhead : (Tape.ofInput input.symbols d.blank).head = (d.course input.symbols 0).head := Tape.head_ofInput
  refine ⟨rfl, rfl, rfl, running_start, rfl, rfl, hhead, hget, hlow, hhigh, ?_⟩
  exact congrArg ([·]) (snapshotOf_eq_shown rfl hhead hget hlow hhigh)

/-- **Applying a rule leads one step on in the course**: a write changes one value of the function, a move
    widens the window to the head, and the new snapshot is the next one shown. -/
theorem Shows.apply (h : Shows d input limits n e) (hrule : e.rule? = some rule) :
    Shows d input limits (n + 1) (e.apply rule) := by
  have hnext : d.course input.symbols (n + 1) = (d.course input.symbols n).apply rule :=
    Definition.course_succ_of_rule (h.rule?.symm.trans hrule)
  have hhead : (e.apply rule).tape.head = (d.course input.symbols (n + 1)).head := by
    show (e.tape.write rule.write).head + rule.move.offset = _
    rw [Tape.head_write, hnext, h.head]
    rfl
  have hget : ∀ i, (e.apply rule).tape.get i = (d.course input.symbols (n + 1)).tape i := fun i => by
    show (e.tape.write rule.write).get i = _
    rw [Tape.get_write, hnext, Config.tape_apply, h.head, h.get]
  have hlow : (e.apply rule).tape.low = d.leftmost input.symbols (n + 1) := by
    rw [Definition.leftmost_succ, ← hhead, ← h.low]
    exact congrArg (min · _) Tape.low_write
  have hhigh : (e.apply rule).tape.high = d.rightmost input.symbols (n + 1) := by
    rw [Definition.rightmost_succ, ← hhead, ← h.high]
    exact congrArg (max · _) Tape.high_write
  have hstate : rule.next = (d.course input.symbols (n + 1)).state := by
    rw [hnext]
    rfl
  refine ⟨h.definition_eq, h.input_eq, h.limits_eq, h.running.apply, congrArg (· + 1) h.steps, hstate, hhead,
    hget, hlow, hhigh, ?_⟩
  show (snapshotOf (e.apply rule).tape rule.next (e.steps + 1) :: e.trace).reverse = _
  rw [h.steps, snapshotOf_eq_shown hstate hhead hget hlow hhigh, List.reverse_cons, h.trace,
    List.range_succ (n := n + 1), List.map_append]
  rfl

/-- The left end is in the way of the executor when it is in the way of the course. -/
theorem Shows.blocked_iff (h : Shows d input limits n e) (hrule : e.rule? = some rule) :
    e.Blocked rule ↔ d.Crosses input.symbols limits n := by
  have hcourse : (d.course input.symbols n).rule? d = some rule := h.rule?.symm.trans hrule
  unfold Blocked Definition.Crosses
  rw [h.limits_eq, h.head, hcourse]
  constructor
  · rintro ⟨hbounded, hhead, hleft⟩
    exact ⟨hbounded, hhead, rule, rfl, hleft⟩
  · rintro ⟨hbounded, hhead, other, hother, hleft⟩
    cases hother
    exact ⟨hbounded, hhead, hleft⟩

/-! ## 2. Steps and stops -/

/-- **A step where the run does not stop leads one step on in the course.** The executor looks whether its steps
    have reached the limit, the course whether they are equal to it; below the limit that is the same. -/
theorem Shows.step (h : Shows d input limits n e) (hgo : ¬ d.Stops input.symbols limits n)
    (hle : n ≤ limits.maxSteps) : Shows d input limits (n + 1) e.step := by
  have hs := stepTo_step h.running
  generalize e.step = e' at hs ⊢
  cases hs with
  | stuck hrule => exact absurd (.inl (h.rule?.symm.trans hrule)) hgo
  | limited rule hrule hlimit =>
      rw [h.limits_eq, h.steps] at hlimit
      exact absurd (.inr (.inl (Nat.le_antisymm hle hlimit))) hgo
  | blocked rule hrule hlimit hblocked => exact absurd (.inr (.inr ((h.blocked_iff hrule).mp hblocked))) hgo
  | applied rule hrule => exact h.apply hrule

/-- **A step where the run stops ends it, by the verdict of the course.** -/
theorem Shows.ended (h : Shows d input limits n e) (hstop : d.Stops input.symbols limits n)
    (hle : n ≤ limits.maxSteps) :
    e.step = e.ended (d.verdict input.symbols limits n).1 (d.verdict input.symbols limits n).2 := by
  have hs := stepTo_step h.running
  generalize e.step = e' at hs ⊢
  cases hs with
  | stuck hrule =>
      rw [h.rule?] at hrule
      rw [Definition.verdict, hrule, h.definition_eq, h.state]
  | limited rule hrule hlimit =>
      rw [h.rule?] at hrule
      rw [h.limits_eq, h.steps] at hlimit
      rw [Definition.verdict, hrule, if_pos (Nat.le_antisymm hle hlimit)]
  | blocked rule hrule hlimit =>
      rw [h.rule?] at hrule
      rw [h.limits_eq, h.steps] at hlimit
      rw [Definition.verdict, hrule, if_neg (Nat.ne_of_lt hlimit)]
  | applied rule hrule hlimit hfree =>
      rw [h.limits_eq, h.steps] at hlimit
      rcases hstop with hstuck | hspent | hcrosses
      · rw [← h.rule?, hrule] at hstuck
        cases hstuck
      · exact absurd hspent (Nat.ne_of_lt hlimit)
      · exact absurd ((h.blocked_iff hrule).mpr hcrosses) hfree

/-- **Up to the first stop each step follows the course.** -/
theorem shows_iterate_step {k : Nat} (hk : IsLeast {n | d.Stops input.symbols limits n} k) (hn : n ≤ k) :
    Shows d input limits n (Executor.step^[n] (start d input limits)) := by
  have hle : k ≤ limits.maxSteps := hk.2 (.inr (.inl rfl))
  induction n with
  | zero => exact shows_start
  | succ n ih =>
      rw [Function.iterate_succ_apply']
      exact (ih (Nat.le_of_succ_le hn)).step (Definition.not_stops_of_lt hk hn) (by omega)

/-- **A whole run shows the course at its first stop, and ends there by its verdict.** -/
theorem run_start {k : Nat} (hk : IsLeast {n | d.Stops input.symbols limits n} k) :
    ∃ e, Shows d input limits k e ∧ (start d input limits).run =
      e.ended (d.verdict input.symbols limits k).1 (d.verdict input.symbols limits k).2 := by
  have hshows := shows_iterate_step hk (Nat.le_refl k)
  have hend := hshows.ended hk.1 (hk.2 (.inr (.inl rfl)))
  refine ⟨_, hshows, ?_⟩
  rw [← hend, ← run_iterate_step (n := k), ← run_step, run_of_halted]
  rw [hend]
  rfl

/-- An executor that shows the course and is ended by its verdict has the result of the course. -/
theorem Shows.result_ended (h : Shows d input limits n e) :
    (e.ended (d.verdict input.symbols limits n).1 (d.verdict input.symbols limits n).2).result =
      .ok (d.resultAt limits input n) := by
  show Except.ok (Result.mk _ e.state e.tape.contents e.trace.reverse e.steps e.definition.blank _ e.input.given) = _
  rw [h.state, h.contents, h.trace, h.steps, h.definition_eq, h.input_eq]
  rfl

end Simulation

end Executor

/-! ## 3. Results -/

namespace Definition

variable {d : Definition} {given : Json} {input : Input} {limits : Limits} {k : Nat}

theorem given_of_readInput (h : d.readInput given = .ok input) : input.given = given := by
  unfold readInput at h
  split at h
  · cases h
  · split at h
    · cases h
    · split at h
      · cases h
        rfl
      · cases h

/-- **The result of a run is the one that the course gives at the first stop.** -/
theorem run_eq_resultAt (h : d.readInput given = .ok input)
    (hk : IsLeast {n | d.Stops input.symbols limits n} k) :
    d.run given limits = .ok (d.resultAt limits input k) := by
  obtain ⟨e, hshows, hrun⟩ := Executor.run_start hk
  unfold run Executor.create
  rw [h]
  show (Except.mapError _ (Executor.start d input limits).run.result : Except Error _) = _
  rw [hrun, hshows.result_ended]
  rfl

/-- **Runs follow the course of the machine.** On every input and within any limits there is a first moment `k`
    at which the course stops, and a run has a result: it has applied `k` rules, it ended for want of a rule, else
    at the step limit, else at the left end, in this order, and its trace shows each configuration of the course
    up to `k` on the window visited so far. -/
theorem run_refines_course (h : d.readInput given = .ok input) (limits : Limits) :
    ∃ k r, IsLeast {n | d.Stops input.symbols limits n} k ∧ d.run given limits = .ok r ∧
      r.steps = k ∧ r.finalState = (d.course input.symbols k).state ∧
      ((d.course input.symbols k).rule? d = none →
        r.outcome = (if d.isFinal r.finalState then .accepted else .rejected) ∧ r.reason = none) ∧
      ((d.course input.symbols k).rule? d ≠ none → k = limits.maxSteps →
        r.outcome = .halted ∧ r.reason = some .stepLimit) ∧
      ((d.course input.symbols k).rule? d ≠ none → k ≠ limits.maxSteps →
        r.outcome = .halted ∧ r.reason = some .leftBoundary) ∧
      r.trace.length = k + 1 ∧ (∀ i ≤ k, r.trace[i]? = some (d.shown input.symbols i)) ∧
      r.tape = d.window input.symbols k ∧ r.blank = d.blank ∧ r.input = given := by
  obtain ⟨k, hk⟩ := d.exists_isLeast_stops input.symbols limits
  refine ⟨k, d.resultAt limits input k, hk, run_eq_resultAt h hk, rfl, rfl, fun hstuck => ?_,
    fun hrule hspent => ?_, fun hrule hleft => ?_, length_trace_resultAt, fun i hi => ?_, rfl, rfl,
    given_of_readInput h⟩
  · simp only [resultAt, verdict_of_stuck hstuck, and_self]
  · exact haltedBy_resultAt_iff.mpr ⟨hrule, (if_pos hspent).symm⟩
  · exact haltedBy_resultAt_iff.mpr ⟨hrule, (if_neg hleft).symm⟩
  · have hlt : i < (d.resultAt limits input k).trace.length := by
      rw [length_trace_resultAt]
      exact Nat.lt_succ_of_le hi
    rw [List.getElem?_eq_getElem hlt, getElem_trace_resultAt]

/-- The machine that adds one, on a number of ones only: the carry comes to the left end. -/
theorem run_refines_course_increment :
    increment.readInput (.str "11") = .ok (.ofText "11") ∧
      ∃ k r, IsLeast {n | increment.Stops "11".toList { leftBounded := true } n} k ∧
        increment.run (.str "11") { leftBounded := true } = .ok r ∧ r.steps = k ∧
        r.finalState = (increment.course "11".toList k).state ∧ r.trace.length = k + 1 ∧
        r.tape = increment.window "11".toList k := by
  have hinput : increment.readInput (.str "11") = .ok (.ofText "11") := readInput_increment.2 (by simp)
  obtain ⟨k, r, hk, hr, hsteps, hstate, _, _, _, hlength, _, htape, _, _⟩ :=
    run_refines_course hinput { leftBounded := true }
  exact ⟨hinput, k, r, hk, hr, hsteps, hstate, hlength, htape⟩

end Definition

end TapeMachine
