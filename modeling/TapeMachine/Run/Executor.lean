import TapeMachine.Machine.Input
import TapeMachine.Run.Result
import TapeMachine.Tape
/-!
# Executors

An executor runs one input on a machine, step by step. It stops when no rule applies; a final state alone
does not stop it, but decides how it ends. The step limit counts applied rules, and a bounded run may not
leave position 0 to the left. Each applied rule leaves an entry from which it can be taken back.

* `Limits`, `Limits.ofJson` : the step limit and the left bound of a run;
* `Executor.step`, `undo`, `reset`, `run`, `result` : the operations;
* `Executor.step_remaining_lt` : **a step that does not find the executor halted brings its end nearer**, so
  `run` is total;
* `Definition.run` : the result of an input.
-/

namespace TapeMachine

/-! ## 1. Limits -/

/-- What bounds a run: the number of applied rules, and whether position 0 is the left end. -/
structure Limits where
  maxSteps : Nat := 10000
  leftBounded : Bool := false
  deriving DecidableEq, Repr

/-- Limits from values of any shape: the first must be a natural number, the second counts as true or
false. -/
def Limits.ofJson (maxSteps leftBounded : Json) : Except RunError Limits :=
  match maxSteps with
  | .int (.ofNat n) => .ok { maxSteps := n, leftBounded := leftBounded.truthy }
  | value => .error (.badMaxSteps value)

/-! ## 2. Executors -/

/-- What is needed to take back an applied rule. -/
structure Undo where
  state : String
  head : Int
  symbol : Char
  low : Int
  high : Int
  deriving DecidableEq, Repr

/-- A run of a machine on an input. The trace and the undo entries have the latest first. -/
structure Executor where
  definition : Definition
  input : Input
  limits : Limits
  tape : Tape Char
  state : String
  steps : Nat
  outcome : Option Outcome
  reason : Option HaltReason
  trace : List (Snapshot Char)
  undos : List Undo

namespace Executor

/-- A snapshot of a tape. -/
def snapshotOf (tape : Tape Char) (state : String) (steps : Nat) : Snapshot Char :=
  { step := steps, state := state, cells := .mk fun _ => tape.contents, head := tape.head, offset := tape.low }

/-- The executor before its first step. -/
def start (definition : Definition) (input : Input) (limits : Limits) : Executor :=
  let tape := Tape.ofInput input.symbols definition.blank
  { definition, input, limits, tape
    state := definition.initial
    steps := 0
    outcome := none
    reason := none
    trace := [snapshotOf tape definition.initial 0]
    undos := [] }

/-- An executor for the input in a value. -/
def create (definition : Definition) (given : Json) (limits : Limits) : Except Error Executor := do
  return start definition (← definition.readInput given) limits

/-- Whether the run is over. -/
def halted (e : Executor) : Bool :=
  e.outcome.isSome

/-- The executor as it is now. -/
def snapshot (e : Executor) : Snapshot Char :=
  snapshotOf e.tape e.state e.steps

/-- The latest snapshot of the trace. -/
def latest (e : Executor) : Snapshot Char :=
  e.trace.headD e.snapshot

/-- The rule for the state and the symbol under the head. -/
def rule? (e : Executor) : Option (Rule Char) :=
  e.definition.rules.lookup e.state e.tape.read

/-- Stops the run for a reason. -/
def stop (e : Executor) (reason : HaltReason) : Executor :=
  { e with outcome := some .halted, reason := some reason }

/-- Writes, moves and changes the state as a rule says. -/
def apply (e : Executor) (rule : Rule Char) : Executor :=
  let tape := (e.tape.write rule.write).move rule.move
  { e with
    tape := tape
    state := rule.next
    steps := e.steps + 1
    trace := snapshotOf tape rule.next (e.steps + 1) :: e.trace
    undos := { state := e.state, head := e.tape.head, symbol := e.tape.read,
               low := e.tape.low, high := e.tape.high } :: e.undos }

/-- One step: nothing when the run is over; its end when no rule applies or a limit is reached; else the
application of the rule. -/
def step (e : Executor) : Executor :=
  if e.halted then e
  else match e.rule? with
    | none => { e with outcome := some (if e.definition.isFinal e.state then .accepted else .rejected) }
    | some rule =>
        if e.limits.maxSteps ≤ e.steps then e.stop .stepLimit
        else if e.limits.leftBounded ∧ e.tape.head = 0 ∧ rule.move = .left then e.stop .leftBoundary
        else e.apply rule

/-- Takes back the last applied rule, and the end of the run if there was one. -/
def undo (e : Executor) : Except RunError Executor :=
  match e.undos with
  | [] => .error .nothingToUndo
  | last :: undos =>
      .ok { e with
        tape := e.tape.rewind last.head last.symbol last.low last.high
        state := last.state
        steps := e.steps - 1
        trace := e.trace.tail
        undos := undos
        outcome := none
        reason := none }

/-- Back to the start. -/
def reset (e : Executor) : Executor :=
  start e.definition e.input e.limits

/-! ## 3. Complete runs -/

/-- A bound on the steps until the run is over. -/
def remaining (e : Executor) : Nat :=
  if e.halted then 0 else e.limits.maxSteps - e.steps + 1

/-- **A step that does not find the executor halted brings its end nearer.** -/
theorem step_remaining_lt {e : Executor} (h : ¬ e.halted = true) : e.step.remaining < e.remaining := by
  unfold step
  rw [if_neg h]
  split
  · simp [remaining, halted] at h ⊢
    simp [h]
  · split
    · simp [remaining, halted, stop] at h ⊢
      simp [h]
    · split
      · simp [remaining, halted, stop] at h ⊢
        simp [h]
      · simp [remaining, halted, apply] at h ⊢
        simp [h]
        omega

/-- Steps until the run is over. -/
def run (e : Executor) : Executor :=
  if e.halted then e else run e.step
termination_by e.remaining
decreasing_by
  rename_i h
  exact step_remaining_lt h

/-- The result of a run that is over. -/
def result (e : Executor) : Except RunError (Result Char) :=
  match e.outcome with
  | none => .error .stillRunning
  | some outcome =>
      .ok {
        outcome := outcome
        finalState := e.state
        tape := e.tape.contents
        trace := e.trace.reverse
        steps := e.steps
        blank := e.definition.blank
        reason := e.reason
        input := e.input.given }

/-- The window with a caret under the head, and a line on where the run stands. -/
def visualize (e : Executor) : List String :=
  let s := e.latest
  let cells := s.cells.get
  let caret := cells.mapIdx fun i _ => if (i : Int) = s.headIndex then "^" else " "
  [" ".intercalate (cells.map glyph), Text.trimEnd (" ".intercalate caret),
    s!"Step: {e.steps}, State: {e.state}, Halted: {(Json.bool e.halted).display}"]

end Executor

/-- The result of a machine on the input in a value. -/
def Definition.run (definition : Definition) (given : Json) (limits : Limits) :
    Except Error (Result Char) := do
  let executor ← Executor.create definition given limits
  executor.run.result

/-- The result of a machine on the input in a value, with limits of any shape, which are looked at first. -/
def Definition.runWithin (definition : Definition) (given maxSteps leftBounded : Json) :
    Except Error (Result Char) := do
  definition.run given (← Limits.ofJson maxSteps leftBounded)

end TapeMachine
