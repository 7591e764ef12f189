import TapeMachine.Run.Executor
import Mathlib.Logic.Function.Basic
import Mathlib.Order.Nat
/-!
# The course of a machine

The machine of the textbook: a tape that is a function on all positions, and configurations that follow from
each other by the rules. It knows no limits; where a run with limits stops, what it has visited and how it ends
are said on top of it.

* `Config`, `Definition.course` : configurations, and the one after a number of rules;
* `Definition.leftmost`, `Definition.rightmost`, `Definition.shown` : **the window visited so far, and the
  configuration on it**;
* `Definition.Stops`, `Definition.verdict`, `Definition.resultAt` : **where a run stops, how it ends there, and
  what it results in**;
* `Definition.exists_isLeast_stops` : every run stops somewhere first;
* `Definition.haltedBy_resultAt_iff` : a run is halted exactly when a rule applies where it stops.
-/

namespace TapeMachine

/-! ## 1. Configurations -/

/-- A configuration of a machine on a tape without ends. -/
structure Config where
  state : String
  head : Int
  tape : Int → Char

namespace Config

variable (d : Definition)

/-- The first configuration: the input stands from position 0 on, and blanks elsewhere. -/
def start (symbols : List Char) : Config :=
  { state := d.initial, head := 0
    tape := fun i => if 0 ≤ i then (symbols[i.toNat]?).getD d.blank else d.blank }

/-- The rule for the state and the symbol under the head. -/
def rule? (c : Config) : Option (Rule Char) :=
  d.rules.lookup c.state (c.tape c.head)

/-- The configuration after a rule. -/
def apply (c : Config) (rule : Rule Char) : Config :=
  { state := rule.next, head := c.head + rule.move.offset, tape := Function.update c.tape c.head rule.write }

theorem tape_apply {c : Config} {rule : Rule Char} (i : Int) :
    (c.apply rule).tape i = if c.head = i then rule.write else c.tape i := by
  show Function.update c.tape c.head rule.write i = _
  rw [Function.update_apply]
  by_cases h : i = c.head
  · rw [if_pos h, if_pos h.symm]
  · rw [if_neg h, if_neg (Ne.symm h)]

/-- The next configuration; one without a rule stays. -/
def next (c : Config) : Config :=
  match c.rule? d with
  | none => c
  | some rule => c.apply rule

end Config

/-- Whether a run was stopped for a reason. -/
def Result.HaltedBy {σ : Type} (r : Result σ) (reason : HaltReason) : Prop :=
  r.outcome = .halted ∧ r.reason = some reason

namespace Definition

variable (d : Definition) (symbols : List Char)

/-- The configuration after a number of rules. -/
def course : Nat → Config
  | 0 => .start d symbols
  | n + 1 => (course n).next d

/-! ## 2. The visited window -/

/-- The positions of the head up to a moment. -/
def heads (n : Nat) : List Int :=
  (List.range (n + 1)).map fun i => (d.course symbols i).head

/-- The leftmost position visited up to a moment; position 0 counts as visited. -/
def leftmost (n : Nat) : Int :=
  (d.heads symbols n).foldl min 0

/-- The rightmost position visited up to a moment; the positions of the input count as visited. -/
def rightmost (n : Nat) : Int :=
  (d.heads symbols n).foldl max (max ((symbols.length : Int) - 1) 0)

/-- The symbols of the window visited up to a moment. -/
def window (n : Nat) : List Char :=
  (List.range (d.rightmost symbols n + 1 - d.leftmost symbols n).toNat).map fun (j : Nat) =>
    (d.course symbols n).tape (d.leftmost symbols n + j)

/-- A configuration as it is shown: on the window visited so far. -/
def shown (n : Nat) : Snapshot Char :=
  { step := n, state := (d.course symbols n).state, cells := .mk fun _ => d.window symbols n
    head := (d.course symbols n).head, offset := d.leftmost symbols n }

/-! ## 3. Stops -/

variable (limits : Limits)

/-- Whether the next rule leads over the left end of a bounded tape. -/
def Crosses (n : Nat) : Prop :=
  limits.leftBounded = true ∧ (d.course symbols n).head = 0 ∧
    ∃ rule, (d.course symbols n).rule? d = some rule ∧ rule.move = .left

/-- Whether a run stops at a moment: no rule applies, all steps are used up, or the left end is in the way. -/
def Stops (n : Nat) : Prop :=
  (d.course symbols n).rule? d = none ∨ n = limits.maxSteps ∨ d.Crosses symbols limits n

/-- How a run that stops at a moment ends: by its state when no rule applies, else it is stopped, by the step
limit if all steps are used up. -/
def verdict (n : Nat) : Outcome × Option HaltReason :=
  match (d.course symbols n).rule? d with
  | none => (if d.isFinal (d.course symbols n).state then .accepted else .rejected, none)
  | some _ => (.halted, some (if n = limits.maxSteps then .stepLimit else .leftBoundary))

/-- The result of a run that stops at a moment. -/
def resultAt (input : Input) (n : Nat) : Result Char :=
  { outcome := (d.verdict input.symbols limits n).1
    finalState := (d.course input.symbols n).state
    tape := d.window input.symbols n
    trace := (List.range (n + 1)).map (d.shown input.symbols)
    steps := n
    blank := d.blank
    reason := (d.verdict input.symbols limits n).2
    input := input.given }

/-! ## 4. Laws -/

section Laws

variable {d symbols limits} {n : Nat}

/-- Where no rule applies the course stays. -/
theorem course_succ_of_stuck (h : (d.course symbols n).rule? d = none) :
    d.course symbols (n + 1) = d.course symbols n := by
  rw [course, Config.next, h]

theorem course_succ_of_rule {rule : Rule Char} (h : (d.course symbols n).rule? d = some rule) :
    d.course symbols (n + 1) = (d.course symbols n).apply rule := by
  rw [course, Config.next, h]

theorem heads_succ : d.heads symbols (n + 1) = d.heads symbols n ++ [(d.course symbols (n + 1)).head] := by
  rw [heads, List.range_succ, List.map_append]
  rfl

theorem leftmost_zero : d.leftmost symbols 0 = 0 := rfl

theorem leftmost_succ :
    d.leftmost symbols (n + 1) = min (d.leftmost symbols n) (d.course symbols (n + 1)).head := by
  rw [leftmost, heads_succ, List.foldl_append]
  rfl

theorem rightmost_zero : d.rightmost symbols 0 = max ((symbols.length : Int) - 1) 0 := by
  show max (max ((symbols.length : Int) - 1) 0) 0 = _
  omega

theorem rightmost_succ :
    d.rightmost symbols (n + 1) = max (d.rightmost symbols n) (d.course symbols (n + 1)).head := by
  rw [rightmost, heads_succ, List.foldl_append]
  rfl

/-- As long as the head has not been left of position 0, the window starts there. -/
theorem leftmost_eq_zero (h : ∀ i ≤ n, 0 ≤ (d.course symbols i).head) : d.leftmost symbols n = 0 := by
  induction n with
  | zero => rfl
  | succ n ih =>
      rw [leftmost_succ, ih fun i hi => h i (Nat.le_succ_of_le hi)]
      exact Int.min_eq_left (h (n + 1) (Nat.le_refl _))

/-- **Every run stops somewhere first**, at its step limit if not before. -/
theorem exists_isLeast_stops (d : Definition) (symbols : List Char) (limits : Limits) :
    ∃ k, IsLeast {n | d.Stops symbols limits n} k := by
  classical
  have hlimit : d.Stops symbols limits limits.maxSteps := .inr (.inl rfl)
  exact ⟨_, Nat.isLeast_find ⟨limits.maxSteps, hlimit⟩⟩

/-- Before the first stop there is none. -/
theorem not_stops_of_lt {k : Nat} (hk : IsLeast {n | d.Stops symbols limits n} k) (hn : n < k) :
    ¬ d.Stops symbols limits n :=
  fun hstop => Nat.not_le.mpr hn (hk.2 hstop)

theorem verdict_of_stuck (h : (d.course symbols n).rule? d = none) : d.verdict symbols limits n =
    (if d.isFinal (d.course symbols n).state then .accepted else .rejected, none) := by
  rw [verdict, h]

theorem verdict_of_rule (h : (d.course symbols n).rule? d ≠ none) : d.verdict symbols limits n =
    (.halted, some (if n = limits.maxSteps then .stepLimit else .leftBoundary)) := by
  obtain ⟨rule, hrule⟩ := Option.ne_none_iff_exists'.mp h
  rw [verdict, hrule]

section Trace

variable {input : Input} {i : Nat}

theorem length_trace_resultAt : (d.resultAt limits input n).trace.length = n + 1 := by
  simp only [resultAt, List.length_map, List.length_range]

theorem getElem_trace_resultAt (hi : i < (d.resultAt limits input n).trace.length) :
    (d.resultAt limits input n).trace[i] = d.shown input.symbols i := by
  simp only [resultAt, List.getElem_map, List.getElem_range]

theorem getElem?_trace_resultAt {s : Snapshot Char} :
    (d.resultAt limits input n).trace[i]? = some s ↔ i ≤ n ∧ d.shown input.symbols i = s := by
  simp only [List.getElem?_eq_some_iff, getElem_trace_resultAt, exists_prop, length_trace_resultAt, Nat.lt_succ_iff]

theorem mem_trace_resultAt {s : Snapshot Char} :
    s ∈ (d.resultAt limits input n).trace ↔ ∃ i ≤ n, d.shown input.symbols i = s := by
  simp only [resultAt, List.mem_map, List.mem_range, Nat.lt_succ_iff]

end Trace

/-- Within other limits a run that stops at the same moment by the same verdict has the same result. -/
theorem resultAt_congr {limits' : Limits} {input : Input}
    (h : d.verdict input.symbols limits n = d.verdict input.symbols limits' n) :
    d.resultAt limits input n = d.resultAt limits' input n := by
  rw [resultAt, resultAt, h]

/-- **A run is halted exactly when a rule applies where it stops**, and then by the step limit when its steps are
    used up. -/
theorem haltedBy_resultAt_iff {input : Input} {reason : HaltReason} :
    (d.resultAt limits input n).HaltedBy reason ↔ (d.course input.symbols n).rule? d ≠ none ∧
      reason = if n = limits.maxSteps then .stepLimit else .leftBoundary := by
  show (d.verdict input.symbols limits n).1 = _ ∧ (d.verdict input.symbols limits n).2 = _ ↔ _
  by_cases h : (d.course input.symbols n).rule? d = none
  · rw [verdict_of_stuck h]
    constructor
    · rintro ⟨_, hreason⟩
      cases hreason
    · rintro ⟨hrule, _⟩
      exact absurd h hrule
  · rw [verdict_of_rule h]
    constructor
    · rintro ⟨_, hreason⟩
      exact ⟨h, (Option.some.inj hreason).symm⟩
    · rintro ⟨_, hreason⟩
      exact ⟨rfl, by rw [hreason]⟩

/-- A run is not halted exactly when no rule applies where it stops. -/
theorem outcome_resultAt_ne_halted_iff {input : Input} :
    (d.resultAt limits input n).outcome ≠ .halted ↔ (d.course input.symbols n).rule? d = none := by
  show (d.verdict input.symbols limits n).1 ≠ _ ↔ _
  by_cases h : (d.course input.symbols n).rule? d = none
  · rw [verdict_of_stuck h]
    refine ⟨fun _ => h, fun _ => ?_⟩
    cases d.isFinal (d.course input.symbols n).state <;> decide
  · rw [verdict_of_rule h]
    exact ⟨fun hne => absurd rfl hne, fun hstuck => absurd hstuck h⟩

end Laws

end Definition

end TapeMachine
