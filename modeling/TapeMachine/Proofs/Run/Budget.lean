import TapeMachine.Proofs.Run.Refinement
import Mathlib.Order.Bounds.Basic
import Mathlib.Tactic.Choose
/-!
# The step limit

Runs of one machine on one input with different step limits go the same course, and a limit only cuts it short.
The two ends that are not the limit's differ by one: a run that lacks a rule ends with its steps used up too,
since that is looked at before the limit, while one at the left end needs a step to spare.

* `Definition.stops_of_ne_maxSteps` : a stop that is not for want of steps is one for every step limit;
* `Definition.isLeast_stops_cut`, `Definition.isLeast_stops_kept` : **where a run with another limit stops first**:
  at its limit if that comes before the old stop, else at the old stop;
* `Definition.resultAt_eq_of_stuck`, `Definition.resultAt_eq_of_crosses`, `Definition.haltedBy_of_cut` : the
  results there;
* `Definition.budget_only_truncates` : **the step limit only truncates.**
-/

namespace TapeMachine.Definition

variable {d : Definition} {input : Input} {symbols : List Char} {leftBounded : Bool} {m m' k k' n : Nat}

/-! ## 1. First stops under two limits -/

/-- **A stop that is not for want of steps is one for every step limit.** -/
theorem stops_of_ne_maxSteps (hstop : d.Stops symbols { maxSteps := m, leftBounded } n) (hne : n ≠ m) (m' : Nat) :
    d.Stops symbols { maxSteps := m', leftBounded } n := by
  rcases hstop with hstuck | hspent | hcrosses
  · exact .inl hstuck
  · exact absurd hspent hne
  · exact .inr (.inr hcrosses)

/-- A limit that comes before the first stop is the first stop. -/
theorem isLeast_stops_cut (hk : IsLeast {n | d.Stops symbols { maxSteps := m, leftBounded } n} k) (hm' : m' ≤ k) :
    IsLeast {n | d.Stops symbols { maxSteps := m', leftBounded } n} m' := by
  refine ⟨.inr (.inl rfl), fun i hi => ?_⟩
  by_cases hne : i = m'
  · exact Nat.le_of_eq hne.symm
  · exact Nat.le_trans hm' (hk.2 (stops_of_ne_maxSteps hi hne m))

/-- The first stop remains if it is one for the other limit, and that does not come before it. -/
theorem isLeast_stops_kept (hk : IsLeast {n | d.Stops symbols { maxSteps := m, leftBounded } n} k)
    (hstop : d.Stops symbols { maxSteps := m', leftBounded } k) (hm' : k ≤ m') :
    IsLeast {n | d.Stops symbols { maxSteps := m', leftBounded } n} k := by
  refine ⟨hstop, fun i hi => ?_⟩
  by_cases hne : i = m'
  · rw [hne]
    exact hm'
  · exact hk.2 (stops_of_ne_maxSteps hi hne m)

/-- **A greater limit moves the first stop no nearer.** -/
theorem first_stop_mono (hk : IsLeast {n | d.Stops symbols { maxSteps := m, leftBounded } n} k)
    (hk' : IsLeast {n | d.Stops symbols { maxSteps := m', leftBounded } n} k') (h : m ≤ m') : k ≤ k' := by
  by_cases hspent : k' = m'
  · have hm : k ≤ m := hk.2 (.inr (.inl rfl))
    omega
  · exact hk.2 (stops_of_ne_maxSteps hk'.1 hspent m)

/-- Where a rule applies and steps are left, a run stops at the left end only. -/
theorem crosses_of_stops {limits : Limits} (hstop : d.Stops symbols limits n)
    (hrule : (d.course symbols n).rule? d ≠ none) (hne : n ≠ limits.maxSteps) : d.Crosses symbols limits n := by
  rcases hstop with hstuck | hspent | hcrosses
  · exact absurd hstuck hrule
  · exact absurd hspent hne
  · exact hcrosses

/-- Before the first stop a rule applies. -/
theorem rule?_ne_none_of_lt {limits : Limits} (hk : IsLeast {n | d.Stops symbols limits n} k) (hn : n < k) :
    (d.course symbols n).rule? d ≠ none :=
  fun hstuck => not_stops_of_lt hk hn (.inl hstuck)

/-! ## 2. Results under two limits -/

section Results

variable (hk : IsLeast {n | d.Stops input.symbols { maxSteps := m, leftBounded } n} k)
  (hk' : IsLeast {n | d.Stops input.symbols { maxSteps := m', leftBounded } n} k')
include hk hk'

/-- **A run that ends for want of a rule has the same result within every limit that lets it come there.** -/
theorem resultAt_eq_of_stuck (hstuck : (d.course input.symbols k).rule? d = none) (hm' : k ≤ m') :
    d.resultAt { maxSteps := m', leftBounded } input k' = d.resultAt { maxSteps := m, leftBounded } input k := by
  rw [hk'.unique (isLeast_stops_kept hk (.inl hstuck) hm')]
  apply resultAt_congr
  rw [verdict_of_stuck hstuck, verdict_of_stuck hstuck]

/-- **A run that ends at the left end has the same result within every limit that it does not use up.** -/
theorem resultAt_eq_of_crosses (hrule : (d.course input.symbols k).rule? d ≠ none) (hne : k ≠ m) (hm' : k < m') :
    d.resultAt { maxSteps := m', leftBounded } input k' = d.resultAt { maxSteps := m, leftBounded } input k := by
  rw [hk'.unique (isLeast_stops_kept hk (stops_of_ne_maxSteps hk.1 hne m') (Nat.le_of_lt hm'))]
  apply resultAt_congr
  rw [verdict_of_rule hrule, verdict_of_rule hrule, if_neg hne, if_neg (Nat.ne_of_lt hm')]

/-- **A limit that comes before the end of a run halts it there.** -/
theorem haltedBy_of_cut (hm' : m' ≤ k) (hrule : (d.course input.symbols m').rule? d ≠ none) :
    (d.resultAt { maxSteps := m', leftBounded } input k').HaltedBy .stepLimit ∧ k' = m' := by
  rw [hk'.unique (isLeast_stops_cut hk hm')]
  exact ⟨haltedBy_resultAt_iff.mpr ⟨hrule, (if_pos rfl).symm⟩, rfl⟩

end Results

/-- A trace that stops earlier is the beginning of one that stops later. -/
theorem trace_prefix {limits limits' : Limits} (h : k ≤ k') :
    (d.resultAt limits input k).trace <+: (d.resultAt limits' input k').trace := by
  have hrange : List.range (k + 1) = (List.range (k' + 1)).take (k + 1) := by
    rw [List.take_range, Nat.min_eq_left (Nat.succ_le_succ h)]
  show (List.range (k + 1)).map _ <+: (List.range (k' + 1)).map _
  rw [hrange]
  exact (List.take_prefix _ _).map _

/-! ## 3. The limit only truncates -/

/-- **The step limit only truncates.** With `R m` the result of a run with at most `m` steps: a smaller limit gives
    the beginning of the trace; a run halted by the limit has used it up, and any other is the same with more
    steps. A run that was not halted is the same from as many steps on as it takes, and one at the left end from
    one step more on; with fewer steps both are halted by the limit. -/
theorem budget_only_truncates {given : Json} (h : d.readInput given = .ok input) (leftBounded : Bool) :
    ∃ R : Nat → Result Char, (∀ m, d.run given { maxSteps := m, leftBounded } = .ok (R m)) ∧
      (∀ m m', m ≤ m' → (R m).trace <+: (R m').trace) ∧
      (∀ m, (R m).HaltedBy .stepLimit → (R m).steps = m) ∧
      (∀ m m', m ≤ m' → ¬ (R m).HaltedBy .stepLimit → R m' = R m) ∧
      (∀ m m', (R m).outcome = .accepted ∨ (R m).outcome = .rejected →
        ((R m).steps ≤ m' → R m' = R m) ∧
          (m' < (R m).steps → (R m').HaltedBy .stepLimit ∧ (R m').steps = m')) ∧
      (∀ m m', (R m).HaltedBy .leftBoundary →
        ((R m).steps < m' → R m' = R m) ∧
          (m' ≤ (R m).steps → (R m').HaltedBy .stepLimit ∧ (R m').steps = m')) := by
  choose stop hstop using fun m => d.exists_isLeast_stops input.symbols { maxSteps := m, leftBounded }
  have hle : ∀ m, stop m ≤ m := fun m => (hstop m).2 (.inr (.inl rfl))
  refine ⟨fun m => d.resultAt { maxSteps := m, leftBounded } input (stop m), fun m => run_eq_resultAt h (hstop m),
    fun m m' hm => ?_, fun m hhalted => ?_, fun m m' hm hother => ?_, fun m m' hend => ?_, fun m m' hleft => ?_⟩
  · exact trace_prefix (first_stop_mono (hstop m) (hstop m') hm)
  · obtain ⟨_, hreason⟩ := haltedBy_resultAt_iff.mp hhalted
    by_cases hspent : stop m = m
    · exact hspent
    · rw [if_neg hspent] at hreason
      cases hreason
  · by_cases hrule : (d.course input.symbols (stop m)).rule? d = none
    · exact resultAt_eq_of_stuck (hstop m) (hstop m') hrule (Nat.le_trans (hle m) hm)
    · have hne : stop m ≠ m := fun hspent =>
        hother (haltedBy_resultAt_iff.mpr ⟨hrule, (if_pos hspent).symm⟩)
      have hlt : stop m < m' := Nat.lt_of_lt_of_le (Nat.lt_of_le_of_ne (hle m) hne) hm
      exact resultAt_eq_of_crosses (hstop m) (hstop m') hrule hne hlt
  · have hne : (d.resultAt { maxSteps := m, leftBounded } input (stop m)).outcome ≠ .halted := by
      rcases hend with haccepted | hrejected
      · rw [haccepted]
        decide
      · rw [hrejected]
        decide
    have hstuck := outcome_resultAt_ne_halted_iff.mp hne
    exact ⟨fun hm' => resultAt_eq_of_stuck (hstop m) (hstop m') hstuck hm', fun hm' =>
      haltedBy_of_cut (hstop m) (hstop m') (Nat.le_of_lt hm') (rule?_ne_none_of_lt (hstop m) hm')⟩
  · obtain ⟨hrule, hreason⟩ := haltedBy_resultAt_iff.mp hleft
    have hne : stop m ≠ m := fun hspent => by
      rw [if_pos hspent] at hreason
      cases hreason
    refine ⟨fun hm' => resultAt_eq_of_crosses (hstop m) (hstop m') hrule hne hm', fun hm' =>
      haltedBy_of_cut (hstop m) (hstop m') hm' ?_⟩
    rcases Nat.lt_or_eq_of_le hm' with hlt | heq
    · exact rule?_ne_none_of_lt (hstop m) hlt
    · rw [heq]
      exact hrule

/-- The machine that adds one, on a bounded tape: the limits of its runs on a number of ones only. -/
theorem budget_only_truncates_increment :
    increment.readInput (.str "11") = .ok (.ofText "11") ∧
      ∃ R : Nat → Result Char,
        (∀ m, increment.run (.str "11") { maxSteps := m, leftBounded := true } = .ok (R m)) ∧
        (R 3).trace <+: (R 9).trace ∧ (¬ (R 3).HaltedBy .stepLimit → R 9 = R 3) ∧
        ((R 9).HaltedBy .leftBoundary → (R 9).steps < 5 → R 5 = R 9) := by
  have hinput : increment.readInput (.str "11") = .ok (.ofText "11") := readInput_increment.2 (by simp)
  obtain ⟨R, hrun, htrace, _, hother, _, hleft⟩ := budget_only_truncates hinput true
  exact ⟨hinput, R, hrun, htrace 3 9 (by decide), hother 3 9 (by decide), fun hhalted => (hleft 9 5 hhalted).1⟩

end TapeMachine.Definition
