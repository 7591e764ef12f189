import TapeMachine.Proofs.Run.Budget
/-!
# The left end

On a bounded tape position 0 is the left end. A run there is a run on the tape without ends up to the moment at
which the latter leaves position 0 to the left; if it never does, the two are the same.

* `Definition.crosses_iff` : **the left end is in the way exactly when the next step would lead over it**;
* `Definition.head_nonneg_of_bounded` : on a bounded tape the head is never left of position 0;
* `Definition.first_stop_of_nonneg`, `Definition.first_stop_of_negative` : **where the bounded run stops first**;
* `Definition.bounded_until_crossing` : **both runs agree up to the first crossing.**
-/

namespace TapeMachine.Definition

variable {d : Definition} {input : Input} {symbols : List Char} {m k k' n j : Nat}

/-! ## 1. Crossings -/

/-- On a tape without ends nothing is in the way. -/
theorem not_crosses_of_unbounded : ¬ d.Crosses symbols { maxSteps := m, leftBounded := false } n := by
  rintro ⟨hbounded, _⟩
  cases hbounded

/-- **The left end is in the way exactly when the next step would lead over it.** -/
theorem crosses_iff (hhead : 0 ≤ (d.course symbols n).head) :
    d.Crosses symbols { maxSteps := m, leftBounded := true } n ↔ (d.course symbols (n + 1)).head < 0 := by
  cases hrule : (d.course symbols n).rule? d with
  | none =>
      rw [course_succ_of_stuck hrule]
      constructor
      · rintro ⟨_, _, rule, hsome, _⟩
        rw [hrule] at hsome
        cases hsome
      · intro hneg
        exact absurd hhead (Int.not_le.mpr hneg)
  | some rule =>
      have hnext : (d.course symbols (n + 1)).head = (d.course symbols n).head + rule.move.offset := by
        rw [course_succ_of_rule hrule]
        rfl
      rw [hnext]
      constructor
      · rintro ⟨_, hzero, other, hother, hleft⟩
        rw [hrule] at hother
        cases hother
        rw [hzero, hleft]
        decide
      · intro hneg
        -- a head that is at 0 or beyond gets below 0 by a movement to the left only, and only from 0
        have hleft : rule.move = .left := Direction.offset_neg_iff.mp (by omega)
        have hone : rule.move.offset = -1 := by
          rw [hleft]
          rfl
        exact ⟨rfl, by omega, rule, hrule, hleft⟩

/-- A run on a bounded tape stops where one without ends does, and where the left end is in the way. -/
theorem stops_bounded_iff : d.Stops symbols { maxSteps := m, leftBounded := true } n ↔
    d.Stops symbols { maxSteps := m, leftBounded := false } n ∨
      d.Crosses symbols { maxSteps := m, leftBounded := true } n := by
  constructor
  · rintro (hstuck | hspent | hcrosses)
    · exact .inl (.inl hstuck)
    · exact .inl (.inr (.inl hspent))
    · exact .inr hcrosses
  · rintro ((hstuck | hspent | hcrosses) | hcrosses)
    · exact .inl hstuck
    · exact .inr (.inl hspent)
    · exact absurd hcrosses not_crosses_of_unbounded
    · exact .inr (.inr hcrosses)

/-- **On a bounded tape the head is never left of position 0.** -/
theorem head_nonneg_of_bounded
    (hk' : IsLeast {n | d.Stops symbols { maxSteps := m, leftBounded := true } n} k') (hn : n ≤ k') :
    0 ≤ (d.course symbols n).head := by
  induction n with
  | zero => exact Int.le_refl 0
  | succ n ih =>
      have hhead := ih (Nat.le_of_succ_le hn)
      by_contra hneg
      have hcrosses := (crosses_iff (m := m) hhead).mpr (Int.not_le.mp hneg)
      exact not_stops_of_lt hk' hn (stops_bounded_iff.mpr (.inr hcrosses))

/-! ## 2. First stops with and without the left end -/

section Stops

variable (hk : IsLeast {n | d.Stops symbols { maxSteps := m, leftBounded := false } n} k)
  (hk' : IsLeast {n | d.Stops symbols { maxSteps := m, leftBounded := true } n} k')
include hk hk'

/-- The bounded run stops no later. -/
theorem first_stop_bounded_le : k' ≤ k :=
  hk'.2 (stops_bounded_iff.mpr (.inl hk.1))

/-- Where the bounded run stops earlier it is because of the left end, and the other one is led over it. -/
theorem head_succ_neg_of_lt (hlt : k' < k) : (d.course symbols (k' + 1)).head < 0 := by
  rcases stops_bounded_iff.mp hk'.1 with hstop | hcrosses
  · exact absurd hstop (not_stops_of_lt hk hlt)
  · exact (crosses_iff (head_nonneg_of_bounded hk' (Nat.le_refl k'))).mp hcrosses

/-- **A run that never leaves position 0 to the left is the bounded one.** -/
theorem first_stop_of_nonneg (hall : ∀ i ≤ k, 0 ≤ (d.course symbols i).head) : k' = k := by
  rcases Nat.lt_or_eq_of_le (first_stop_bounded_le hk hk') with hlt | heq
  · have hneg := head_succ_neg_of_lt hk hk' hlt
    have hnonneg := hall (k' + 1) hlt
    omega
  · exact heq

/-- **A run that leaves position 0 to the left is stopped one step before.** -/
theorem first_stop_of_negative (hj : j ≤ k) (hneg : (d.course symbols j).head < 0)
    (hbefore : ∀ i < j, 0 ≤ (d.course symbols i).head) : k' + 1 = j := by
  -- the bounded run does not get to the crossing, and what it stops at is one
  have hlt : k' < j := by
    by_contra hge
    have hnonneg := head_nonneg_of_bounded hk' (Nat.le_of_not_lt hge)
    omega
  have hneg' := head_succ_neg_of_lt hk hk' (Nat.lt_of_lt_of_le hlt hj)
  by_contra hne
  have hnonneg := hbefore (k' + 1) (Nat.lt_of_le_of_ne hlt hne)
  omega

end Stops

/-! ## 3. The two runs -/

/-- **Both runs agree up to the first crossing.** With `U` the result on a tape without ends and `B` the one on a
    bounded tape: if no snapshot of `U` has its head left of position 0, they are the same; else `B` is halted at
    the left end, and its trace is that of `U` before the first such snapshot. No snapshot of `B` goes left of
    position 0, and `B` is halted at the left end only if `U` has a snapshot that does. -/
theorem bounded_until_crossing {given : Json} (h : d.readInput given = .ok input) (m : Nat) :
    ∃ U B : Result Char, d.run given { maxSteps := m, leftBounded := false } = .ok U ∧
      d.run given { maxSteps := m, leftBounded := true } = .ok B ∧
      ((∀ s ∈ U.trace, 0 ≤ s.head) → B = U) ∧
      (∀ j (hj : j < U.trace.length), U.trace[j].head < 0 → (∀ i (hi : i < j), 0 ≤ U.trace[i].head) →
        B.HaltedBy .leftBoundary ∧ B.steps + 1 = j ∧ B.trace = U.trace.take j) ∧
      (∀ s ∈ B.trace, 0 ≤ s.head ∧ s.offset = 0) ∧
      (B.HaltedBy .leftBoundary → ∃ s ∈ U.trace, s.head < 0) := by
  obtain ⟨k, hk⟩ := d.exists_isLeast_stops input.symbols { maxSteps := m, leftBounded := false }
  obtain ⟨k', hk'⟩ := d.exists_isLeast_stops input.symbols { maxSteps := m, leftBounded := true }
  have hkm : k ≤ m := hk.2 (.inr (.inl rfl))
  refine ⟨_, _, run_eq_resultAt h hk, run_eq_resultAt h hk', fun hall => ?_, fun j hj hneg hbefore => ?_,
    fun s hs => ?_, fun hhalted => ?_⟩
  · have heq : k' = k := first_stop_of_nonneg hk hk' fun i hi =>
      hall _ (mem_trace_resultAt.mpr ⟨i, hi, rfl⟩)
    rw [heq]
    exact resultAt_congr rfl
  · rw [getElem_trace_resultAt] at hneg
    have hjk : j ≤ k := by
      rw [length_trace_resultAt] at hj
      exact Nat.le_of_lt_succ hj
    have heq : k' + 1 = j := first_stop_of_negative hk hk' hjk hneg fun i hi => by
      have hnonneg := hbefore i hi
      rwa [getElem_trace_resultAt] at hnonneg
    have hrule := rule?_ne_none_of_lt hk (n := k') (by omega)
    refine ⟨haltedBy_resultAt_iff.mpr ⟨hrule, (if_neg ?_).symm⟩, heq, ?_⟩
    · show k' ≠ m
      omega
    · show (List.range (k' + 1)).map _ = ((List.range (k + 1)).map _).take j
      rw [← List.map_take, List.take_range, Nat.min_eq_left (Nat.le_succ_of_le hjk), heq]
  · obtain ⟨i, hi, rfl⟩ := mem_trace_resultAt.mp hs
    exact ⟨head_nonneg_of_bounded hk' hi,
      leftmost_eq_zero fun n hn => head_nonneg_of_bounded hk' (Nat.le_trans hn hi)⟩
  · obtain ⟨hrule, hreason⟩ := haltedBy_resultAt_iff.mp hhalted
    have hne : k' ≠ m := fun hspent => by
      rw [if_pos hspent] at hreason
      cases hreason
    have hlt : k' < k := by
      refine Nat.lt_of_le_of_ne (first_stop_bounded_le hk hk') fun heq => ?_
      rw [heq] at hrule hne
      exact not_crosses_of_unbounded (crosses_of_stops hk.1 hrule hne)
    exact ⟨_, mem_trace_resultAt.mpr ⟨k' + 1, hlt, rfl⟩, head_succ_neg_of_lt hk hk' hlt⟩

/-- The machine that adds one, on a number of ones only, with and without a left end. -/
theorem bounded_until_crossing_increment :
    increment.readInput (.str "11") = .ok (.ofText "11") ∧
      ∃ U B : Result Char, increment.run (.str "11") { maxSteps := 10, leftBounded := false } = .ok U ∧
        increment.run (.str "11") { maxSteps := 10, leftBounded := true } = .ok B ∧
        ((∀ s ∈ U.trace, 0 ≤ s.head) → B = U) ∧ (∀ s ∈ B.trace, 0 ≤ s.head ∧ s.offset = 0) ∧
        (B.HaltedBy .leftBoundary → ∃ s ∈ U.trace, s.head < 0) := by
  have hinput : increment.readInput (.str "11") = .ok (.ofText "11") := readInput_increment.2 (by simp)
  obtain ⟨U, B, hU, hB, hsame, _, hnonneg, hnegative⟩ := bounded_until_crossing hinput 10
  exact ⟨hinput, U, B, hU, hB, hsame, hnonneg, hnegative⟩

end TapeMachine.Definition
