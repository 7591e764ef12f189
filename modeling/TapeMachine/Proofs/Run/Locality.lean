import Mathlib.Order.Bounds.Basic
import TapeMachine.Proofs.Run.Refinement
import TapeMachine.Proofs.Run.Windows
/-!
# A run depends on the visited cells only

A rule is chosen by the symbol under the head and writes there. Two runs whose inputs begin alike therefore go side by
side as long as the head of the one stays where they are alike: their tapes agree there, and what stands further right
is on each of them as it was given.

* `Config.AgreeBelow` : configurations that differ from some position on only, and `Config.AgreeBelow.next` : **one step
  keeps the agreement**;
* `Definition.agreeBelow_course` : **a whole course keeps it**;
* `Definition.tape_course_of_le` : **no cell changes where the head has not been**;
* `Definition.isLeast_stops_of_below` : the two runs stop first at the same moment;
* `Definition.run_depends_on_visited` : **a run depends only on the cells that its head visits.**
-/

namespace TapeMachine

/-! ## 1. One step -/

namespace Config

variable {d : Definition} {m p : Int} {c c' : Config} {symbols symbols' : List Char}

/-- **Configurations that differ from a position on only.** -/
structure AgreeBelow (m : Int) (c c' : Config) : Prop where
  state : c.state = c'.state
  head : c.head = c'.head
  tape : ∀ p < m, c.tape p = c'.tape p

/-- Below that position the same rule applies. -/
theorem AgreeBelow.rule?_eq (h : c.AgreeBelow m c') (hhead : c.head < m) : c.rule? d = c'.rule? d := by
  rw [rule?, rule?, ← h.state, ← h.head, h.tape _ hhead]

theorem AgreeBelow.apply (h : c.AgreeBelow m c') (rule : Rule Char) :
    (c.apply rule).AgreeBelow m (c'.apply rule) where
  state := rfl
  head := congrArg (· + rule.move.offset) h.head
  tape p hp := by rw [tape_apply, tape_apply, h.head, h.tape p hp]

/-- **One step keeps the agreement**, if the head is where the tapes agree. -/
theorem AgreeBelow.next (h : c.AgreeBelow m c') (hhead : c.head < m) : (c.next d).AgreeBelow m (c'.next d) := by
  rw [Config.next, Config.next, ← h.rule?_eq hhead]
  cases c.rule? d with
  | none => exact h
  | some rule => exact h.apply rule

/-- One step changes no cell but the one under the head. -/
theorem tape_next_of_ne (h : c.head ≠ p) : (c.next d).tape p = c.tape p := by
  unfold next
  split
  · rfl
  · rw [tape_apply, if_neg h]

/-- Inputs that begin alike give tapes that agree there. -/
theorem agreeBelow_start {m : Nat} (h : symbols.take m = symbols'.take m) :
    (start d symbols).AgreeBelow m (start d symbols') where
  state := rfl
  head := rfl
  tape p hp := by
    show (if 0 ≤ p then _ else _) = if 0 ≤ p then _ else _
    split
    · have hindex : p.toNat < m := by omega
      rw [← List.getElem?_take_of_lt hindex, h, List.getElem?_take_of_lt hindex]
    · rfl

end Config

/-! ## 2. Whole courses -/

namespace Definition

variable {d : Definition} {symbols symbols' : List Char} {limits : Limits} {m k n : Nat} {p : Int}

/-- **A whole course keeps the agreement**, as long as its head stays where the inputs are alike. -/
theorem agreeBelow_course (hsame : symbols.take m = symbols'.take m)
    (hbelow : ∀ i < n, (d.course symbols i).head < m) :
    (d.course symbols n).AgreeBelow m (d.course symbols' n) := by
  induction n with
  | zero => exact Config.agreeBelow_start hsame
  | succ n ih =>
      rw [course, course]
      exact (ih fun i hi => hbelow i (Nat.lt_succ_of_lt hi)).next (hbelow n (Nat.lt_succ_self n))

/-- **No cell changes where the head has not been.** -/
theorem tape_course_of_le (hbelow : ∀ i < n, (d.course symbols i).head < m) (hp : (m : Int) ≤ p) :
    (d.course symbols n).tape p = (Config.start d symbols).tape p := by
  induction n with
  | zero => rfl
  | succ n ih =>
      have hhead : (d.course symbols n).head < m := hbelow n (Nat.lt_succ_self n)
      rw [course, Config.tape_next_of_ne (by omega), ih fun i hi => hbelow i (Nat.lt_succ_of_lt hi)]

/-! ## 3. Stops -/

section Stops

variable (h : (d.course symbols n).AgreeBelow m (d.course symbols' n)) (hhead : (d.course symbols n).head < m)
include h hhead

theorem stops_iff_of_agreeBelow : d.Stops symbols limits n ↔ d.Stops symbols' limits n := by
  rw [Stops, Stops, Crosses, Crosses, h.rule?_eq hhead, h.head]

theorem verdict_eq_of_agreeBelow : d.verdict symbols limits n = d.verdict symbols' limits n := by
  rw [verdict, verdict, h.rule?_eq hhead, h.state]

end Stops

/-- **Runs that go side by side stop first at the same moment.** -/
theorem isLeast_stops_of_below (hsame : symbols.take m = symbols'.take m)
    (hk : IsLeast {n | d.Stops symbols limits n} k) (hbelow : ∀ i ≤ k, (d.course symbols i).head < m) :
    IsLeast {n | d.Stops symbols' limits n} k := by
  have hagree {n : Nat} (hn : n ≤ k) : d.Stops symbols limits n ↔ d.Stops symbols' limits n :=
    stops_iff_of_agreeBelow (agreeBelow_course hsame fun i hi => hbelow i (Nat.le_trans (Nat.le_of_lt hi) hn))
      (hbelow n hn)
  refine ⟨(hagree (Nat.le_refl k)).mp hk.1, fun n hn => ?_⟩
  by_contra hlt
  rw [Nat.not_le] at hlt
  exact not_stops_of_lt hk hlt ((hagree (Nat.le_of_lt hlt)).mpr hn)

/-! ## 4. Runs -/

/-- **A run depends only on the cells that its head visits.** For two inputs with the same first `m` symbols: if the head
of the one run stays below position `m`, the other run has the same outcome for the same reason after as many steps, in
the same final state and with the same states and heads on the way. At each moment the two tapes agree below `m`, and
from there on each holds its input as it was given. -/
theorem run_depends_on_visited {given given' : Json} {input input' : Input} (h : d.readInput given = .ok input)
    (h' : d.readInput given' = .ok input') (hsame : input.symbols.take m = input'.symbols.take m) (limits : Limits) :
    ∃ r r', d.run given limits = .ok r ∧ d.run given' limits = .ok r' ∧ ((∀ s ∈ r.trace, s.head < m) →
      r'.outcome = r.outcome ∧ r'.reason = r.reason ∧ r'.steps = r.steps ∧ r'.finalState = r.finalState ∧
      (r'.trace.map fun s => (s.state, s.head)) = (r.trace.map fun s => (s.state, s.head)) ∧
      ∀ (i : Nat) (s s' : Snapshot Char), r.trace[i]? = some s → r'.trace[i]? = some s' →
        (∀ p < (m : Int), s'.tape d.blank p = s.tape d.blank p) ∧
        ∀ p ≥ (m : Int), s.tape d.blank p = (input.symbols[p.toNat]?).getD d.blank ∧
          s'.tape d.blank p = (input'.symbols[p.toNat]?).getD d.blank) := by
  obtain ⟨k, hk⟩ := d.exists_isLeast_stops input.symbols limits
  obtain ⟨k', hk'⟩ := d.exists_isLeast_stops input'.symbols limits
  refine ⟨_, _, run_eq_resultAt h hk, run_eq_resultAt h' hk', fun hheads => ?_⟩
  have hbelow : ∀ i ≤ k, (d.course input.symbols i).head < m := fun i hi =>
    hheads _ (mem_trace_resultAt.mpr ⟨i, hi, rfl⟩)
  -- from here on both runs stop at one moment, and their heads are the same and below `m` up to there
  obtain rfl : k' = k := hk'.unique (isLeast_stops_of_below hsame hk hbelow)
  have hagree {i : Nat} (hi : i ≤ k') : (d.course input.symbols i).AgreeBelow m (d.course input'.symbols i) :=
    agreeBelow_course hsame fun j hj => hbelow j (by omega)
  have hbelow' : ∀ i ≤ k', (d.course input'.symbols i).head < m := fun i hi => (hagree hi).head ▸ hbelow i hi
  have hlast := hagree (Nat.le_refl k')
  have hverdict : d.verdict input.symbols limits k' = d.verdict input'.symbols limits k' :=
    verdict_eq_of_agreeBelow hlast (hbelow k' (Nat.le_refl k'))
  refine ⟨congrArg Prod.fst hverdict.symm, congrArg Prod.snd hverdict.symm, rfl, hlast.state.symm, ?marks,
    fun i s s' hs hs' => ?tapes⟩
  case marks =>
    simp only [resultAt, List.map_map]
    refine List.map_congr_left fun i hi => ?_
    have hi : i ≤ k' := Nat.le_of_lt_succ (List.mem_range.mp hi)
    exact Prod.ext (hagree hi).state.symm (hagree hi).head.symm
  case tapes =>
    obtain ⟨hi, rfl⟩ := getElem?_trace_resultAt.mp hs
    obtain ⟨_, rfl⟩ := getElem?_trace_resultAt.mp hs'
    rw [tape_shown, tape_shown]
    refine ⟨fun p hp => ((hagree hi).tape p hp).symm, fun p hp => ?_⟩
    have hnonneg : 0 ≤ p := by omega
    rw [tape_course_of_le (fun j hj => hbelow j (by omega)) hp,
      tape_course_of_le (fun j hj => hbelow' j (by omega)) hp]
    exact ⟨if_pos hnonneg, if_pos hnonneg⟩

/-- The machine that adds one, stopped behind the first two digits. -/
theorem run_depends_on_visited_increment :
    increment.readInput (.str "110") = .ok (.ofText "110") ∧ increment.readInput (.str "1110") = .ok (.ofText "1110") ∧
      ∃ r r' : Result Char, increment.run (.str "110") { maxSteps := 1 } = .ok r ∧
        increment.run (.str "1110") { maxSteps := 1 } = .ok r' ∧ (∀ s ∈ r.trace, s.head < 2) ∧
        r'.outcome = r.outcome ∧ r'.reason = r.reason ∧ r'.steps = r.steps ∧ r'.finalState = r.finalState := by
  have hinput : increment.readInput (.str "110") = .ok (.ofText "110") := readInput_increment.mpr (by simp)
  have hinput' : increment.readInput (.str "1110") = .ok (.ofText "1110") := readInput_increment.mpr (by simp)
  obtain ⟨k, hk⟩ := increment.exists_isLeast_stops (Input.ofText "110").symbols { maxSteps := 1 }
  obtain ⟨r, r', hr, hr', hsame⟩ :=
    run_depends_on_visited (m := 2) hinput hinput' (by simp [Input.ofText]) { maxSteps := 1 }
  have hheads : ∀ s ∈ r.trace, s.head < (2 : Nat) := by
    rw [run_eq_resultAt hinput hk] at hr
    cases hr
    intro s hs
    obtain ⟨i, hi, rfl⟩ := mem_trace_resultAt.mp hs
    have hone : k ≤ 1 := hk.2 (.inr (.inl rfl))
    have hall : ∀ i ≤ 1, (increment.course (Input.ofText "110").symbols i).head < 2 := by decide +kernel
    exact hall i (Nat.le_trans hi hone)
  obtain ⟨houtcome, hreason, hsteps, hstate, _⟩ := hsame hheads
  exact ⟨hinput, hinput', r, r', hr, hr', hheads, houtcome, hreason, hsteps, hstate⟩

end Definition

end TapeMachine
