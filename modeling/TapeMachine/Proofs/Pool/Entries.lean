import Mathlib.Data.List.Perm.Basic
import TapeMachine.Pool.Run
import TapeMachine.Proofs.Run.Batch
/-!
# Entries and totals of a pool

Each input of a pool has one entry and counts in one of four ways, whichever batch it is in. So the totals of a run and
its entries, up to their order, are those of its inputs one by one.

* `Pool.outcome?`, `Pool.entryOf`, `Pool.totalsOf` : what becomes of an input, its entry, and what some inputs count;
* `Pool.entries_perm`, `Pool.totalsOf_add` : **a batch has the entries and the counts of its inputs**;
* `Pool.total_eq_sum` : the four counts add up to the number of inputs;
* `Pool.simulated`, `Pool.recorded`, `Pool.all_tasksFrom` : the inputs that a run has gone through, and those that its
  checkpoint knows of;
* `Pool.take_tasks` : **wherever a run is interrupted, the second are among the first**.
-/

namespace TapeMachine.Pool

/-! ## 1. Inputs one by one -/

section Inputs

variable (d : Definition) (limits : Limits)

/-- How the run of an input ends: nothing when the machine refuses it. -/
def outcome? (s : String) : Option Outcome :=
  (d.run (.str s) limits).toOption.map (·.outcome)

/-- The entry of an input: that of its run, or that of its refusal. -/
def entryOf (s : String) : Json :=
  match d.run (.str s) limits with
  | .ok r => resultEntry d.name r
  | .error e => refusedEntry d.name ⟨s, e.message⟩

/-- Whether the machine refuses an input. -/
def isRefused (s : String) : Bool :=
  !(d.readInput (.str s)).toBool

/-- The totals of some inputs. -/
def totalsOf (inputs : List String) : Totals :=
  { total := inputs.length
    accepted := inputs.countP (outcome? d limits · = some .accepted)
    rejected := inputs.countP (outcome? d limits · = some .rejected)
    halted := inputs.countP (outcome? d limits · = some .halted)
    invalid := inputs.countP (isRefused d) }

variable {d limits}

theorem outcome?_of_run {s : String} {r : Result Char} (h : d.run (.str s) limits = .ok r) :
    outcome? d limits s = some r.outcome := by
  rw [outcome?, h]
  rfl

variable (limits) in
theorem isRefused_iff {s : String} : isRefused d s = true ↔ outcome? d limits s = none := by
  unfold isRefused outcome?
  cases hread : d.readInput (.str s) with
  | ok input =>
      obtain ⟨r, hr⟩ := Definition.exists_run hread limits
      rw [hr]
      simp [Except.toBool, Except.toOption]
  | error e =>
      rw [Definition.run_of_refused hread]
      simp [Except.toBool, Except.toOption]

/-- **The four counts add up to the number of inputs.** -/
theorem total_eq_sum (inputs : List String) : (totalsOf d limits inputs).total =
    (totalsOf d limits inputs).accepted + (totalsOf d limits inputs).rejected + (totalsOf d limits inputs).halted +
      (totalsOf d limits inputs).invalid := by
  induction inputs with
  | nil => rfl
  | cons s inputs ih =>
      simp only [totalsOf, List.length_cons, List.countP_cons] at ih ⊢
      cases houtcome : outcome? d limits s with
      | none =>
          rw [(isRefused_iff limits).mpr houtcome]
          simp
          omega
      | some outcome =>
          have htaken : isRefused d s = false := by
            rw [Bool.eq_false_iff, ne_eq, isRefused_iff limits, houtcome]
            simp
          rw [htaken]
          cases outcome <;> simp <;> omega

/-! ## 2. The entries of a batch -/

theorem totalsOf_append (inputs more : List String) : totalsOf d limits (inputs ++ more) =
    { total := (totalsOf d limits inputs).total + (totalsOf d limits more).total
      accepted := (totalsOf d limits inputs).accepted + (totalsOf d limits more).accepted
      rejected := (totalsOf d limits inputs).rejected + (totalsOf d limits more).rejected
      halted := (totalsOf d limits inputs).halted + (totalsOf d limits more).halted
      invalid := (totalsOf d limits inputs).invalid + (totalsOf d limits more).invalid } := by
  simp [totalsOf]

section Batch

variable {batch : List String} {results : List (Result Char)}

variable (limits) in
/-- The refused inputs of a batch have the entries of these inputs. -/
theorem refused_entries (batch : List String) :
    (refused d batch).map (refusedEntry d.name) = (batch.filter (isRefused d)).map (entryOf d limits) := by
  induction batch with
  | nil => rfl
  | cons s batch ih =>
      cases hread : d.readInput (.str s) with
      | ok input =>
          have htaken : isRefused d s = false := by simp [isRefused, hread, Except.toBool]
          rw [List.filter_cons_of_neg (by simp [htaken]), ← ih]
          simp [refused, hread]
      | error e =>
          have hrefused : isRefused d s = true := by simp [isRefused, hread, Except.toBool]
          rw [List.filter_cons_of_pos hrefused, List.map_cons, ← ih]
          simp [refused, hread, entryOf, Definition.run_of_refused hread]

theorem length_refused (batch : List String) : (refused d batch).length = batch.countP (isRefused d) := by
  have hlength := congrArg List.length (refused_entries (d := d) {} batch)
  rwa [List.length_map, List.length_map, ← List.countP_eq_length_filter] at hlength

theorem taken_eq (batch : List String) : taken d batch = batch.filter (!isRefused d ·) := by
  unfold taken isRefused
  simp

/-- Inputs that the machine takes can be read. -/
theorem exists_readInput_taken (d : Definition) (batch : List String) :
    ∀ v ∈ (taken d batch).map Json.str, ∃ input, d.readInput v = .ok input := by
  intro v hv
  obtain ⟨s, hs, rfl⟩ := List.mem_map.mp hv
  have htaken := (List.mem_filter.mp hs).2
  cases hread : d.readInput (.str s) with
  | ok input => exact ⟨input, rfl⟩
  | error _ => rw [hread] at htaken; cases htaken

variable (h : results.map .ok = (taken d batch).map fun s => d.run (.str s) limits)
include h

theorem result_entries :
    results.map (resultEntry d.name) = (batch.filter (!isRefused d ·)).map (entryOf d limits) := by
  rw [taken_eq] at h
  refine map_eq_of_map_ok h fun s r hr => ?_
  rw [entryOf, hr]

/-- **A batch has the entries of its inputs**, the refused ones first. -/
theorem entries_perm : (entries d.name (refused d batch) results).Perm (batch.map (entryOf d limits)) := by
  rw [entries, refused_entries limits, result_entries h, ← List.map_append]
  exact (List.filter_append_perm _ _).map _

theorem count_outcome (outcome : Outcome) :
    (results.map (·.outcome)).count outcome = batch.countP (outcome? d limits · = some outcome) := by
  rw [taken_eq] at h
  have houtcomes : results.map (fun r => some r.outcome) =
      (batch.filter (!isRefused d ·)).map (outcome? d limits) :=
    map_eq_of_map_ok h fun s r hr => outcome?_of_run hr
  calc (results.map (·.outcome)).count outcome
      = (results.map fun r => some r.outcome).count (some outcome) := by
        rw [List.count_eq_countP, List.count_eq_countP, List.countP_map, List.countP_map]
        congr 1
    _ = (batch.filter (!isRefused d ·)).countP (outcome? d limits · = some outcome) := by
        rw [houtcomes, List.count_eq_countP, List.countP_map]
        refine List.countP_congr fun s _ => ?_
        simp
    _ = batch.countP (outcome? d limits · = some outcome) := by
        rw [List.countP_filter]
        refine List.countP_congr fun s _ => ?_
        have htaken : outcome? d limits s = some outcome → isRefused d s = false := fun hs => by
          rw [Bool.eq_false_iff, ne_eq, isRefused_iff limits, hs]
          simp
        simpa using htaken

/-- **A batch adds the counts of its inputs** to the totals of others. -/
theorem totalsOf_add (inputs : List String) :
    (totalsOf d limits inputs).add (summarize (results.map (·.outcome))) (refused d batch).length =
      totalsOf d limits (inputs ++ batch) := by
  have htotal : results.length + batch.countP (isRefused d) = batch.length := by
    have hlength := congrArg List.length (result_entries h)
    rw [List.length_map, List.length_map, ← List.countP_eq_length_filter] at hlength
    rw [hlength, List.length_eq_countP_add_countP (p := isRefused d), Nat.add_comm]
    simp
  rw [totalsOf_append, Totals.add, length_refused]
  simp only [summarize, List.length_map, count_outcome h, Totals.mk.injEq]
  refine ⟨?_, rfl, rfl, rfl, rfl⟩
  simp only [totalsOf]
  omega

end Batch

end Inputs

/-! ## 3. The batches of a list -/

theorem flatten_parts {α : Type} (size : Nat) (xs : List α) : (parts size xs).flatten = xs := by
  fun_induction parts size xs with
  | case1 => rfl
  | case2 x xs ih => rw [List.flatten_cons, ih, List.cons_append, List.take_append_drop]

/-- **The batches are the inputs, one after the other.** -/
theorem flatten_batches {α : Type} {size : Int} (hsize : 1 ≤ size) (xs : List α) : (batches size xs).flatten = xs := by
  obtain ⟨n, rfl⟩ : ∃ n : Nat, size = .ofNat (n + 1) := ⟨(size - 1).toNat, by
    show size = ((_ + 1 : Nat) : Int)
    omega⟩
  exact flatten_parts n xs

theorem ne_nil_of_mem_parts {α : Type} {size : Nat} {xs part : List α} (h : part ∈ parts size xs) : part ≠ [] := by
  fun_induction parts size xs with
  | case1 => cases h
  | case2 x xs ih =>
      obtain rfl | h := List.mem_cons.mp h
      · exact List.cons_ne_nil _ _
      · exact ih h

/-- No batch is empty. -/
theorem ne_nil_of_mem_batches {size : Int} {inputs batch : List String} (h : batch ∈ batches size inputs) :
    batch ≠ [] := by
  unfold batches at h
  split at h
  · exact ne_nil_of_mem_parts h
  · cases h

/-- A negative size of batches makes no batches. -/
theorem batches_of_neg {size : Int} (hsize : size < 0) (inputs : List String) : batches size inputs = [] := by
  unfold batches
  split
  · exact absurd hsize (Int.not_lt.mpr (Int.natCast_nonneg _))
  · rfl

/-! ## 4. The tasks of a run -/

/-- The inputs that some tasks run. -/
def simulated (tasks : List Task) : List String :=
  tasks.flatMap fun
    | .simulate _ batch => batch
    | .record _ => []

/-- The inputs that some tasks write into the checkpoint. -/
def recorded (tasks : List Task) : List String :=
  tasks.flatMap fun
    | .simulate _ _ => []
    | .record batch => batch

/-- Whether some tasks end with writing the checkpoint, if there are any. -/
def EndsRecorded (tasks : List Task) : Prop :=
  ∀ task, tasks.getLast? = some task → ∃ batch, task = .record batch

/-- The tasks for some batches, of which the first one comes behind a number of others. -/
def tasksFrom (number : Nat) (groups : List (List String)) : List Task :=
  (groups.zipIdx number).flatMap fun (batch, index) => [.simulate (index + 1) batch, .record batch]

theorem tasksFrom_cons (number : Nat) (batch : List String) (groups : List (List String)) :
    tasksFrom number (batch :: groups) =
      .simulate (number + 1) batch :: .record batch :: tasksFrom (number + 1) groups := rfl

theorem tasksFrom_append (number : Nat) (groups more : List (List String)) :
    tasksFrom number (groups ++ more) = tasksFrom number groups ++ tasksFrom (number + groups.length) more := by
  rw [tasksFrom, List.zipIdx_append, List.flatMap_append]
  rfl

theorem mem_tasksFrom {number index : Nat} {groups : List (List String)} {batch : List String}
    (h : .simulate index batch ∈ tasksFrom number groups) : batch ∈ groups := by
  induction groups generalizing number with
  | nil => cases h
  | cons group groups ih =>
      rw [tasksFrom_cons] at h
      obtain heq | hmem := List.mem_cons.mp h
      · cases heq
        exact List.mem_cons_self
      · exact List.mem_cons_of_mem _ (ih ((List.mem_cons.mp hmem).resolve_left nofun))

/-- The tasks for batches go through their inputs and remember them. -/
theorem all_tasksFrom (number : Nat) (groups : List (List String)) :
    simulated (tasksFrom number groups) = groups.flatten ∧ recorded (tasksFrom number groups) = groups.flatten := by
  induction groups generalizing number with
  | nil => exact ⟨rfl, rfl⟩
  | cons batch groups ih =>
      obtain ⟨hsimulated, hrecorded⟩ := ih (number + 1)
      rw [tasksFrom_cons]
      constructor
      · simpa [simulated] using hsimulated
      · simpa [recorded] using hrecorded

/-- Some first tasks for batches. -/
theorem take_tasksFrom (number : Nat) (groups : List (List String)) (n : Nat) : ∃ extra rest,
    let tasks := (tasksFrom number groups).take n
    simulated tasks = recorded tasks ++ extra ∧ groups.flatten = recorded tasks ++ extra ++ rest ∧
      (EndsRecorded tasks → extra = []) := by
  induction groups generalizing number n with
  | nil => exact ⟨[], [], by simp [tasksFrom, simulated, recorded]⟩
  | cons batch groups ih =>
      rw [tasksFrom_cons]
      match n with
      | 0 => exact ⟨[], batch ++ groups.flatten, by simp [simulated, recorded]⟩
      | 1 =>
          refine ⟨batch, groups.flatten, by simp [simulated, recorded], by simp [recorded], fun hends => ?_⟩
          obtain ⟨_, heq⟩ := hends (.simulate (number + 1) batch) (by simp)
          cases heq
      | n + 2 =>
          obtain ⟨extra, rest, hsimulated, hflatten, hends⟩ := ih (number + 1) n
          refine ⟨extra, rest, ?_, ?_, fun hlast => hends fun task htask => hlast task ?_⟩
          · simpa [simulated, recorded] using hsimulated
          · simpa [recorded] using hflatten
          · simp [List.getLast?_cons, htask]

/-- **Wherever a run is interrupted, the inputs that its checkpoint knows of have been run**, and the others of those
    that have been run follow them in the pool; after a checkpoint was written, there are none. -/
theorem take_tasks {size : Int} (hsize : 1 ≤ size) (inputs : List String) (n : Nat) : ∃ extra rest,
    simulated ((tasks size inputs).take n) = recorded ((tasks size inputs).take n) ++ extra ∧
      inputs = recorded ((tasks size inputs).take n) ++ extra ++ rest ∧
      (EndsRecorded ((tasks size inputs).take n) → extra = []) := by
  obtain ⟨extra, rest, hsimulated, hflatten, hends⟩ := take_tasksFrom 0 (batches size inputs) n
  rw [flatten_batches hsize] at hflatten
  exact ⟨extra, rest, hsimulated, hflatten, hends⟩

end TapeMachine.Pool
