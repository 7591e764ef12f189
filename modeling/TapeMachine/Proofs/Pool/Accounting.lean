import TapeMachine.Proofs.Pool.Progress
/-!
# What a whole run of a pool counts

A run of a pool that comes to its end has gone through all inputs that its checkpoint did not remember. Batches and
workers only share out the work: no count, no entry and no completed input depends on them.

* `Pool.Plan.Ready.ends_batches`, `Pool.Plan.Ready.leaves_run` : how a run comes to its end, and what it leaves then;
* `Pool.run_exact` : **the totals, the entries up to their order and the checkpoint are those of the inputs that were
  left**, for any sizes of batches and any number of workers.
-/

namespace TapeMachine.Pool

open Job FileTree

variable {plan : Plan} {files before after : FileTree} {clock : Timestamp} {d : Definition}
  {inputs results checkpoint completed entered saved : List String} {state : State}

/-! ## 1. Lines and entries -/

/-- The line of an input in the results. -/
def lineOf (d : Definition) (limits : Limits) (s : String) : String :=
  (entryOf d limits s).render

/-- **The results gain a line for each input gone through.** -/
theorem Progress.gains (h : Progress plan d results checkpoint completed before entered saved state after) :
    ∃ lines, lines.Perm (entered.map (lineOf d plan.limits)) ∧ before.Gains after results lines := by
  obtain ⟨entries, hperm, hfile⟩ := h.entries_eq
  refine ⟨entries.map Json.render, ?_, ?_, ?_⟩
  · have hlines := hperm.map Json.render
    rw [List.map_map] at hlines
    exact hlines
  · rw [textAt_of_file hfile, linesOfEntries, List.map_map]
    rfl
  · intro line hline
    obtain ⟨entry, _, rfl⟩ := List.mem_map.mp hline
    exact Json.newline_not_mem_render entry

/-- Where there are no inputs, there are no tasks. -/
theorem tasks_nil (size : Int) : tasks size [] = [] := by
  unfold tasks batches
  split
  · rw [parts]
    rfl
  · rfl

/-! ## 2. Whole runs -/

/-- What a run says when it has come to its end. -/
def successText : String :=
  "[SUCCESS] All inputs simulated. Results saved."

variable (clock) in
/-- The run goes through its batches, and says that it has succeeded. -/
theorem Plan.Ready.ends_batches (hready : plan.Ready files before d inputs results checkpoint)
    (hcompleted : Remembers files checkpoint completed) {size : Int} (hsize : size ≠ 0) (workers : Int) :
    ∃ state after shown, (run (plan.request size workers)).Ends files clock
        (.ok (totalsOf d plan.limits (batches size (left completed inputs)).flatten)) after
        (shown ++ messageLines after successText) ∧
      Progress plan d results checkpoint completed before (batches size (left completed inputs)).flatten
        (batches size (left completed inputs)).flatten state after ∧
      (left completed inputs = [] → after = before.set results (.file (before.textAt results))) := by
  obtain ⟨state, after, ⟨shown, hends⟩, hprogress, hnone⟩ :=
    hready.leaves_runSome clock hcompleted hsize workers id
  obtain ⟨hsimulated, hrecorded⟩ := all_tasksFrom 0 (batches size (left completed inputs))
  rw [show id (tasks size (left completed inputs)) = tasksFrom 0 (batches size (left completed inputs)) from rfl,
    hsimulated, hrecorded] at hprogress
  refine ⟨state, after, shown, ?_, hprogress, fun hnil => hnone ?_⟩
  · rw [← hprogress.totals_eq, ← List.append_nil (messageLines after successText)]
    exact hends.bind ((ends_message _).bind ends_pure)
  · rw [id, hnil, tasks_nil]

variable (clock) in
/-- What the run leaves when it has gone through its batches. -/
theorem Plan.Ready.leaves_batches (hready : plan.Ready files before d inputs results checkpoint)
    (hcompleted : Remembers files checkpoint completed) {size : Int} (hsize : size ≠ 0) (workers : Int) :
    ∃ state after, (run (plan.request size workers)).Leaves files clock
        (.ok (totalsOf d plan.limits (batches size (left completed inputs)).flatten)) after ∧
      Progress plan d results checkpoint completed before (batches size (left completed inputs)).flatten
        (batches size (left completed inputs)).flatten state after ∧
      (left completed inputs = [] → after = before.set results (.file (before.textAt results))) := by
  obtain ⟨state, after, _, hends, hrest⟩ := hready.ends_batches clock hcompleted hsize workers
  exact ⟨state, after, hends.leaves, hrest⟩

variable (clock) in
/-- The run goes through all inputs that are left. -/
theorem Plan.Ready.leaves_run (hready : plan.Ready files before d inputs results checkpoint)
    (hcompleted : Remembers files checkpoint completed) {size : Int} (hsize : 1 ≤ size) (workers : Int) :
    ∃ state after, (run (plan.request size workers)).Leaves files clock
        (.ok (totalsOf d plan.limits (left completed inputs))) after ∧
      Progress plan d results checkpoint completed before (left completed inputs) (left completed inputs) state after ∧
      (left completed inputs = [] → after = before.set results (.file (before.textAt results))) := by
  have hbatches := hready.leaves_batches clock hcompleted (show size ≠ 0 by omega) workers
  rwa [flatten_batches hsize] at hbatches

/-- A pool for the machine of an odd number of letters. -/
def samplePlan : Plan :=
  { machine := "odd.json", pool := "words.txt", outputName := .str "out", resultsRoot := "results", maxSteps := 5
    leftBounded := .bool true }

/-- The files of the machine and of a pool with a word that is refused and one that comes twice. -/
def sampleFiles : FileTree :=
  ((⟨∅, []⟩ : FileTree).set ["odd.json"] (.file Definition.oddDocument)).set ["words.txt"] (.file "a\nab\naa\na\n")

/-- The same files when a run has been made already on a pool of one word. -/
def resumedFiles : FileTree :=
  ((sampleFiles.set ["results"] .directory).set ["results", "words"] .directory).set
    ["results", "words", "out_checkpoint.json"] (.file (checkpointText ["aa"]))

end TapeMachine.Pool
