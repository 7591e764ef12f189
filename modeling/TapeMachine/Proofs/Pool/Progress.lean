import TapeMachine.Proofs.Json.RoundTrip
import TapeMachine.Proofs.Machine.Loading
import TapeMachine.Proofs.Pool.Entries
import TapeMachine.Proofs.Workspace.Paths
/-!
# How far a pool run has come

A pool run does one task after the other, each of which writes one file. What it has counted, what stands in its
results and what its checkpoint remembers follow at any time from the inputs that it has gone through.

* `Pool.Plan`, `Pool.Plan.Ready` : what is to be run, apart from how it is shared out, and files in which it can be;
* `Pool.Remembers`, `Pool.ends_loadCheckpoint` : **a checkpoint remembers what was written into it**;
* `Pool.Plan.Ready.leaves_prepare` : what a run starts from;
* `Pool.Plan.Succeeds`, `Pool.Plan.succeeds` : batches whose runs all have results, which is every batch of a plan;
* `Pool.Progress` : **the invariant**: totals, entries and checkpoint are those of the inputs gone through;
* `Pool.Progress.perform`, `Pool.Progress.foldlM` : each task keeps it, and so do any tasks one after the other;
* `Pool.Plan.Ready.leaves_runSome` : **what a run leaves that does some of its tasks.**
-/

namespace TapeMachine.Pool

open Job FileTree

variable {files tree before now : FileTree} {clock : Timestamp}

/-! ## 1. Checkpoints -/

/-- The text of a checkpoint that remembers some inputs. -/
def checkpointText (completed : List String) : String :=
  Json.renderIndented (.obj [("completed", .arr (completed.map .str))])

/-- What the checkpoint at a place remembers: nothing when there is none. -/
def Remembers (tree : FileTree) (place : List String) (completed : List String) : Prop :=
  (tree.node? place = none ∧ completed = []) ∨ tree.node? place = some (.file (checkpointText completed))

section Checkpoint

variable {path : Path} {place completed : List String}

/-- **A checkpoint remembers what was written into it.** -/
theorem ends_loadCheckpoint (hopens : tree.Opens path.text place) (h : Remembers tree place completed) :
    (loadCheckpoint path).Ends tree clock (.ok (.arr (completed.map .str))) tree [] := by
  unfold loadCheckpoint
  rcases h with ⟨hnone, rfl⟩ | hfile
  · refine (ends_asked (hopens.probe_of_none hnone)).andThen ?_
    rw [if_neg (by simp)]
    exact ends_pure
  · refine (ends_asked (hopens.probe_of_file hfile)).andThen ?_
    rw [if_pos rfl]
    have hread := hopens.readText_of_file hfile
    rw [checkpointText, Json.unifyNewlines_renderIndented, String.ofList_toList] at hread
    refine (ends_readText hread).andThen
      ((ends_ok (a := .obj [("completed", .arr (completed.map .str))]) ?_).andThen (ends_ok ?_))
    · rw [Json.read_texts]
      rfl
    · rfl

theorem ends_saveCheckpoint (hopens : tree.Opens path.text place) :
    (saveCheckpoint (.arr (completed.map .str)) path).Ends tree clock (.ok ())
      (tree.set place (.file (checkpointText completed))) [] := by
  unfold saveCheckpoint Job.overwrite
  exact ends_changeFiles (hopens.overwrite_eq _)

theorem remembered_texts (completed : List String) :
    remembered (.arr (completed.map .str)) = .ok (completed.map .str) := by
  show (completed.map Json.str).mapM Json.asKey = _
  induction completed with
  | nil => rfl
  | cons s completed ih =>
      rw [List.map_cons, List.mapM_cons, ih]
      rfl

end Checkpoint

/-- The inputs that are not completed, in their order and as often as they occur. -/
def left (completed inputs : List String) : List String :=
  inputs.filter (· ∉ completed)

theorem mem_left {completed inputs : List String} {s : String} :
    s ∈ left completed inputs ↔ s ∈ inputs ∧ s ∉ completed := by
  simp [left]

/-- An input that is not left is completed. -/
theorem mem_listed {inputs : List String} {s : String} (hs : s ∈ inputs) (completed : List String) :
    s ∈ completed ++ left completed inputs := by
  by_cases hcompleted : s ∈ completed
  · exact List.mem_append_left _ hcompleted
  · exact List.mem_append_right _ (mem_left.mpr ⟨hs, hcompleted⟩)

theorem pending_texts (completed inputs : List String) :
    pending (completed.map .str) inputs = left completed inputs := by
  refine List.filter_congr fun s _ => ?_
  simp

/-! ## 2. Plans -/

/-- What a message is shown as, with the name of the working directory. -/
def messageLines (files : FileTree) (text : String) : List Event :=
  (Text.shownLines (String.join ["[", files.work.getLastD "", "] ", text])).map .line

theorem ends_message (text : String) :
    (message text).Ends files clock (.ok ()) files (messageLines files text) :=
  ends_files.andThen (ends_say _)

theorem shows_message (text : String) : (message text).Shows () :=
  fun _ _ => (ends_message text).leaves

/-- What is to be run, apart from how it is shared out among batches and workers. -/
structure Plan where
  machine : String
  pool : String
  outputName : Json
  resultsRoot : String
  maxSteps : Nat
  leftBounded : Json

namespace Plan

variable (plan : Plan)

/-- The request for a plan in batches, with some workers. -/
def request (size workers : Int) : Request :=
  { machineFile := .str plan.machine
    poolFile := .str plan.pool
    outputName := plan.outputName
    resultsRoot := .str plan.resultsRoot
    batchSize := .int size
    options := { maxSteps := .int plan.maxSteps, leftBounded := plan.leftBounded, workers := .int workers } }

/-- The limits of each run. -/
def limits : Limits :=
  { maxSteps := plan.maxSteps, leftBounded := plan.leftBounded.truthy }

/-- The directory of the results. -/
def folder : Path :=
  Pool.folder (Path.ofText plan.resultsRoot) (Path.ofText plan.pool)

def resultsPath : Path :=
  Pool.resultsPath plan.folder plan.outputName

def checkpointPath : Path :=
  Pool.checkpointPath plan.folder plan.outputName

/-- Files in which a plan can be run: those of the machine and of the pool are there, the directory of the results is
there or can be made, and nothing is in the way of the results and of the checkpoint. -/
structure Ready (files prepared : FileTree) (d : Definition) (inputs results checkpoint : List String) : Prop where
  machine : d.StoredAt files plan.machine
  pool : ∃ text, files.readText plan.pool = .ok text ∧ inputsOf text = inputs
  folder : files.makePath plan.folder = (prepared, .ok ())
  results : prepared.Opens plan.resultsPath.text results
  checkpoint : prepared.Opens plan.checkpointPath.text checkpoint

variable {plan} {prepared : FileTree} {d : Definition} {inputs results checkpoint completed : List String}

/-- **The results and the checkpoint are different files**, whatever name the output has. -/
theorem Ready.results_ne (h : plan.Ready files prepared d inputs results checkpoint) : results ≠ checkpoint := by
  have hresults : plan.resultsPath.text.toList.getLast? = some 'l' :=
    Path.text_join_end _ (by simp) (by decide) (by decide)
  have hcheckpoint : plan.checkpointPath.text.toList.getLast? = some 'n' :=
    Path.text_join_end _ (by simp) (by decide) (by decide)
  obtain ⟨name, hname, hend⟩ := locate_end h.results.located hresults (by decide) (by decide)
  obtain ⟨name', hname', hend'⟩ := locate_end h.checkpoint.located hcheckpoint (by decide) (by decide)
  rintro rfl
  rw [hname] at hname'
  cases hname'
  rw [hend] at hend'
  cases hend'

/-! ## 3. What a run starts from -/

variable (plan d results checkpoint completed) in
/-- The run of a plan before its first task, with some options. -/
def started (inputs : List String) (options : BatchOptions) : Prepared :=
  { definition := d
    options
    places := ⟨results, plan.checkpointPath⟩
    pending := left completed inputs
    state := { totals := .zero, completed := .arr (completed.map .str) } }

theorem Ready.addsDirectories (h : plan.Ready files tree d inputs results checkpoint) : files.AddsDirectories tree := by
  have hadds := addsDirectories_makePath files plan.folder
  rwa [h.folder] at hadds

/-- The checkpoint is that of the files before its directory was made. -/
theorem Ready.remembers (h : plan.Ready files tree d inputs results checkpoint)
    (hcompleted : Remembers files checkpoint completed) : Remembers tree checkpoint completed := by
  rwa [Remembers, h.addsDirectories.node?_eq h.checkpoint.free]

/-- **A run starts with the inputs that its checkpoint does not remember**, and with its results open. -/
theorem Ready.leaves_prepare (h : plan.Ready files tree d inputs results checkpoint)
    (hcompleted : Remembers files checkpoint completed) (size workers : Int) (options : BatchOptions) :
    (prepare { plan.request size workers with options }).Leaves files clock
      (.ok (plan.started d results completed inputs options))
      (tree.set results (.file (tree.textAt results))) := by
  obtain ⟨text, hread, hinputs⟩ := h.pool
  have hpool : (readInputs (.str plan.pool)).Ends tree clock (.ok inputs) tree [] := by
    rw [← hinputs]
    exact (ends_ok rfl).bind ((ends_readText (h.addsDirectories.grows.readText hread)).bind ends_pure)
  have hpath (text : String) : (Path.ofJson (.str text)).Ends files clock (.ok (Path.ofText text)) files [] :=
    (ends_ok rfl).bind ends_pure
  unfold prepare
  refine h.machine.load.leaves.bind ?_
  refine (hpath plan.pool).leaves.bind ?_
  refine (hpath plan.resultsRoot).leaves.bind ?_
  refine (ends_tryFiles (f := (·.makePath plan.folder)) h.folder).leaves.bind ?_
  refine hpool.leaves.bind ?_
  refine (ends_loadCheckpoint h.checkpoint (h.remembers hcompleted)).leaves.bind ?_
  refine (ends_ok (a := completed.map .str) (by rw [remembered_texts]; rfl)).leaves.bind ?_
  rw [pending_texts]
  refine (shows_message _ _ _).bind ?_
  refine (ends_asked (f := (·.openForAppend plan.resultsPath.text)) h.results.openForAppend_eq).leaves.bind ?_
  exact ends_setFiles.leaves.bind ends_pure.leaves

variable (plan d) in
/-- Whether the inputs of a batch that the machine takes have their results with some options. -/
def Succeeds (options : BatchOptions) (batch : List String) : Prop :=
  ∃ found, d.runAll ((taken d batch).map .str) options = .ok found ∧
    found.map .ok = (taken d batch).map fun s => d.run (.str s) plan.limits

/-- Every batch succeeds with the options of the plan. -/
theorem succeeds (plan : Plan) (d : Definition) (size workers : Int) (batch : List String) :
    plan.Succeeds d (plan.request size workers).options batch := by
  have hsteps : (plan.request size workers).options.maxSteps = .int plan.maxSteps := rfl
  obtain ⟨found, hfound, hmap⟩ := Definition.runAll_ok (exists_readInput_taken d batch) hsteps rfl
  refine ⟨found, hfound, ?_⟩
  rw [hmap, List.map_map]
  rfl

end Plan

/-! ## 4. The invariant -/

/-- **How far a run has come**: the inputs `entered` have their entries behind the results that were there before, and
those of `saved` are in the checkpoint behind the ones that were completed before. Nothing else has changed. -/
structure Progress (plan : Plan) (d : Definition) (results checkpoint completed : List String) (before : FileTree)
    (entered saved : List String) (state : State) (now : FileTree) : Prop where
  totals_eq : state.totals = totalsOf d plan.limits entered
  completed_eq : state.completed = .arr ((completed ++ saved).map .str)
  entries_eq : ∃ entries, entries.Perm (entered.map (entryOf d plan.limits)) ∧
    now.node? results = some (.file (before.textAt results ++ linesOfEntries entries))
  remembers : Remembers now checkpoint (completed ++ saved)
  work : now.work = before.work
  others : ∀ place, place ≠ results → place ≠ checkpoint → now.node? place = before.node? place

theorem linesOfEntries_append (entries more : List Json) :
    linesOfEntries (entries ++ more) = linesOfEntries entries ++ linesOfEntries more := by
  simp [linesOfEntries]

theorem Remembers.free {place completed : List String} (h : Remembers tree place completed) :
    tree.node? place ≠ some .directory := by
  rcases h with ⟨hnone, _⟩ | hfile
  · rw [hnone]
    simp
  · rw [hfile]
    simp

namespace Progress

variable {plan : Plan} {d : Definition} {inputs results checkpoint completed entered saved : List String}
  {state : State}

/-- A run that has only opened its results. -/
theorem start (hready : plan.Ready files before d inputs results checkpoint)
    (hcompleted : Remembers files checkpoint completed) :
    Progress plan d results checkpoint completed before [] [] ⟨.zero, .arr (completed.map .str)⟩
      (before.set results (.file (before.textAt results))) where
  totals_eq := rfl
  completed_eq := by rw [List.append_nil]
  entries_eq := ⟨[], .refl _, by
    rw [node?_set (ne_nil_of_free hready.results.free), if_pos rfl]
    simp [linesOfEntries]⟩
  remembers := by
    rw [List.append_nil, Remembers, node?_set (ne_nil_of_free hready.results.free), if_neg hready.results_ne]
    exact hready.remembers hcompleted
  work := rfl
  others := fun place hresults _ => by rw [node?_set (ne_nil_of_free hready.results.free), if_neg (Ne.symm hresults)]

variable (hready : plan.Ready files before d inputs results checkpoint)
  (h : Progress plan d results checkpoint completed before entered saved state now)
include h

theorem results_free : now.node? results ≠ some .directory := by
  obtain ⟨_, _, hfile⟩ := h.entries_eq
  rw [hfile]
  simp

include hready

theorem keepsDirectories : before.KeepsDirectories now where
  work := h.work
  directories := fun place hplace => by
    rw [h.others place ?_ ?_, hplace]
    · rintro rfl
      exact hready.results.free hplace
    · rintro rfl
      exact hready.checkpoint.free hplace

variable {options : BatchOptions} {batch : List String}

variable (clock) in
/-- The inputs of a batch that succeeds get their entries. -/
theorem simulate (number : Nat) (hbatch : plan.Succeeds d options batch) : ∃ totals after,
    (Pool.simulate (plan.started d results completed inputs options) number batch state.totals).Leaves now clock
        (.ok totals) after ∧
      Progress plan d results checkpoint completed before (entered ++ batch) saved { state with totals } after := by
  obtain ⟨found, hfound, hmap⟩ := hbatch
  obtain ⟨entries, hperm, hfile⟩ := h.entries_eq
  refine ⟨state.totals.add (summarize (found.map (·.outcome))) (refused d batch).length,
    now.appendAt results (linesOfEntries (Pool.entries d.name (refused d batch) found)), ?_, ?_⟩
  · unfold Pool.simulate
    refine (shows_message _ _ _).bind ?_
    refine (shows_say _ _ _).bind ?_
    refine (shows_forM (fun r _ => (shows_message _).bind (shows_say _)) _ _).bind ?_
    refine (ends_ok hfound).leaves.bind ?_
    refine (shows_say _ _ _).bind ?_
    refine ends_files.leaves.bind ?_
    exact ends_setFiles.leaves.bind ends_pure.leaves
  · rw [appendAt_eq h.results_free, textAt_of_file hfile]
    have hne := ne_nil_of_free h.results_free
    refine ⟨?_, h.completed_eq, ⟨entries ++ Pool.entries d.name (refused d batch) found, ?_, ?_⟩, ?_, h.work, ?_⟩
    · show Totals.add _ _ _ = _
      rw [h.totals_eq]
      exact totalsOf_add hmap entered
    · rw [List.map_append]
      exact hperm.append (entries_perm hmap)
    · rw [node?_set hne, if_pos rfl, linesOfEntries_append, String.append_assoc]
    · rw [Remembers, node?_set hne, if_neg hready.results_ne]
      exact h.remembers
    · intro place hresults hcheckpoint
      rw [node?_set hne, if_neg (Ne.symm hresults)]
      exact h.others place hresults hcheckpoint

variable (clock) in
/-- The inputs of a batch come into the checkpoint. -/
theorem record (options : BatchOptions) (batch : List String) : ∃ remembered after,
    (Pool.record (plan.started d results completed inputs options) batch state.completed).Leaves now clock
        (.ok remembered) after ∧
      Progress plan d results checkpoint completed before entered (saved ++ batch)
        { state with completed := remembered } after := by
  have hopens : now.Opens plan.checkpointPath.text checkpoint :=
    hready.checkpoint.of_keeps (h.keepsDirectories hready) h.remembers.free
  have hne := ne_nil_of_free h.remembers.free
  have hremember : remember state.completed batch = .ok (.arr ((completed ++ saved ++ batch).map .str)) := by
    rw [h.completed_eq, remember, ← List.map_append]
  refine ⟨.arr ((completed ++ saved ++ batch).map .str),
    now.set checkpoint (.file (checkpointText (completed ++ saved ++ batch))), ?_, ?_⟩
  · unfold Pool.record
    refine (ends_ok (a := .arr ((completed ++ saved ++ batch).map .str)) (by rw [hremember]; rfl)).leaves.bind ?_
    refine (ends_saveCheckpoint hopens).leaves.bind ?_
    exact (shows_message _ _ _).bind ends_pure.leaves
  · obtain ⟨entries, hperm, hfile⟩ := h.entries_eq
    refine ⟨h.totals_eq, ?_, ⟨entries, hperm, ?_⟩, .inr ?_, h.work, ?_⟩
    · rw [List.append_assoc]
    · rw [node?_set hne, if_neg (Ne.symm hready.results_ne), hfile]
    · rw [node?_set hne, if_pos rfl, List.append_assoc]
    · intro place hresults hcheckpoint
      rw [node?_set hne, if_neg (Ne.symm hcheckpoint)]
      exact h.others place hresults hcheckpoint

variable (clock) in
/-- **Each task keeps the invariant**, when its batch succeeds. -/
theorem perform (task : Task) (htask : ∀ number batch, task = .simulate number batch → plan.Succeeds d options batch) :
    ∃ state' after,
      (Pool.perform (plan.started d results completed inputs options) state task).Leaves now clock (.ok state') after ∧
        Progress plan d results checkpoint completed before (entered ++ simulated [task]) (saved ++ recorded [task])
          state' after := by
  cases task with
  | simulate number batch =>
      obtain ⟨totals, after, hleaves, hprogress⟩ := h.simulate clock hready number (htask number batch rfl)
      refine ⟨_, after, hleaves.bind ends_pure.leaves, ?_⟩
      simpa [simulated, recorded] using hprogress
  | record batch =>
      obtain ⟨remembered, after, hleaves, hprogress⟩ := h.record clock hready options batch
      refine ⟨_, after, hleaves.bind ends_pure.leaves, ?_⟩
      simpa [simulated, recorded] using hprogress

variable (clock) in
/-- **Any tasks one after the other keep it**; no task at all changes nothing. -/
theorem foldlM (tasks : List Task)
    (htasks : ∀ number batch, .simulate number batch ∈ tasks → plan.Succeeds d options batch) : ∃ state' after,
    (tasks.foldlM (Pool.perform (plan.started d results completed inputs options)) state).Leaves now clock
        (.ok state') after ∧
      Progress plan d results checkpoint completed before (entered ++ simulated tasks) (saved ++ recorded tasks)
        state' after ∧
      (tasks = [] → after = now) := by
  induction tasks generalizing state now entered saved with
  | nil => exact ⟨state, now, ends_pure.leaves, by simpa [simulated, recorded] using h, fun _ => rfl⟩
  | cons task tasks ih =>
      obtain ⟨middle, files, hfirst, hprogress⟩ :=
        h.perform clock hready task fun number batch heq => htasks number batch (by simp [heq])
      obtain ⟨last, after, hrest, hall, _⟩ := ih hprogress fun number batch hmem => htasks number batch (by simp [hmem])
      refine ⟨last, after, ?_, ?_, fun hnil => by cases hnil⟩
      · rw [List.foldlM_cons]
        exact hfirst.bind hrest
      · simpa [simulated, recorded] using hall

end Progress

/-! ## 5. Runs -/

section Runs

variable {plan : Plan} {d : Definition} {inputs results checkpoint completed : List String} {size : Int}
  (hready : plan.Ready files before d inputs results checkpoint) (hcompleted : Remembers files checkpoint completed)
include hready hcompleted

/-- A run does what its tasks do, once it is prepared. -/
theorem Plan.Ready.leaves_of_tasks (hsize : size ≠ 0) (workers : Int) (options : BatchOptions)
    (choose : List Task → List Task) {result : Except Error State} {after : FileTree}
    (h : ((choose (tasks size (left completed inputs))).foldlM
        (perform (plan.started d results completed inputs options)) ⟨.zero, .arr (completed.map .str)⟩).Leaves
      (before.set results (.file (before.textAt results))) clock result after) :
    (runSome choose { plan.request size workers with options }).Leaves files clock result after := by
  have hbatch : batchSize (.int size) = .ok size := by
    simp [batchSize, hsize, bind, Except.bind]
  unfold runSome
  refine (hready.leaves_prepare hcompleted size workers options).bind ?_
  exact (ends_ok hbatch).leaves.bind h

variable (clock) in
/-- **What a run leaves that does some of its tasks**: the inputs of these tasks, and no others, have their entries and
are in the checkpoint. Without any task it has only opened its results. -/
theorem Plan.Ready.leaves_runSome (hsize : size ≠ 0) (workers : Int) (choose : List Task → List Task) :
    ∃ state after, (runSome choose (plan.request size workers)).Leaves files clock (.ok state) after ∧
      Progress plan d results checkpoint completed before (simulated (choose (tasks size (left completed inputs))))
        (recorded (choose (tasks size (left completed inputs)))) state after ∧
      (choose (tasks size (left completed inputs)) = [] →
        after = before.set results (.file (before.textAt results))) := by
  obtain ⟨state, after, hleaves, hprogress⟩ := (Progress.start hready hcompleted).foldlM clock hready
    (choose (tasks size (left completed inputs))) fun _ batch _ => plan.succeeds d size workers batch
  exact ⟨state, after, hready.leaves_of_tasks hcompleted hsize workers _ choose hleaves, hprogress⟩

end Runs

end TapeMachine.Pool
