import TapeMachine.Proofs.Pool.Accounting
/-!
# Runs of a pool that fail

A negative number of steps is noticed only when there is something to run, so batches whose inputs are all refused come
through, and the run fails at the first batch with an input that the machine takes. A batch writes nothing before all
its runs are over. So the results and the checkpoint stay in step: both know of the batches before the one that failed,
and of no input of that one.

* `Pool.isRefused_iff_refuses`, `Pool.Plan.succeeds_of_refused` : batches whose inputs are all refused succeed, whatever
  the number of steps is;
* `Pool.leaves_perform_error` : a batch that fails writes nothing;
* `Pool.Progress.foldlM_error` : **tasks up to a batch that fails**;
* `Pool.failing_batch_in_step` : **a failing batch leaves results and checkpoint in step.**
-/

namespace TapeMachine.Pool

open Job FileTree

variable {plan : Plan} {files before now after : FileTree} {clock : Timestamp} {d : Definition}
  {inputs results checkpoint completed entered saved : List String} {state : State} {options : BatchOptions} {e : Error}

/-! ## 1. Batches that come through and batches that fail -/

/-- Whether a text is refused, in words and as it is computed. -/
theorem isRefused_iff_refuses {s : String} : isRefused d s = true ↔ d.Refuses (.str s) := by
  unfold isRefused
  obtain ⟨hno, input, hread⟩ | ⟨hrefuses, symbols, hread⟩ := d.readInput_cases (.inr ⟨s, rfl⟩)
  · simp [hread, hno, Except.toBool]
  · simp [hread, hrefuses, Except.toBool]

section Refused

variable {batch : List String} (h : ∀ s ∈ batch, d.Refuses (.str s))
include h

theorem filter_isRefused : batch.filter (isRefused d) = batch :=
  List.filter_eq_self.mpr fun s hs => isRefused_iff_refuses.mpr (h s hs)

theorem taken_of_refused : taken d batch = [] := by
  rw [taken_eq, List.filter_eq_nil_iff]
  intro s hs
  rw [isRefused_iff_refuses.mpr (h s hs)]
  simp

/-- **A batch of refused inputs succeeds**, whatever the number of steps is. -/
theorem Plan.succeeds_of_refused (plan : Plan) {workers : Int} (hworkers : options.workers = .int workers) :
    plan.Succeeds d options batch := by
  unfold Plan.Succeeds
  rw [taken_of_refused h]
  exact ⟨[], (Definition.runAll_eq_ok_iff hworkers).mpr rfl, rfl⟩

end Refused

/-- A batch with an input that the machine takes fails without a natural number of steps. -/
theorem runAll_taken_error {batch : List String} {workers : Int} (h : ∃ s ∈ batch, ¬ d.Refuses (.str s))
    (hsteps : ¬ options.maxSteps.IsNatural) (hworkers : options.workers = .int workers) :
    d.runAll ((taken d batch).map .str) options = .error (.run (.badMaxSteps options.maxSteps)) := by
  obtain ⟨s, hs, htaken⟩ := h
  have hmem : s ∈ taken d batch := by
    rw [taken_eq, List.mem_filter, Bool.not_eq_true', Bool.eq_false_iff, ne_eq, isRefused_iff_refuses]
    exact ⟨hs, htaken⟩
  refine Definition.runAll_of_not_natural (exists_readInput_taken d batch) ?_ hsteps hworkers
  rw [ne_eq, List.map_eq_nil_iff]
  exact List.ne_nil_of_mem hmem

/-- **A batch that fails writes nothing.** -/
theorem leaves_perform_error (run : Prepared) {batch : List String}
    (h : run.definition.runAll ((taken run.definition batch).map .str) run.options = .error e) (number : Nat)
    (state : State) : (perform run state (.simulate number batch)).Leaves now clock (.error e) now := by
  unfold perform simulate
  refine Leaves.bind_error ?_
  refine (shows_message _ _ _).bind ?_
  refine (shows_say _ _ _).bind ?_
  refine (shows_forM (fun r _ => (shows_message _).bind (shows_say _)) _ _).bind ?_
  exact (ends_error h).leaves.bind_error

/-! ## 2. Tasks up to a batch that fails -/

variable (clock) in
/-- **Tasks up to a batch that fails**: those before it keep the invariant, and the files stay as they are then. -/
theorem Progress.foldlM_error
    (h : Progress plan d results checkpoint completed before entered saved state now)
    (hready : plan.Ready files before d inputs results checkpoint) {done rest : List (List String)}
    {batch : List String} (hdone : ∀ group ∈ done, plan.Succeeds d options group)
    (herror : d.runAll ((taken d batch).map .str) options = .error e) (number : Nat) : ∃ state' after,
      ((tasksFrom number (done ++ batch :: rest)).foldlM
        (Pool.perform (plan.started d results completed inputs options)) state).Leaves now clock (.error e) after ∧
      Progress plan d results checkpoint completed before (entered ++ done.flatten) (saved ++ done.flatten) state'
        after ∧
      (done = [] → after = now) := by
  obtain ⟨state', after, hleaves, hprogress, hnone⟩ := h.foldlM clock hready (tasksFrom number done)
    fun _ group hmem => hdone group (mem_tasksFrom hmem)
  obtain ⟨hsimulated, hrecorded⟩ := all_tasksFrom number done
  rw [hsimulated, hrecorded] at hprogress
  refine ⟨state', after, ?_, hprogress, fun hnil => hnone (by rw [hnil]; rfl)⟩
  rw [tasksFrom_append, List.foldlM_append, tasksFrom_cons]
  refine hleaves.bind ?_
  rw [List.foldlM_cons]
  exact (leaves_perform_error (plan.started d results completed inputs options) herror _ _).bind_error

/-! ## 3. Runs with any number of steps -/

/-- The request for a plan with another number of steps, which may be negative. -/
def Plan.requestWithin (plan : Plan) (maxSteps size workers : Int) : Request :=
  { plan.request size workers with
    options := { (plan.request size workers).options with maxSteps := .int maxSteps } }

/-- The line of a refused input. -/
def refusedLine (d : Definition) (r : Refused) : String :=
  (refusedEntry d.name r).render

/-- Inputs that are all refused have their lines by that. -/
theorem map_lineOf_of_refused (h : ∀ s ∈ inputs, d.Refuses (.str s)) (limits : Limits) :
    inputs.map (lineOf d limits) = (refused d inputs).map (refusedLine d) := by
  have hentries := refused_entries (d := d) limits inputs
  rw [filter_isRefused h] at hentries
  have hlines := congrArg (List.map Json.render) hentries
  rw [List.map_map, List.map_map] at hlines
  exact hlines.symm

/-- Each of them is refused once. -/
theorem map_input_of_refused (h : ∀ s ∈ inputs, d.Refuses (.str s)) : (refused d inputs).map (·.input) = inputs := by
  induction inputs with
  | nil => rfl
  | cons s inputs ih =>
      obtain ⟨hno, _⟩ | ⟨_, symbols, hread⟩ := d.readInput_cases (.inr ⟨s, rfl⟩)
      · exact absurd (h s List.mem_cons_self) hno
      · have hrest := ih fun t ht => h t (List.mem_cons_of_mem _ ht)
        simp only [refused, List.filterMap_cons, hread, List.map_cons] at hrest ⊢
        rw [hrest]

section Runs

variable {size : Int} (hready : plan.Ready files before d inputs results checkpoint)
  (hcompleted : Remembers files checkpoint completed) (hsize : 1 ≤ size)
include hready hcompleted hsize

variable (clock) in
/-- A run whose inputs are all refused comes to its end. -/
theorem Plan.Ready.leaves_run_of_refused (h : ∀ s ∈ left completed inputs, d.Refuses (.str s))
    (maxSteps workers : Int) :
    ∃ totals after, (run (plan.requestWithin maxSteps size workers)).Leaves files clock (.ok totals) after := by
  have hworkers : (plan.requestWithin maxSteps size workers).options.workers = .int workers := rfl
  have htasks : ∀ number batch, Task.simulate number batch ∈ tasks size (left completed inputs) →
      plan.Succeeds d (plan.requestWithin maxSteps size workers).options batch := by
    intro number batch hmem
    refine plan.succeeds_of_refused (fun s hs => h s ?_) hworkers
    rw [← flatten_batches hsize (left completed inputs)]
    exact List.mem_flatten_of_mem (mem_tasksFrom hmem) hs
  obtain ⟨state, after, hleaves, _⟩ := (Progress.start hready hcompleted).foldlM clock hready _ htasks
  refine ⟨state.totals, after, ?_⟩
  unfold run
  refine (hready.leaves_of_tasks hcompleted (by omega) workers _ id hleaves).bind ?_
  exact (shows_message _ _ _).bind ends_pure.leaves

variable (clock) in
/-- **A run fails at the first batch with an input that the machine takes**, when the number of steps is negative. The
files are then those of the batches before it. -/
theorem Plan.Ready.leaves_run_error (h : ∃ s ∈ left completed inputs, ¬ d.Refuses (.str s)) {maxSteps : Int}
    (hnegative : maxSteps < 0) (workers : Int) : ∃ done failing rest state after,
      batches size (left completed inputs) = done ++ failing :: rest ∧
      (∀ batch ∈ done, ∀ s ∈ batch, d.Refuses (.str s)) ∧ (∃ s ∈ failing, ¬ d.Refuses (.str s)) ∧
      (run (plan.requestWithin maxSteps size workers)).Leaves files clock
        (.error (.run (.badMaxSteps (.int maxSteps)))) after ∧
      Progress plan d results checkpoint completed before done.flatten done.flatten state after ∧
      (done = [] → after = before.set results (.file (before.textAt results))) := by
  have hsteps : ¬ (Json.int maxSteps).IsNatural := by
    rintro ⟨n, heq⟩
    cases heq
    omega
  have hsome : ∃ batch ∈ batches size (left completed inputs), ∃ s ∈ batch, ¬ d.Refuses (.str s) := by
    obtain ⟨s, hs, htaken⟩ := h
    rw [← flatten_batches hsize (left completed inputs)] at hs
    obtain ⟨batch, hbatch, hs⟩ := List.mem_flatten.mp hs
    exact ⟨batch, hbatch, s, hs, htaken⟩
  obtain ⟨done, failing, rest, heq, hdone, hfailing⟩ := exists_first hsome
  have hrefused : ∀ batch ∈ done, ∀ s ∈ batch, d.Refuses (.str s) := fun batch hbatch s hs =>
    Classical.byContradiction fun htaken => hdone batch hbatch ⟨s, hs, htaken⟩
  have hworkers : (plan.requestWithin maxSteps size workers).options.workers = .int workers := rfl
  obtain ⟨state, after, hleaves, hprogress, hnone⟩ := (Progress.start hready hcompleted).foldlM_error clock hready
    (fun batch hbatch => plan.succeeds_of_refused (hrefused batch hbatch) hworkers)
    (runAll_taken_error hfailing hsteps hworkers) 0
  rw [← heq] at hleaves
  refine ⟨done, failing, rest, state, after, heq, hrefused, hfailing, ?_, hprogress, hnone⟩
  unfold run
  exact (hready.leaves_of_tasks hcompleted (by omega) workers _ id hleaves).bind_error

end Runs

variable (clock) in
/-- **A failing batch leaves results and checkpoint in step.** A run that fails, with any whole number of steps for each
input, fails for a negative one. The batches before the one that failed hold refused inputs only, and the results have
gained the lines of these inputs and no others; the checkpoint is as it was when there are no such batches, and else
remembers their inputs behind those that were completed before. With a negative number of steps a run fails exactly when
one of the inputs left is one that the machine takes, and the batch that fails is the first one with such an input. -/
theorem failing_batch_in_step (hready : plan.Ready files before d inputs results checkpoint)
    (hcompleted : Remembers files checkpoint completed) {size : Int} (hsize : 1 ≤ size) (maxSteps workers : Int) :
    (∀ e after, (run (plan.requestWithin maxSteps size workers)).Leaves files clock (.error e) after →
      maxSteps < 0 ∧ e = .run (.badMaxSteps (.int maxSteps)) ∧
      ∃ done failing rest lines, batches size (left completed inputs) = done ++ failing :: rest ∧
        (∀ batch ∈ done, ∀ s ∈ batch, d.Refuses (.str s)) ∧ (∃ s ∈ failing, ¬ d.Refuses (.str s)) ∧
        files.Gains after results lines ∧ lines.Perm ((refused d done.flatten).map (refusedLine d)) ∧
        (refused d done.flatten).map (·.input) = done.flatten ∧
        (done = [] → after.node? checkpoint = files.node? checkpoint) ∧
        (done ≠ [] → after.node? checkpoint = some (.file (checkpointText (completed ++ done.flatten))))) ∧
      (maxSteps < 0 →
        ((∃ e after, (run (plan.requestWithin maxSteps size workers)).Leaves files clock (.error e) after) ↔
          ∃ s ∈ left completed inputs, ¬ d.Refuses (.str s))) := by
  have never {e after totals final}
      (herror : (run (plan.requestWithin maxSteps size workers)).Leaves files clock (.error e) after)
      (hok : (run (plan.requestWithin maxSteps size workers)).Leaves files clock (.ok totals) final) : False := by
    cases (herror.unique hok).1
  have some_taken {e after}
      (h : (run (plan.requestWithin maxSteps size workers)).Leaves files clock (.error e) after) :
      ∃ s ∈ left completed inputs, ¬ d.Refuses (.str s) := by
    refine Classical.byContradiction fun hnone => ?_
    have hrefused : ∀ s ∈ left completed inputs, d.Refuses (.str s) := fun s hs =>
      Classical.byContradiction fun htaken => hnone ⟨s, hs, htaken⟩
    obtain ⟨_, _, hok⟩ := hready.leaves_run_of_refused clock hcompleted hsize hrefused maxSteps workers
    exact never h hok
  refine ⟨fun e after h => ?fails, fun hnegative => ⟨fun ⟨e, after, h⟩ => some_taken h, fun htaken => ?taken⟩⟩
  case taken =>
    obtain ⟨_, _, _, _, after, _, _, _, hleaves, _⟩ :=
      hready.leaves_run_error clock hcompleted hsize htaken hnegative workers
    exact ⟨_, after, hleaves⟩
  case fails =>
    -- A natural number of steps is that of a plan, whose runs come to their end.
    have hnegative : maxSteps < 0 := by
      refine Classical.byContradiction fun hnatural => ?_
      obtain ⟨n, rfl⟩ := Int.eq_ofNat_of_zero_le (Int.not_lt.mp hnatural)
      have hready' : ({ plan with maxSteps := n } : Plan).Ready files before d inputs results checkpoint :=
        ⟨hready.machine, hready.pool, hready.folder, hready.results, hready.checkpoint⟩
      obtain ⟨_, _, hok, _⟩ := hready'.leaves_run clock hcompleted hsize workers
      exact never h hok
    obtain ⟨done, failing, rest, state, final, heq, hrefused, hfailing, hleaves, hprogress, hnone⟩ :=
      hready.leaves_run_error clock hcompleted hsize (some_taken h) hnegative workers
    obtain ⟨hresult, rfl⟩ := h.unique hleaves
    cases hresult
    obtain ⟨lines, hperm, hgains⟩ := hprogress.gains
    have hadds := hready.addsDirectories
    have hall : ∀ s ∈ done.flatten, d.Refuses (.str s) := fun s hs => by
      obtain ⟨batch, hbatch, hs⟩ := List.mem_flatten.mp hs
      exact hrefused batch hbatch s hs
    refine ⟨hnegative, rfl, done, failing, rest, lines, heq, hrefused, hfailing, hadds.gains hgains, ?_,
      map_input_of_refused hall, fun hnil => ?_, fun hne => ?_⟩
    · rwa [map_lineOf_of_refused hall] at hperm
    · rw [hnone hnil, node?_set (ne_nil_of_free hready.results.free), if_neg hready.results_ne,
        hadds.node?_eq hready.checkpoint.free]
    · obtain ⟨batch, groups, rfl⟩ := List.exists_cons_of_ne_nil hne
      obtain ⟨_, hempty⟩ | hfile := hprogress.remembers
      · have hmem : batch ∈ batches size (left completed inputs) := by
          rw [heq]
          exact List.mem_cons_self
        have hbatch := ne_nil_of_mem_batches hmem
        rw [List.flatten_cons] at hempty
        exact absurd (List.append_eq_nil_iff.mp (List.append_eq_nil_iff.mp hempty).2).1 hbatch
      · exact hfile

/-- The files of a pool with a refused word in front of one that is taken. -/
def failingFiles : FileTree :=
  sampleFiles.set ["words.txt"] (.file "ab\naaa\n")

/-- With one input a batch, the refused word is done before the run fails. -/
theorem failing_batch_in_step_sample : ∃ d before,
    samplePlan.Ready failingFiles before d ["ab", "aaa"] ["results", "words", "out.jsonl"]
      ["results", "words", "out_checkpoint.json"] ∧
    Remembers failingFiles ["results", "words", "out_checkpoint.json"] [] ∧
    ∃ after lines,
      (run (samplePlan.requestWithin (-1) 1 2)).Leaves failingFiles ⟨2024, 1, 1, 0, 0, 0, 0⟩
        (.error (.run (.badMaxSteps (.int (-1))))) after ∧
      failingFiles.Gains after ["results", "words", "out.jsonl"] lines ∧
      lines.Perm ((refused d ["ab"]).map (refusedLine d)) ∧
      after.node? ["results", "words", "out_checkpoint.json"] = some (.file (checkpointText ["ab"])) := by
  have hopens : failingFiles.Opens (Path.ofText "odd.json").text ["odd.json"] := by decide +kernel
  obtain ⟨d, hstored, htaken, hrefused⟩ := Definition.exists_storedAt_of_file hopens rfl (by decide +kernel)
  have hready : samplePlan.Ready failingFiles (failingFiles.makePath samplePlan.folder).1 d ["ab", "aaa"]
      ["results", "words", "out.jsonl"] ["results", "words", "out_checkpoint.json"] :=
    ⟨hstored, ⟨"ab\naaa\n", toOption_eq_some.mp (by decide +kernel), by decide +kernel⟩,
      Prod.ext rfl (toOption_eq_some.mp (by decide +kernel)), by decide +kernel, by decide +kernel⟩
  have hremembers : Remembers failingFiles ["results", "words", "out_checkpoint.json"] [] :=
    .inl ⟨by decide +kernel, rfl⟩
  have htaken : ¬ d.Refuses (.str "aaa") := by
    rw [← isRefused_iff_refuses, isRefused]
    simpa [Except.isOk] using htaken
  have hrefused : d.Refuses (.str "ab") := by
    rw [← isRefused_iff_refuses, isRefused]
    simpa [Except.isOk] using hrefused
  obtain ⟨hfails, hexactly⟩ :=
    failing_batch_in_step ⟨2024, 1, 1, 0, 0, 0, 0⟩ hready hremembers (by decide : (1 : Int) ≤ 1) (-1) 2
  have hbatches : batches 1 (left [] ["ab", "aaa"]) = [["ab"], ["aaa"]] := by
    simp [left, batches, parts]
  obtain ⟨e, after, hleaves⟩ := (hexactly (by decide)).mpr ⟨"aaa", by decide, htaken⟩
  obtain ⟨_, rfl, done, failing, rest, lines, heq, hdone, hfailing, hgains, hperm, _, _, hcheckpoint⟩ :=
    hfails e after hleaves
  rw [hbatches] at heq
  have hsplit : done = [["ab"]] := by
    rcases done with _ | ⟨first, done⟩
    · cases heq
      obtain ⟨s, hs, hs'⟩ := hfailing
      exact absurd (List.mem_singleton.mp hs ▸ hrefused) hs'
    · rcases done with _ | ⟨_, done⟩
      · cases heq
        rfl
      · have hlength := congrArg List.length heq
        simp at hlength
  rw [hsplit] at hperm hcheckpoint
  exact ⟨d, _, hready, hremembers, after, lines, hleaves, hgains, hperm, hcheckpoint (by simp)⟩

end TapeMachine.Pool
