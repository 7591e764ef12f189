import TapeMachine.Proofs.Pool.Resuming
/-!
# Two machines on one pool

A checkpoint remembers inputs, and not the machine that has run them. So a run with one machine leaves out what a run
with another one on the same pool, with the same output, has put into the checkpoint: after a run that has come to its
end there is nothing left to do.

* `Pool.left_of_listed` : nothing is left of a pool that a checkpoint remembers;
* `Pool.Progress.leaves_other` : the run of another machine goes on where the first one has come to;
* `Pool.second_run_takes_what_is_left` : **the second machine runs the inputs that the checkpoint does not remember**,
  and none after a whole run of the first one;
* `Pool.second_machine_left_out` : results without a line of the machine that was asked for.
-/

namespace TapeMachine.Pool

open Job FileTree

variable {plan : Plan} {files before after : FileTree} {clock : Timestamp} {d d' : Definition}
  {inputs results checkpoint completed entered saved : List String} {state : State} {machine : String}

/-! ## 1. The run of another machine -/

/-- Nothing is left of a pool once what was left of it is remembered. -/
theorem left_of_listed (completed inputs : List String) : left (completed ++ left completed inputs) inputs = [] := by
  rw [List.eq_nil_iff_forall_not_mem]
  intro s hs
  obtain ⟨hpool, hnew⟩ := mem_left.mp hs
  exact hnew (mem_listed hpool completed)

/-- **The run of another machine goes on where the first one has come to.** -/
theorem Progress.leaves_other (hready : plan.Ready files before d inputs results checkpoint)
    (h : Progress plan d results checkpoint completed before entered saved state after)
    (hstored : d'.StoredAt files machine) (hmachine : Apart files (Path.ofText machine).text results checkpoint)
    (hpool : Apart files plan.pool results checkpoint) (maxSteps : Nat) (leftBounded : Json) {size : Int}
    (hsize : 1 ≤ size) (workers : Int) (clock : Timestamp) : ∃ final lines,
      (run ((plan.forMachine machine maxSteps leftBounded).request size workers)).Leaves after clock
        (.ok (totalsOf d' (plan.forMachine machine maxSteps leftBounded).limits (left (completed ++ saved) inputs)))
        final ∧
      after.Gains final results lines ∧
      lines.Perm ((left (completed ++ saved) inputs).map
        (lineOf d' (plan.forMachine machine maxSteps leftBounded).limits)) ∧
      (left (completed ++ saved) inputs = [] →
        final.textAt results = after.textAt results ∧ final.node? checkpoint = after.node? checkpoint) := by
  have hother := h.ready_forMachine hready hstored hmachine hpool maxSteps leftBounded
  obtain ⟨_, final, hleaves, hprogress, hnone⟩ := hother.leaves_run clock h.remembers hsize workers
  obtain ⟨lines, hperm, hgains⟩ := hprogress.gains
  refine ⟨final, lines, hleaves, hgains, hperm, ?_⟩
  intro hnil
  rw [hnone hnil]
  constructor
  · rw [textAt_set h.results_free, if_pos rfl]
  · rw [node?_set (ne_nil_of_free h.results_free), if_neg hready.results_ne]

variable (clock) in
/-- **The second machine runs the inputs that the checkpoint does not remember.** A run of one machine comes to its
end, and after it the run of another one on the same pool, with the same output and limits of its own. The second run
counts the inputs that the checkpoint does not list when it starts, and the results gain exactly the lines of the second
machine for them. A whole run of the first machine lists all inputs of the pool, so that then the second run counts
nothing and changes neither the results, which have the lines of the first machine, nor the checkpoint. -/
theorem second_run_takes_what_is_left (hready : plan.Ready files before d inputs results checkpoint)
    (hcompleted : Remembers files checkpoint completed) {size : Int} (hsize : size ≠ 0) (workers : Int)
    (hstored : d'.StoredAt files machine) (hmachine : Apart files (Path.ofText machine).text results checkpoint)
    (hpool : Apart files plan.pool results checkpoint) (maxSteps : Nat) (leftBounded : Json) :
    ∃ totals middle listed lines, (run (plan.request size workers)).Leaves files clock (.ok totals) middle ∧
      Remembers middle checkpoint listed ∧ files.Gains middle results lines ∧
      (1 ≤ size → listed = completed ++ left completed inputs ∧ (∀ s ∈ inputs, s ∈ listed) ∧
        lines.Perm ((left completed inputs).map (lineOf d plan.limits))) ∧
      (size < 0 → listed = completed ∧ lines = []) ∧
      ∀ size', 1 ≤ size' → ∀ workers' clock', ∃ after more,
        (run ((plan.forMachine machine maxSteps leftBounded).request size' workers')).Leaves middle clock'
          (.ok (totalsOf d' (plan.forMachine machine maxSteps leftBounded).limits (left listed inputs))) after ∧
        middle.Gains after results more ∧
        more.Perm ((left listed inputs).map (lineOf d' (plan.forMachine machine maxSteps leftBounded).limits)) ∧
        (1 ≤ size → left listed inputs = [] ∧ more = [] ∧ after.textAt results = middle.textAt results ∧
          after.node? checkpoint = middle.node? checkpoint) := by
  obtain ⟨_, middle, hfirst, hprogress, _⟩ := hready.leaves_batches clock hcompleted hsize workers
  obtain ⟨lines, hlines, hgains⟩ := hprogress.gains
  refine ⟨_, middle, _, lines, hfirst, hprogress.remembers, hready.addsDirectories.gains hgains, ?whole, ?negative,
    ?second⟩
  case whole =>
    intro hwhole
    rw [flatten_batches hwhole] at hlines ⊢
    exact ⟨rfl, fun s hs => mem_listed hs completed, hlines⟩
  case negative =>
    intro hnegative
    rw [batches_of_neg hnegative] at hlines ⊢
    exact ⟨List.append_nil _, hlines.eq_nil⟩
  case second =>
    intro size' hsize' workers' clock'
    obtain ⟨after, more, hleaves, hmore, hperm, hsame⟩ := hprogress.leaves_other hready hstored hmachine hpool maxSteps
      leftBounded hsize' workers' clock'
    refine ⟨after, more, hleaves, hmore, hperm, ?_⟩
    intro hwhole
    have hnil : left (completed ++ (batches size (left completed inputs)).flatten) inputs = [] := by
      rw [flatten_batches hwhole, left_of_listed]
    obtain ⟨hresults, hcheckpoint⟩ := hsame hnil
    rw [hnil] at hperm
    exact ⟨hnil, hperm.eq_nil, hresults, hcheckpoint⟩

/-! ## 2. A pool of one word -/

/-- The document of a machine that stops at once and accepts every word. -/
def everyDocument : String :=
  "\x7b\"name\": \"every\", \"alphabet\": [\"a\", \"B\"], \"blank_symbol\": \"B\", \"input_symbols\": [\"a\"],
  \"states\": [\"q\"], \"initial_state\": \"q\", \"final_states\": [\"q\"], \"transitions\": []\x7d"

/-- The document of a machine that stops at once and rejects every word. -/
def neverDocument : String :=
  "\x7b\"name\": \"never\", \"alphabet\": [\"a\", \"B\"], \"blank_symbol\": \"B\", \"input_symbols\": [\"a\"],
  \"states\": [\"q\"], \"initial_state\": \"q\", \"final_states\": [], \"transitions\": []\x7d"

/-- The files of the two machines and of a pool of one word. -/
def twoMachineFiles : FileTree :=
  ((((⟨∅, []⟩ : FileTree).set ["every.json"] (.file everyDocument)).set ["never.json"] (.file neverDocument)).set
    ["words.txt"] (.file "a\n"))

set_option maxRecDepth 2000 in
theorem exists_chars_everyDocument : ∃ cs, everyDocument.toList = cs ∧ '\r' ∉ cs ∧
    ((Json.Reader.run cs).toOption.bind fun value => (Definition.ofJson value (.str "every")).toOption).any
      (fun d => d.name = .str "every") = true :=
  ⟨_, String.toList_ofList, by decide +kernel, by decide +kernel⟩

set_option maxRecDepth 2000 in
theorem exists_chars_neverDocument : ∃ cs, neverDocument.toList = cs ∧ '\r' ∉ cs ∧
    ((Json.Reader.run cs).toOption.bind fun value => (Definition.ofJson value (.str "never")).toOption).any
      (fun d => d.name = .str "never") = true :=
  ⟨_, String.toList_ofList, by decide +kernel, by decide +kernel⟩

/-- The plan for the first machine. -/
def everyPlan : Plan :=
  { samplePlan with machine := "every.json" }

/-- The two machines are in their files, and the first one can be run. -/
theorem exists_two_machines : ∃ every never : Definition, every.name = .str "every" ∧ never.name = .str "never" ∧
    never.StoredAt twoMachineFiles "never.json" ∧
    everyPlan.Ready twoMachineFiles (twoMachineFiles.makePath everyPlan.folder).1 every ["a"]
      ["results", "words", "out.jsonl"] ["results", "words", "out_checkpoint.json"] := by
  have hopensEvery : twoMachineFiles.Opens (Path.ofText "every.json").text ["every.json"] := by decide +kernel
  have hopensNever : twoMachineFiles.Opens (Path.ofText "never.json").text ["never.json"] := by decide +kernel
  have hstemEvery : (Path.ofText "every.json").stem = "every" := by decide +kernel
  have hstemNever : (Path.ofText "never.json").stem = "never" := by decide +kernel
  obtain ⟨_, hcsEvery, hreturnEvery, hevery⟩ := exists_chars_everyDocument
  obtain ⟨_, hcsNever, hreturnNever, hnever⟩ := exists_chars_neverDocument
  obtain ⟨every, hevery, hnameEvery⟩ := Definition.exists_ofText_of_chars hcsEvery hevery
  obtain ⟨never, hnever, hnameNever⟩ := Definition.exists_ofText_of_chars hcsNever hnever
  rw [← hstemEvery] at hevery
  rw [← hstemNever] at hnever
  refine ⟨every, never, of_decide_eq_true hnameEvery, of_decide_eq_true hnameNever,
    Definition.storedAt_of_file hopensNever rfl hcsNever hreturnNever hnever,
    Definition.storedAt_of_file hopensEvery rfl hcsEvery hreturnEvery hevery,
    ⟨"a\n", toOption_eq_some.mp (by decide +kernel), by decide +kernel⟩,
    Prod.ext rfl (toOption_eq_some.mp (by decide +kernel)), by decide +kernel, by decide +kernel⟩

/-- Neither run has been made yet. -/
theorem fresh_twoMachineFiles : twoMachineFiles.node? ["results", "words", "out.jsonl"] = none ∧
    twoMachineFiles.node? ["results", "words", "out_checkpoint.json"] = none := by
  decide +kernel

/-- After the first machine, with its word in one batch, the second one has nothing to do. -/
theorem second_run_takes_what_is_left_sample : ∃ (every never : Definition) (middle after : FileTree) (totals : Totals)
      (lines : List String),
    everyPlan.Ready twoMachineFiles (twoMachineFiles.makePath everyPlan.folder).1 every ["a"]
      ["results", "words", "out.jsonl"] ["results", "words", "out_checkpoint.json"] ∧
    Remembers twoMachineFiles ["results", "words", "out_checkpoint.json"] [] ∧
    never.StoredAt twoMachineFiles "never.json" ∧
    Apart twoMachineFiles (Path.ofText "never.json").text ["results", "words", "out.jsonl"]
      ["results", "words", "out_checkpoint.json"] ∧
    Apart twoMachineFiles everyPlan.pool ["results", "words", "out.jsonl"]
      ["results", "words", "out_checkpoint.json"] ∧
    (run (everyPlan.request 256 1)).Leaves twoMachineFiles ⟨2024, 1, 1, 0, 0, 0, 0⟩ (.ok totals) middle ∧
    twoMachineFiles.Gains middle ["results", "words", "out.jsonl"] lines ∧
    lines.Perm [lineOf every everyPlan.limits "a"] ∧
    Remembers middle ["results", "words", "out_checkpoint.json"] ["a"] ∧
    (run ((everyPlan.forMachine "never.json" 5 (.bool true)).request 256 1)).Leaves middle ⟨2024, 1, 2, 0, 0, 0, 0⟩
      (.ok .zero) after ∧
    after.textAt ["results", "words", "out.jsonl"] = middle.textAt ["results", "words", "out.jsonl"] := by
  obtain ⟨every, never, _, _, hstored, hready⟩ := exists_two_machines
  obtain ⟨hresults, hcheckpoint⟩ := fresh_twoMachineFiles
  have hfresh : Remembers twoMachineFiles ["results", "words", "out_checkpoint.json"] [] := .inl ⟨hcheckpoint, rfl⟩
  obtain ⟨_, hmachine, _⟩ := id hstored
  obtain ⟨_, hpool, _⟩ := hready.pool
  have hmachine := apart_of_none hresults hcheckpoint hmachine
  have hpool := apart_of_none hresults hcheckpoint hpool
  obtain ⟨totals, middle, listed, lines, hfirst, hlisted, hgains, hwhole, _, hsecond⟩ :=
    second_run_takes_what_is_left ⟨2024, 1, 1, 0, 0, 0, 0⟩ hready hfresh (by decide : (256 : Int) ≠ 0) 1 hstored
      hmachine hpool 5 (.bool true)
  obtain ⟨rfl, _, hlines⟩ := hwhole (by decide)
  obtain ⟨after, more, hleaves, _, _, hnothing⟩ := hsecond 256 (by decide) 1 ⟨2024, 1, 2, 0, 0, 0, 0⟩
  obtain ⟨hnil, _, hsame, _⟩ := hnothing (by decide)
  rw [hnil] at hleaves
  exact ⟨every, never, middle, after, totals, lines, hready, hfresh, hstored, hmachine, hpool, hfirst, hgains, hlines,
    hlisted, hleaves, hsame⟩

/-- The entries of a machine begin with its name. -/
theorem exists_entryOf (d : Definition) (limits : Limits) (s : String) :
    ∃ fields, entryOf d limits s = .obj (("machine", d.name) :: fields) := by
  unfold entryOf
  split
  · exact ⟨_, rfl⟩
  · exact ⟨_, rfl⟩

/-- The first machine has run the word, and the second one has not: both runs come to their end, and no line of the
results bears the name of the second machine. -/
theorem second_machine_left_out : ∃ (every never : Definition) (middle after : FileTree) (totals totals' : Totals)
      (lines : List String),
    every.name = .str "every" ∧ never.name = .str "never" ∧ never.StoredAt twoMachineFiles "never.json" ∧
    everyPlan.Ready twoMachineFiles (twoMachineFiles.makePath everyPlan.folder).1 every ["a"]
      ["results", "words", "out.jsonl"] ["results", "words", "out_checkpoint.json"] ∧
    (run (everyPlan.request 256 1)).Leaves twoMachineFiles ⟨2024, 1, 1, 0, 0, 0, 0⟩ (.ok totals) middle ∧
    (run ((everyPlan.forMachine "never.json" 5 (.bool true)).request 256 1)).Leaves middle ⟨2024, 1, 2, 0, 0, 0, 0⟩
      (.ok totals') after ∧
    twoMachineFiles.Gains after ["results", "words", "out.jsonl"] lines ∧
    ∀ line ∈ lines, ∀ fields, line ≠ (Json.obj (("machine", never.name) :: fields)).render := by
  obtain ⟨every, never, hevery, hnever, hstored, hready⟩ := exists_two_machines
  obtain ⟨hresults, hcheckpoint⟩ := fresh_twoMachineFiles
  have hfresh : Remembers twoMachineFiles ["results", "words", "out_checkpoint.json"] [] := .inl ⟨hcheckpoint, rfl⟩
  obtain ⟨_, hmachine, _⟩ := id hstored
  obtain ⟨_, hpool, _⟩ := hready.pool
  obtain ⟨_, middle, hfirst, hprogress, _⟩ :=
    hready.leaves_run ⟨2024, 1, 1, 0, 0, 0, 0⟩ hfresh (by decide : (1 : Int) ≤ 256) 1
  obtain ⟨lines, hlines, hgains⟩ := hprogress.gains
  obtain ⟨after, more, hsecond, hmore, hperm, _⟩ := hprogress.leaves_other hready hstored
    (apart_of_none hresults hcheckpoint hmachine) (apart_of_none hresults hcheckpoint hpool) 5 (.bool true)
    (by decide : (1 : Int) ≤ 256) 1 ⟨2024, 1, 2, 0, 0, 0, 0⟩
  have hnil := hperm.eq_nil
  refine ⟨every, never, middle, after, _, _, lines ++ more, hevery, hnever, hstored, hready, hfirst, hsecond,
    hready.addsDirectories.gains (hgains.trans hmore), ?_⟩
  rw [hnil, List.append_nil]
  intro line hline fields heq
  obtain ⟨s, _, rfl⟩ := List.mem_map.mp (hlines.mem_iff.mp hline)
  obtain ⟨fields', hentry⟩ := exists_entryOf every everyPlan.limits s
  rw [lineOf, hentry, hevery, hnever] at heq
  exact absurd (Json.eq_of_render_obj heq) (by decide)

end TapeMachine.Pool
