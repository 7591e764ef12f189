import TapeMachine.Proofs.Pool.Accounting
/-!
# Runs of a pool that report success

A run goes through the inputs that are left in batches of a given size, and then says that all inputs are simulated. A
size of zero is refused. A negative one is not: it makes no batches, so that the run says the same without having
touched an input.

* `Pool.Processed` : whether a run has processed its whole pool;
* `Pool.Progress.processed` : a run that has gone through all inputs that were left has;
* `Pool.success_unless_negative` : **a run with a size other than zero reports success, and has processed its pool
  exactly when the size is positive or nothing was left**;
* `Pool.success_of_nothing` : a run that reports success and has left out all words of its pool.
-/

namespace TapeMachine.Pool

open Job FileTree

variable {plan : Plan} {files before after : FileTree} {clock : Timestamp} {d : Definition} {limits : Limits}
  {inputs results checkpoint completed : List String} {totals : Totals} {state : State} {size : Int}

/-! ## 1. What success promises -/

/-- **Whether a run has processed its whole pool**: the checkpoint lists all of its inputs, and each input that was not
completed before has an entry in the results and is counted. -/
structure Processed (d : Definition) (limits : Limits) (inputs results checkpoint completed : List String)
    (files after : FileTree) (totals : Totals) : Prop where
  listed : ∃ listed, Remembers after checkpoint listed ∧ ∀ s ∈ inputs, s ∈ listed
  entered : ∃ lines, files.Gains after results lines ∧ ∀ s ∈ left completed inputs, lineOf d limits s ∈ lines
  counted : (left completed inputs).length ≤ totals.total

/-- A run that has gone through all inputs that were left has processed its pool. -/
theorem Progress.processed (hready : plan.Ready files before d inputs results checkpoint)
    (h : Progress plan d results checkpoint completed before (left completed inputs) (left completed inputs) state
      after) :
    Processed d plan.limits inputs results checkpoint completed files after
      (totalsOf d plan.limits (left completed inputs)) where
  listed := ⟨_, h.remembers, fun _ hs => mem_listed hs completed⟩
  entered := by
    obtain ⟨lines, hperm, hgains⟩ := h.gains
    exact ⟨lines, hready.addsDirectories.gains hgains, fun s hs => hperm.mem_iff.mpr (List.mem_map_of_mem hs)⟩
  counted := Nat.le_refl _

/-- A run that has counted nothing has processed its pool only if nothing was left. -/
theorem Processed.left_eq_nil
    (h : Processed d limits inputs results checkpoint completed files after (totalsOf d limits [])) :
    left completed inputs = [] :=
  List.eq_nil_of_length_eq_zero (Nat.le_zero.mp h.counted)

/-! ## 2. Runs with batches of any size -/

variable (clock) in
/-- A size of zero is refused. -/
theorem Plan.Ready.leaves_run_zero (hready : plan.Ready files before d inputs results checkpoint)
    (hcompleted : Remembers files checkpoint completed) (workers : Int) :
    ∃ after, (run (plan.request 0 workers)).Leaves files clock (.error (.run .zeroBatchSize)) after := by
  refine ⟨before.set results (.file (before.textAt results)), ?_⟩
  unfold run runSome
  refine Leaves.bind_error ((hready.leaves_prepare hcompleted 0 workers _).bind ?_)
  exact (ends_error rfl).leaves.bind_error

variable (clock) in
/-- **Success can be relied on unless the size of batches is negative.** A run with a size of zero fails. With any other
size it comes to its end and reports success. It has processed its whole pool exactly when the size is positive or
nothing was left to be done; with a negative size it has counted nothing, and the results and the checkpoint are those
of before. -/
theorem success_unless_negative (hready : plan.Ready files before d inputs results checkpoint)
    (hcompleted : Remembers files checkpoint completed) (size workers : Int) :
    (size = 0 →
      ∃ after, (run (plan.request size workers)).Leaves files clock (.error (.run .zeroBatchSize)) after) ∧
    (size ≠ 0 → ∃ totals after shown,
      (run (plan.request size workers)).Ends files clock (.ok totals) after (shown ++ messageLines after successText) ∧
      (Processed d plan.limits inputs results checkpoint completed files after totals ↔
        1 ≤ size ∨ left completed inputs = []) ∧
      (size < 0 → totals = .zero ∧ files.Gains after results [] ∧ Remembers after checkpoint completed)) := by
  constructor
  · rintro rfl
    exact hready.leaves_run_zero clock hcompleted workers
  intro hsize
  obtain ⟨state, after, shown, hends, hprogress, _⟩ := hready.ends_batches clock hcompleted hsize workers
  refine ⟨_, after, shown, hends, ?_, ?_⟩
  · rcases Int.lt_or_gt_of_ne hsize with hnegative | hpositive
    · rw [batches_of_neg hnegative, List.flatten_nil] at hprogress ⊢
      constructor
      · exact fun hprocessed => .inr hprocessed.left_eq_nil
      · rintro (hpositive | hnil)
        · omega
        · rw [← hnil] at hprogress ⊢
          exact hprogress.processed hready
    · have hwhole : 1 ≤ size := by omega
      rw [flatten_batches hwhole] at hprogress ⊢
      exact iff_of_true (hprogress.processed hready) (.inl hwhole)
  · intro hnegative
    obtain ⟨lines, hperm, hgains⟩ := hprogress.gains
    have hremembers := hprogress.remembers
    rw [batches_of_neg hnegative, List.flatten_nil] at hperm hremembers ⊢
    rw [List.append_nil] at hremembers
    rw [hperm.eq_nil] at hgains
    exact ⟨rfl, hready.addsDirectories.gains hgains, hremembers⟩

/-- The sample pool can be run, and no run of it has been made yet. -/
theorem exists_ready_sampleFiles : ∃ d,
    samplePlan.Ready sampleFiles (sampleFiles.makePath samplePlan.folder).1 d ["a", "ab", "aa", "a"]
      ["results", "words", "out.jsonl"] ["results", "words", "out_checkpoint.json"] ∧
    Remembers sampleFiles ["results", "words", "out_checkpoint.json"] [] := by
  have hopens : sampleFiles.Opens (Path.ofText "odd.json").text ["odd.json"] := by decide +kernel
  obtain ⟨d, hstored, _⟩ := Definition.exists_storedAt_of_file hopens rfl (by decide +kernel)
  exact ⟨d, ⟨hstored, ⟨"a\nab\naa\na\n", toOption_eq_some.mp (by decide +kernel), by decide +kernel⟩,
    Prod.ext rfl (toOption_eq_some.mp (by decide +kernel)), by decide +kernel, by decide +kernel⟩,
    .inl ⟨by decide +kernel, rfl⟩⟩

/-- Four words in batches of three, the last one smaller. -/
theorem success_unless_negative_sample : ∃ d before totals after shown,
    samplePlan.Ready sampleFiles before d ["a", "ab", "aa", "a"] ["results", "words", "out.jsonl"]
      ["results", "words", "out_checkpoint.json"] ∧
    Remembers sampleFiles ["results", "words", "out_checkpoint.json"] [] ∧
    (run (samplePlan.request 3 1)).Ends sampleFiles ⟨2024, 1, 1, 0, 0, 0, 0⟩ (.ok totals) after
      (shown ++ messageLines after successText) ∧
    Processed d samplePlan.limits ["a", "ab", "aa", "a"] ["results", "words", "out.jsonl"]
      ["results", "words", "out_checkpoint.json"] [] sampleFiles after totals := by
  obtain ⟨d, hready, hremembers⟩ := exists_ready_sampleFiles
  obtain ⟨_, hruns⟩ := success_unless_negative ⟨2024, 1, 1, 0, 0, 0, 0⟩ hready hremembers 3 1
  obtain ⟨totals, after, shown, hends, hprocessed, _⟩ := hruns (by decide)
  exact ⟨d, _, totals, after, shown, hready, hremembers, hends, hprocessed.mpr (.inl (by decide))⟩

/-- The same words in batches of a negative size: the run reports success, has counted nothing, and its pool is not
processed. -/
theorem success_of_nothing : ∃ d before totals after shown,
    samplePlan.Ready sampleFiles before d ["a", "ab", "aa", "a"] ["results", "words", "out.jsonl"]
      ["results", "words", "out_checkpoint.json"] ∧
    Remembers sampleFiles ["results", "words", "out_checkpoint.json"] [] ∧
    (run (samplePlan.request (-1) 1)).Ends sampleFiles ⟨2024, 1, 1, 0, 0, 0, 0⟩ (.ok totals) after
      (shown ++ messageLines after successText) ∧
    totals = .zero ∧
    ¬ Processed d samplePlan.limits ["a", "ab", "aa", "a"] ["results", "words", "out.jsonl"]
      ["results", "words", "out_checkpoint.json"] [] sampleFiles after totals := by
  obtain ⟨d, hready, hremembers⟩ := exists_ready_sampleFiles
  have hbatches : (batches (-1) (left [] ["a", "ab", "aa", "a"])).flatten = [] := rfl
  obtain ⟨_, after, shown, hends, _⟩ :=
    hready.ends_batches ⟨2024, 1, 1, 0, 0, 0, 0⟩ hremembers (by decide : (-1 : Int) ≠ 0) 1
  rw [hbatches] at hends
  exact ⟨d, _, _, after, shown, hready, hremembers, hends, rfl, fun hprocessed =>
    absurd hprocessed.left_eq_nil (by decide)⟩

end TapeMachine.Pool
