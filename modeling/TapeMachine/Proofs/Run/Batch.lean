import TapeMachine.Proofs.Except
import TapeMachine.Proofs.Machine.Increment
import TapeMachine.Proofs.Run.Stepping
import TapeMachine.Run.Batch
/-!
# Runs of a batch

A batch gives the results of its inputs in their order, one by one, or the error of the first input that the machine
refuses. How many workers may share the inputs makes no difference. A single run looks at its limits first; a batch
looks at them only after all its inputs, and not at all when it has none.

* `Definition.Refuses`, `Definition.readInput_cases` : the texts that a machine refuses;
* `Definition.exists_run`, `Definition.run_of_refused` : a machine has a result for every input that it takes;
* `Definition.runAll_of_taken`, `Definition.runAll_ok` : **a batch of inputs that are taken gives the result of each of
  them**;
* `Definition.runAll_refused` : **the first refused input ends a batch**;
* `summarize_append`, `counts_summarize` : the counts of a batch add up, and each is that of the results with its
  outcome;
* `Definition.runAll_pointwise` : **a batch is its single runs**, and two batches in a row are one.
-/

namespace TapeMachine

variable {d : Definition} {given : Json} {limits : Limits} {options : BatchOptions}

/-! ## 1. Inputs -/

/-- The first item of a list with a property. -/
theorem exists_first {α : Type} {p : α → Prop} {xs : List α} (h : ∃ x ∈ xs, p x) :
    ∃ front x rest, xs = front ++ x :: rest ∧ (∀ y ∈ front, ¬ p y) ∧ p x := by
  induction xs with
  | nil =>
      obtain ⟨_, hx, _⟩ := h
      cases hx
  | cons x xs ih =>
      by_cases hp : p x
      · exact ⟨[], x, xs, rfl, fun y hy => (by cases hy), hp⟩
      · obtain ⟨y, hy, hpy⟩ := h
        have hmem : y ∈ xs := (List.mem_cons.mp hy).resolve_left fun heq => hp (heq ▸ hpy)
        obtain ⟨front, z, rest, rfl, hfront, hz⟩ := ih ⟨y, hmem, hpy⟩
        refine ⟨x :: front, z, rest, rfl, fun w hw => ?_, hz⟩
        obtain rfl | hw := List.mem_cons.mp hw
        · exact hp
        · exact hfront w hw

namespace Definition

variable {v : Json}

/-- Whether an input has a symbol that the machine does not take. -/
def Refuses (d : Definition) (v : Json) : Prop :=
  ∃ s c, v = .str s ∧ c ∈ s.toList ∧ c ∉ d.inputSymbols

/-- A text is refused exactly when it is no input. -/
theorem refuses_iff {s : String} : d.Refuses (.str s) ↔ ¬ d.readInput (.str s) = .ok (.ofText s) := by
  rw [readInput_text]
  constructor
  · rintro ⟨_, c, heq, hc, hforeign⟩ ⟨_, hall⟩
    cases heq
    exact hforeign (hall c hc)
  · intro h
    simp only [true_and, Classical.not_forall] at h
    obtain ⟨c, hc, hforeign⟩ := h
    exact ⟨s, c, rfl, hc, hforeign⟩

/-- **An input is refused for such a symbol, and for nothing else.** -/
theorem readInput_cases (hshape : v = .arr [] ∨ ∃ s, v = .str s) :
    (¬ d.Refuses v ∧ ∃ input, d.readInput v = .ok input) ∨
      d.Refuses v ∧ ∃ symbols, d.readInput v = .error (.input { input := v, symbols }) := by
  obtain rfl | ⟨s, rfl⟩ := hshape
  · exact .inl ⟨fun ⟨_, _, h, _⟩ => (by cases h), ⟨.arr [], []⟩, rfl⟩
  · by_cases hrefused : d.Refuses (.str s)
    · obtain ⟨symbols, hsymbols⟩ := exists_refusal_chars (d := d) (.str s) s.toList
      have hread := refuses_iff.mp hrefused
      rw [readInput_str] at hread ⊢
      split at hread
      · exact absurd rfl hread
      · rename_i hno
        exact .inr ⟨hrefused, symbols, by rw [if_neg hno, hsymbols]⟩
    · exact .inl ⟨hrefused, .ofText s, Classical.not_not.mp (mt refuses_iff.mpr hrefused)⟩

end Definition

/-! ## 2. Single runs -/

/-- Whether a value is a natural number, and no truth value. -/
def Json.IsNatural (v : Json) : Prop :=
  ∃ n : Nat, v = .int n

/-- Limits are refused for a number of steps that is not natural, and for nothing else. -/
theorem Limits.ofJson_of_not_natural {maxSteps : Json} (h : ¬ maxSteps.IsNatural) (leftBounded : Json) :
    Limits.ofJson maxSteps leftBounded = .error (.badMaxSteps maxSteps) := by
  unfold Limits.ofJson
  split
  · exact absurd ⟨_, rfl⟩ h
  · rfl

namespace Definition

/-- **A machine has a result for every input that it takes.** -/
theorem exists_run {input : Input} (h : d.readInput given = .ok input) (limits : Limits) :
    ∃ r, d.run given limits = .ok r := by
  obtain ⟨r, hr⟩ := Executor.exists_result_of_halted (Executor.halted_run (.start d input limits))
  refine ⟨r, ?_⟩
  unfold run Executor.create
  rw [h]
  show (Except.mapError _ _ : Except Error _) = _
  rw [hr]
  rfl

/-- A refused input gives the error of the refusal. -/
theorem run_of_refused {e : Error} (h : d.readInput given = .error e) (limits : Limits) :
    d.run given limits = .error e := by
  unfold run Executor.create
  rw [h]
  rfl

/-- An input with a result is one that the machine takes. -/
theorem exists_readInput_of_run {v maxSteps leftBounded : Json} {r : Result Char}
    (h : d.runWithin v maxSteps leftBounded = .ok r) : ∃ input, d.readInput v = .ok input := by
  obtain ⟨_, _, h⟩ := exists_of_bind_eq_ok h
  obtain ⟨_, hcreate, _⟩ := exists_of_bind_eq_ok h
  obtain ⟨input, hinput, _⟩ := exists_of_bind_eq_ok hcreate
  exact ⟨input, hinput⟩

/-- A run without a natural number of steps fails, whatever its input is. -/
theorem runWithin_of_not_natural {maxSteps : Json} (h : ¬ maxSteps.IsNatural) (v leftBounded : Json) :
    d.runWithin v maxSteps leftBounded = .error (.run (.badMaxSteps maxSteps)) := by
  unfold runWithin
  rw [Limits.ofJson_of_not_natural h]
  rfl

end Definition

/-! ## 3. Batches -/

/-- The limits in the options of a batch. -/
def BatchOptions.limitsWith (options : BatchOptions) (maxSteps : Nat) : Limits :=
  { maxSteps, leftBounded := options.leftBounded.truthy }

/-- A whole number of workers is in order for any number of inputs. -/
theorem checkWorkers_int (workers : Int) (count : Nat) : checkWorkers (.int workers) count = .ok () := by
  obtain ⟨few, hfew⟩ : ∃ few, (Json.int workers).atMost 1 = .ok few := ⟨_, rfl⟩
  simp only [checkWorkers, hfew, bind, Except.bind]
  split <;> rfl

namespace Definition

variable {values : List Json} {maxSteps : Nat} {workers : Int}

/-- **A batch of inputs that are taken is its single runs**, one after the other, with any number of workers. -/
theorem runAll_of_taken (hvalues : ∀ v ∈ values, ∃ input, d.readInput v = .ok input)
    (hworkers : options.workers = .int workers) :
    d.runAll values options = values.mapM fun v => d.runWithin v options.maxSteps options.leftBounded := by
  obtain ⟨inputs, hinputs, _⟩ := exists_mapM_eq_ok hvalues
  simp only [runAll, hinputs, hworkers, checkWorkers_int, bind, Except.bind]
  rfl

/-- Such a batch has all its results, in their order, when the number of steps is natural. -/
theorem runAll_ok (hvalues : ∀ v ∈ values, ∃ input, d.readInput v = .ok input)
    (hsteps : options.maxSteps = .int maxSteps) (hworkers : options.workers = .int workers) :
    ∃ results, d.runAll values options = .ok results ∧
      results.map .ok = values.map fun v => d.run v (options.limitsWith maxSteps) := by
  have hwithin (v : Json) :
      d.runWithin v options.maxSteps options.leftBounded = d.run v (options.limitsWith maxSteps) := by
    rw [runWithin, hsteps]
    rfl
  rw [runAll_of_taken hvalues hworkers]
  simp only [hwithin]
  exact exists_mapM_eq_ok fun v hv => (hvalues v hv).elim fun _ hinput => exists_run hinput _

/-- Without one it fails, unless there is nothing to run. -/
theorem runAll_of_not_natural (hvalues : ∀ v ∈ values, ∃ input, d.readInput v = .ok input) (hne : values ≠ [])
    (hsteps : ¬ options.maxSteps.IsNatural) (hworkers : options.workers = .int workers) :
    d.runAll values options = .error (.run (.badMaxSteps options.maxSteps)) := by
  obtain ⟨v, rest, rfl⟩ := List.exists_cons_of_ne_nil hne
  rw [runAll_of_taken hvalues hworkers, List.mapM_cons, runWithin_of_not_natural hsteps]
  rfl

/-- **A batch has results exactly when each of its single runs has one.** -/
theorem runAll_eq_ok_iff {results : List (Result Char)} (hworkers : options.workers = .int workers) :
    d.runAll values options = .ok results ↔
      results.map .ok = values.map fun v => d.runWithin v options.maxSteps options.leftBounded := by
  constructor
  · intro h
    obtain ⟨inputs, hinputs, _⟩ := exists_of_bind_eq_ok h
    have htaken : ∀ v ∈ values, ∃ input, d.readInput v = .ok input := fun v hv =>
      (exists_mem_of_map_ok (mapM_eq_ok_iff.mp hinputs) hv).imp fun _ h => h.2
    rw [runAll_of_taken htaken hworkers] at h
    exact mapM_eq_ok_iff.mp h
  · intro h
    have htaken : ∀ v ∈ values, ∃ input, d.readInput v = .ok input := fun v hv => by
      obtain ⟨_, _, hrun⟩ := exists_mem_of_map_ok h hv
      exact exists_readInput_of_run hrun
    rw [runAll_of_taken htaken hworkers]
    exact mapM_eq_ok_iff.mpr h

/-- **Two batches in a row are one batch**: it has results exactly when both have, and they are those of the first and
then those of the second. -/
theorem runAll_append {front back : List Json} {results : List (Result Char)}
    (hworkers : options.workers = .int workers) :
    d.runAll (front ++ back) options = .ok results ↔ ∃ first second, d.runAll front options = .ok first ∧
      d.runAll back options = .ok second ∧ results = first ++ second := by
  simp only [runAll_eq_ok_iff hworkers, List.map_append]
  constructor
  · intro h
    obtain ⟨first, second, rfl, hfirst, hsecond⟩ := List.map_eq_append_iff.mp h
    exact ⟨first, second, hfirst, hsecond, rfl⟩
  · rintro ⟨first, second, hfirst, hsecond, rfl⟩
    rw [List.map_append, hfirst, hsecond]

/-- **The first refused input ends a batch**, before any input is run. -/
theorem runAll_refused {front rest : List Json} {v : Json} {e : Error}
    (hfront : ∀ w ∈ front, ∃ input, d.readInput w = .ok input) (hv : d.readInput v = .error e) :
    d.runAll (front ++ v :: rest) options = .error e := by
  unfold runAll
  rw [mapM_eq_error hfront hv]
  rfl

end Definition

/-! ## 4. Counts -/

/-- The counts of two summaries together. -/
def Summary.add (s t : Summary) : Summary :=
  { total := s.total + t.total
    accepted := s.accepted + t.accepted
    rejected := s.rejected + t.rejected
    halted := s.halted + t.halted }

/-- **The summary of two batches in a row is the sum of their summaries.** -/
theorem summarize_append (outcomes more : List Outcome) :
    summarize (outcomes ++ more) = (summarize outcomes).add (summarize more) := by
  simp only [summarize, Summary.add, List.length_append, List.count_append]

/-- **The counts of a batch add up** to the number of its runs. -/
theorem summarize_sum (outcomes : List Outcome) :
    (summarize outcomes).accepted + (summarize outcomes).rejected + (summarize outcomes).halted = outcomes.length := by
  induction outcomes with
  | nil => rfl
  | cons outcome outcomes ih =>
      simp only [summarize, List.count_cons, List.length_cons] at ih ⊢
      cases outcome <;> simp <;> omega

/-- Whether the counts of a summary are those of some results, which are as many as the inputs. -/
structure Summary.Counts (s : Summary) (results : List (Result Char)) (inputs : Nat) : Prop where
  accepted : s.accepted = (results.filter (·.outcome = .accepted)).length
  rejected : s.rejected = (results.filter (·.outcome = .rejected)).length
  halted : s.halted = (results.filter (·.outcome = .halted)).length
  total : s.total = inputs
  sum : s.accepted + s.rejected + s.halted = inputs

/-- **A summary counts its results.** -/
theorem counts_summarize (results : List (Result Char)) :
    (summarize (results.map (·.outcome))).Counts results results.length := by
  have hcount (outcome : Outcome) : (results.map (·.outcome)).count outcome =
      (results.filter (·.outcome = outcome)).length := by
    rw [List.count, List.countP_map, List.countP_eq_length_filter]
    congr 2
  have hsum := summarize_sum (results.map (·.outcome))
  rw [List.length_map] at hsum
  exact ⟨hcount _, hcount _, hcount _, List.length_map _, hsum⟩

/-! ## 5. A batch and its single runs -/

namespace Definition

variable {workers : Int}

/-- **A batch is its single runs.** Its first refused input is its error, whatever its options are. When no input is
refused, its error is that of a number of steps which is not natural, and only when there is something to run; otherwise
its results are those of the single runs, in their order. So two batches in a row give the results of one after those of
the other, with the sum of their counts, and the counts of a batch add up to the number of its inputs. -/
theorem runAll_pointwise (d : Definition) (options : BatchOptions) (hworkers : options.workers = .int workers) :
    (∀ inputs : List String, (∃ s ∈ inputs, d.Refuses (.str s)) → ∃ front s rest symbols,
        inputs = front ++ s :: rest ∧ (∀ t ∈ front, ¬ d.Refuses (.str t)) ∧ d.Refuses (.str s) ∧
        ∀ options, d.runAll (inputs.map .str) options = .error (.input { input := .str s, symbols })) ∧
      (∀ inputs : List String, (∀ s ∈ inputs, ¬ d.Refuses (.str s)) →
        (inputs ≠ [] ∧ ¬ options.maxSteps.IsNatural →
          d.runAll (inputs.map .str) options = .error (.run (.badMaxSteps options.maxSteps))) ∧
        (inputs = [] ∨ options.maxSteps.IsNatural → ∃ results, d.runAll (inputs.map .str) options = .ok results ∧
          results.map .ok = inputs.map fun s => d.runWithin (.str s) options.maxSteps options.leftBounded)) ∧
      (∀ (front back : List String) results, d.runAll ((front ++ back).map .str) options = .ok results ↔
        ∃ first second, d.runAll (front.map .str) options = .ok first ∧ d.runAll (back.map .str) options = .ok second ∧
          results = first ++ second) ∧
      (∀ first second : List (Result Char), summarize ((first ++ second).map (·.outcome)) =
        (summarize (first.map (·.outcome))).add (summarize (second.map (·.outcome)))) ∧
      ∀ (inputs : List String) results, d.runAll (inputs.map .str) options = .ok results →
        (summarize (results.map (·.outcome))).Counts results inputs.length := by
  have taken {inputs : List String} (h : ∀ s ∈ inputs, ¬ d.Refuses (.str s)) :
      ∀ v ∈ inputs.map Json.str, ∃ input, d.readInput v = .ok input := fun v hv => by
    obtain ⟨s, hs, rfl⟩ := List.mem_map.mp hv
    obtain ⟨_, hinput⟩ | ⟨hrefused, _⟩ := readInput_cases (d := d) (.inr ⟨s, rfl⟩)
    · exact hinput
    · exact absurd hrefused (h s hs)
  refine ⟨fun inputs h => ?refused, fun inputs h => ⟨fun hbad => ?limits, fun hgood => ?results⟩,
    fun front back results => ?append, fun first second => ?sums, fun inputs results h => ?counts⟩
  case refused =>
    obtain ⟨front, s, rest, rfl, hfront, hs⟩ := exists_first h
    obtain ⟨hno, _⟩ | ⟨_, symbols, hread⟩ := readInput_cases (d := d) (.inr ⟨s, rfl⟩)
    · exact absurd hs hno
    · refine ⟨front, s, rest, symbols, rfl, hfront, hs, fun options => ?_⟩
      rw [List.map_append, List.map_cons]
      exact runAll_refused (taken hfront) hread
  case limits =>
    exact runAll_of_not_natural (taken h) (mt List.map_eq_nil_iff.mp hbad.1) hbad.2 hworkers
  case results =>
    have hruns : ∀ v ∈ inputs.map Json.str, ∃ r, d.runWithin v options.maxSteps options.leftBounded = .ok r := by
      intro v hv
      obtain rfl | ⟨n, hn⟩ := hgood
      · cases hv
      · obtain ⟨input, hinput⟩ := taken h v hv
        rw [runWithin, hn]
        exact exists_run hinput _
    obtain ⟨results, _, hmap⟩ := exists_mapM_eq_ok hruns
    exact ⟨results, (runAll_eq_ok_iff hworkers).mpr hmap, by rw [hmap, List.map_map]; rfl⟩
  case append =>
    rw [List.map_append]
    exact runAll_append hworkers
  case sums =>
    rw [List.map_append]
    exact summarize_append _ _
  case counts =>
    have hlength := congrArg List.length ((runAll_eq_ok_iff hworkers).mp h)
    simp only [List.length_map] at hlength
    exact hlength ▸ counts_summarize results

/-- Two numbers in a batch of the machine that adds one, with a third input that is none. A truth value is no number of
steps. -/
theorem runAll_pointwise_increment :
    (∃ symbols, increment.runAll (["1", "two", "11"].map .str) { maxSteps := .bool true, workers := .int 4 } =
        .error (.input { input := .str "two", symbols })) ∧
      increment.runAll (["1", "11"].map .str) { maxSteps := .bool true, workers := .int 4 } =
        .error (.run (.badMaxSteps (.bool true))) ∧
      ∃ results, increment.runAll (["1", "11"].map .str) { maxSteps := .int 100, workers := .int 4 } = .ok results ∧
        results.map .ok = ["1", "11"].map fun s => increment.runWithin (.str s) (.int 100) (.bool false) := by
  have hnumbers : ∀ s ∈ ["1", "11"], ¬ increment.Refuses (.str s) := by
    simp [refuses_iff, readInput_increment]
  have htwo : increment.Refuses (.str "two") := by
    simp [refuses_iff, readInput_increment]
  obtain ⟨hrefused, hruns, _⟩ := increment.runAll_pointwise { maxSteps := .bool true, workers := .int 4 } rfl
  obtain ⟨_, hruns', _⟩ := increment.runAll_pointwise { maxSteps := .int 100, workers := .int 4 } rfl
  refine ⟨?_, (hruns _ hnumbers).1 ⟨by simp, fun ⟨_, h⟩ => nomatch h⟩, (hruns' _ hnumbers).2 (.inr ⟨100, rfl⟩)⟩
  obtain ⟨front, s, rest, symbols, heq, hfront, hs, herror⟩ := hrefused ["1", "two", "11"] ⟨"two", by simp, htwo⟩
  have hmem : s ∈ ["1", "two", "11"] := heq ▸ by simp
  have htwo : s = "two" := by
    simp only [List.mem_cons, List.not_mem_nil, or_false] at hmem
    obtain rfl | rfl | rfl := hmem
    · exact absurd hs (hnumbers "1" (by simp))
    · rfl
    · exact absurd hs (hnumbers "11" (by simp))
  exact ⟨symbols, htwo ▸ herror _⟩

end Definition

end TapeMachine
