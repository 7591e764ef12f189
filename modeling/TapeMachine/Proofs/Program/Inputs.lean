import TapeMachine.Program.Simulator
import TapeMachine.Proofs.Run.Logs
import TapeMachine.Proofs.Run.Reports
/-!
# Inputs of a command line

The simulator runs all inputs before it shows anything. When the machine takes all of them, it shows and logs the
results in their order and counts them; when it refuses one, it does nothing at all.

* `Settings.limits`, `Simulator.runAll_ok` : the results of inputs within the limits of the settings;
* `Simulator.ends_runInputs` : **what inputs leave that the machine takes**, and that the counts are shown at the end;
* `Simulator.ends_runInputs_refused` : the first refused input ends the job before it has done anything.
-/

namespace TapeMachine

open Job FileTree

variable {d : Definition} {settings : Settings} {clock : Timestamp} {files opened : FileTree} {main : List String}
  {place : Outcome → List String} {inputs : List Json}

/-- The limits of each run. -/
def Settings.limits (settings : Settings) : Limits :=
  { maxSteps := settings.maxSteps, leftBounded := settings.leftBounded }

namespace Simulator

/-- The results of inputs that the machine takes, one by one. -/
theorem runAll_ok (hinputs : ∀ v ∈ inputs, ∃ input, d.readInput v = .ok input) (settings : Settings) :
    ∃ results, d.runAll inputs settings.batchOptions = .ok results ∧
      results.map .ok = inputs.map (d.run · settings.limits) :=
  Definition.runAll_ok hinputs (rfl : settings.batchOptions.maxSteps = .int settings.maxSteps) rfl

/-- The only result is that of the only input. -/
theorem eq_singleton_of_results {v : Json} {r : Result Char} {results : List (Result Char)} {limits : Limits}
    (hresults : results.map .ok = [v].map (d.run · limits)) (hrun : d.run v limits = .ok r) : results = [r] := by
  rw [List.map_singleton, hrun] at hresults
  obtain ⟨first, rest, rfl, hfirst, hrest⟩ := List.map_eq_cons_iff.mp hresults
  rw [List.map_eq_nil_iff.mp hrest, Except.ok.inj hfirst]

/-- What a single input of the machine gives. -/
theorem runAll_singleton {v : Json} {input : Input} {r : Result Char} (hinput : d.readInput v = .ok input)
    (hrun : d.run v settings.limits = .ok r) : d.runAll [v] settings.batchOptions = .ok [r] := by
  have htaken : ∀ w ∈ [v], ∃ input, d.readInput w = .ok input := fun w hw =>
    ⟨input, by rwa [List.mem_singleton.mp hw]⟩
  obtain ⟨results, hall, hresults⟩ := runAll_ok htaken settings
  rw [hall, eq_singleton_of_results hresults hrun]

theorem ends_openLog (hlogs : settings.logRuns = true) (h : settings.LogsIn clock files opened main place) :
    (openLog settings).Ends files clock (.ok (some (settings.log clock))) opened [] := by
  unfold openLog
  rw [if_pos hlogs]
  exact h.ends_create.bind ends_pure

/-- **What inputs leave that the machine takes**: the lines of all results in their order. The counts are shown at the
end. -/
theorem ends_runInputs (hinputs : ∀ v ∈ inputs, ∃ input, d.readInput v = .ok input) (hlogs : settings.logRuns = true)
    (h : settings.LogsIn clock files opened main place) :
    ∃ (results : List (Result Char)) (shown : List Event), results.map .ok = inputs.map (d.run · settings.limits) ∧
      (runInputs d inputs settings).Ends files clock (.ok ())
        (results.foldl (FileTree.logged main place d.name clock) opened)
        (shown ++ [.print (summarize (results.map (·.outcome))).seen]) := by
  obtain ⟨results, hall, hresults⟩ := runAll_ok hinputs settings
  have hreports : (results.forM (·.report settings.showTrace)).Shows () := shows_forM fun r hr => by
    have hrun : .ok r ∈ inputs.map (d.run · settings.limits) := by
      rw [← hresults]
      exact List.mem_map_of_mem hr
    obtain ⟨v, _, hv⟩ := List.mem_map.mp hrun
    obtain ⟨text, htext⟩ := Definition.exists_label hv
    exact Result.shows_report htext _
  obtain ⟨charts, hcharts⟩ := d.shows_report files clock
  obtain ⟨reports, hreports⟩ := hreports files clock
  refine ⟨results, charts ++ reports, hresults, ?_⟩
  rw [List.append_assoc]
  unfold runInputs
  refine (ends_ok hall).andThen ?_
  refine hcharts.bind (hreports.bind ?_)
  refine (ends_openLog hlogs h).andThen ?_
  exact (h.ends_logResults (.refl opened) d.name results).andThen (Summary.ends_report _)

variable (files clock) in
/-- **The first refused input ends the job before it has done anything.** -/
theorem ends_runInputs_refused {front : List Json} {v : Json} {e : Error}
    (hfront : ∀ w ∈ front, ∃ input, d.readInput w = .ok input) (hv : d.readInput v = .error e) (rest : List Json)
    (settings : Settings) :
    (runInputs d (front ++ v :: rest) settings).Ends files clock (.error e) files [] := by
  unfold runInputs
  rw [Definition.runAll_refused hfront hv]
  exact (ends_ofExcept _).bind_error

end Simulator

end TapeMachine
