import TapeMachine.Proofs.Machine.Loading
import TapeMachine.Proofs.Program.Arguments
import TapeMachine.Proofs.Program.Inputs
/-!
# A batch on the command line

Reading the settings makes directories at most and says at most that there is no settings file. What follows is all or
nothing: either every input of the command line is run, shown and logged, or the first one that the machine refuses is
all that the program tells of, and no file is touched.

* `Job.Silent`, `Simulator.Notices`, `Simulator.notices_of_readSettings` : jobs that only make directories, and **what
  reading the settings does and shows**;
* `Simulator.batch_all_or_nothing` : **a batch is all or nothing.**
-/

namespace TapeMachine

open Job FileTree

/-! ## 1. Jobs that show nothing -/

namespace Job

variable {α β : Type} {job : Job α} {next : α → Job β}

/-- Whether a job shows nothing, and does no more to files than to make directories. -/
def Silent (job : Job α) : Prop :=
  ∀ files clock, ∃ result after, job.Ends files clock result after [] ∧ files.AddsDirectories after

/-- One silent job after the other. -/
theorem Silent.bind (h : job.Silent) (hnext : ∀ a, (next a).Silent) : (job >>= next).Silent := fun files clock => by
  obtain ⟨result, middle, hends, hadds⟩ := h files clock
  cases result with
  | error e => exact ⟨.error e, middle, hends.bind_error, hadds⟩
  | ok a =>
      obtain ⟨result, after, hends', hadds'⟩ := hnext a middle clock
      exact ⟨result, after, hends.bind hends', hadds.trans hadds'⟩

theorem silent_of_ends {result : FileTree → Except Error α}
    (h : ∀ files clock, job.Ends files clock (result files) files []) : job.Silent :=
  fun files clock => ⟨result files, files, h files clock, .refl files⟩

theorem silent_pure (a : α) : (pure a : Job α).Silent :=
  silent_of_ends fun _ _ => ends_pure

theorem silent_ofExcept (x : Except Error α) : (ofExcept x).Silent :=
  silent_of_ends fun _ _ => ends_ofExcept x

theorem silent_throw (e : Error) : (throw e : Job α).Silent :=
  silent_ofExcept (.error e)

theorem silent_files : Job.files.Silent :=
  silent_of_ends fun _ _ => ends_files

theorem silent_askFiles (f : FileTree → Except FileError α) : (askFiles f).Silent :=
  silent_of_ends fun _ _ => ends_askFiles f

theorem silent_makeDirectories (path : String) : (tryFiles (·.makeDirectories path)).Silent :=
  fun files _ => ⟨_, _, ends_tried _, addsDirectories_makeDirectories files path⟩

end Job

/-! ## 2. Settings -/

theorem Entries.silent_load (path : Json) : (Entries.load path false).Silent := by
  have hrest (path : String) : (do
      let text ← Job.readText path
      let file ← Job.ofExcept ((Json.read text).mapError .read)
      let entries ← Job.ofExcept (defaults.overlay file)
      let settings ← Job.ofExcept entries.settings
      Job.tryFiles (·.makeDirectories settings.outputDirectory)
      return entries : Job Entries).Silent := by
    refine (silent_askFiles _).bind fun text => (silent_ofExcept _).bind fun file => ?_
    refine (silent_ofExcept _).bind fun entries => (silent_ofExcept _).bind fun settings => ?_
    exact (silent_makeDirectories _).bind fun _ => silent_pure entries
  unfold Entries.load
  refine (silent_ofExcept _).bind fun path => silent_files.bind fun files => ?_
  dsimp only
  split
  · exact (silent_throw _).bind fun _ => hrest path
  · exact hrest path

namespace Simulator

open CommandLine

variable {texts answers : List String} {arguments : Arguments} {settings : Settings} {d : Definition}
  {files configured opened after : FileTree} {clock : Timestamp} {notices shown : List Event} {main : List String}
  {place : Outcome → List String}

/-- What is said when there is no settings file. -/
def notice (path : Json) : String :=
  styled "yellow" s!"Config {path.display} not found, using defaults."

/-- What may be shown while settings are read: nothing, or that there is no such file. -/
def Notices (path : Json) (shown : List Event) : Prop :=
  shown = [] ∨ ∃ text, Markup.render (notice path) = .ok text ∧ shown = [.print text]

theorem ends_notice (path : Json) (files : FileTree) (clock : Timestamp) : ∃ result shown,
    (do Job.print (notice path); return Entries.defaults : Job Entries).Ends files clock result files shown ∧
      Notices path shown := by
  cases hseen : Markup.render (notice path) with
  | ok text => exact ⟨_, [.print text], (ends_print hseen).bind ends_pure, .inr ⟨text, hseen, rfl⟩⟩
  | error e => exact ⟨_, [], (ends_print_error hseen).bind_error, .inl rfl⟩

theorem ends_readEntries (path : Json) (files : FileTree) (clock : Timestamp) : ∃ result after shown,
    (readEntries path).Ends files clock result after shown ∧ files.AddsDirectories after ∧ Notices path shown := by
  have hprobe : (do Job.askFiles (·.probe (← Path.ofJson path).text) : Job Bool).Silent :=
    ((silent_ofExcept _).bind fun _ => silent_pure _).bind fun normal => silent_askFiles _
  have heq : readEntries path = ((do Job.askFiles (·.probe (← Path.ofJson path).text) : Job Bool) >>= fun found =>
      if found then Entries.load path false
      else do
        Job.print (notice path)
        return Entries.defaults) := by
    rw [readEntries, bind_assoc]
    rfl
  obtain ⟨result, middle, hends, hadds⟩ := hprobe files clock
  rw [heq]
  match result with
  | .error e => exact ⟨_, middle, [], hends.bind_error, hadds, .inl rfl⟩
  | .ok true =>
      obtain ⟨result, after, hends', hadds'⟩ := Entries.silent_load path middle clock
      exact ⟨result, after, [], hends.bind hends', hadds.trans hadds', .inl rfl⟩
  | .ok false =>
      obtain ⟨result, shown, hends', hnotices⟩ := ends_notice path middle clock
      exact ⟨result, middle, shown, hends.bind hends', hadds, hnotices⟩

/-- The path of the settings file that the arguments name. -/
def settingsPath (arguments : Arguments) : Json :=
  (arguments.value? "--config").getD (.str Entries.defaultPath)

theorem ends_readSettings (arguments : Arguments) (files : FileTree) (clock : Timestamp) : ∃ result after shown,
    (readSettings arguments).Ends files clock result after shown ∧ files.AddsDirectories after ∧
      Notices (settingsPath arguments) shown := by
  obtain ⟨result, after, shown, hends, hadds, hnotices⟩ := ends_readEntries (settingsPath arguments) files clock
  unfold readSettings
  cases result with
  | error e => exact ⟨_, after, shown, hends.bind_error, hadds, hnotices⟩
  | ok entries =>
      exact ⟨_, after, shown, List.append_nil shown ▸ hends.bind (ends_ofExcept _), hadds, hnotices⟩

/-- **Reading the settings** makes directories at most, and says at most that there is no settings file. -/
theorem notices_of_readSettings (h : (readSettings arguments).Ends files clock (.ok settings) configured notices) :
    files.AddsDirectories configured ∧ Notices (settingsPath arguments) notices := by
  obtain ⟨_, _, _, hends, hall⟩ := ends_readSettings arguments files clock
  obtain ⟨_, rfl, rfl⟩ := h.unique hends
  exact hall

end Simulator

/-! ## 3. Inputs -/

namespace Simulator

open CommandLine

variable {texts answers : List String} {arguments : Arguments} {settings : Settings} {d : Definition}
  {files configured opened after : FileTree} {clock : Timestamp} {notices shown : List Event} {main : List String}
  {place : Outcome → List String}

/-- The inputs of a command line are texts, or stand for nothing at all. -/
theorem shape_of_input (hread : usage.read texts = .ok arguments) {v : Json} (hv : v ∈ arguments.values "--input") :
    v = .arr [] ∨ ∃ s, v = .str s := by
  obtain ⟨⟨name, value⟩, hgiven, hv⟩ := List.mem_filterMap.mp hv
  obtain ⟨o, ho, hname, hgives⟩ := Usage.gives_of_read hread _ hgiven
  have htext : ∀ o ∈ usage.options, o.name = "--input" → o.wish = .text := by decide
  dsimp only at hv hname hgives
  split at hv
  · rename_i hinput
    rw [htext o ho (hname ▸ hinput)] at hgives
    rwa [Option.some.inj hv] at hgives
  · cases hv

/-! ## 4. The whole program -/

/-- A program that asks nothing ends there. -/
theorem ends_run_ended {ending : Ending} (h : (begin texts).Ends files clock (.ok (.ended ending)) after shown)
    (answers : List String) : (run texts answers).Ends files clock (.ok ending) after shown := by
  have hfinish : (finish (.ended ending) answers).Ends after clock (.ok ending) after [] := by
    rw [finish]
    exact ends_pure
  unfold run
  exact List.append_nil shown ▸ h.bind hfinish

/-- A program starts its work on a machine behind what it has shown of its settings. -/
theorem ends_begin (hread : usage.read texts = .ok arguments)
    (hsettings : (readSettings arguments).Ends files clock (.ok settings) configured notices)
    {result : Except Error Stage} (hwork : (work arguments settings).Ends configured clock result after shown) :
    (begin texts).Ends files clock result after (notices ++ shown) := by
  unfold begin Job.withArguments
  rw [hread]
  exact (hsettings.map some).reporting_ok.bind hwork

/-- A program ends as its work on a machine does. -/
theorem ends_run (hread : usage.read texts = .ok arguments)
    (hsettings : (readSettings arguments).Ends files clock (.ok settings) configured notices) {ending : Ending}
    (hwork : (work arguments settings).Ends configured clock (.ok (.ended ending)) after shown)
    (answers : List String) :
    (run texts answers).Ends files clock (.ok ending) after (notices ++ shown) :=
  ends_run_ended (ends_begin hread hsettings hwork) answers

section Work

variable {inputs : List Json} (hinputs : arguments.values "--input" = inputs) (hne : inputs ≠ [])
  (hmachine : d.StoredAt configured (arguments.operand "machine"))
include hinputs hne hmachine

/-- The work on the inputs of a command line. -/
theorem ends_inputs {result : Except Error Unit}
    (hrun : (runInputs d inputs settings).Ends configured clock result after shown) :
    (do let d ← Definition.load (.str (arguments.operand "machine"))
        match arguments.values "--input" with
        | [] => openSession d settings
        | inputs => do
            runInputs d inputs settings
            return .ended .done : Job Stage).Ends configured clock (result.map fun _ => .ended .done) after shown := by
  refine hmachine.load.andThen ?_
  rw [hinputs]
  obtain ⟨v, rest, rfl⟩ := List.exists_cons_of_ne_nil hne
  cases result with
  | error e => exact hrun.bind_error
  | ok => exact List.append_nil shown ▸ hrun.bind ends_pure

/-- Inputs that are run end the work well. -/
theorem ends_work (hrun : (runInputs d inputs settings).Ends configured clock (.ok ()) after shown) :
    (work arguments settings).Ends configured clock (.ok (.ended .done)) after shown :=
  (ends_inputs hinputs hne hmachine hrun).reporting_ok

/-- An input that is refused is all that the work tells of. -/
theorem ends_work_refused {e : InputError} {text : String}
    (hrun : (runInputs d inputs settings).Ends configured clock (.error (.input e)) configured [])
    (htext : Markup.render (styled "red" ("Error: " ++ Markup.escape e.message)) = .ok text) :
    (work arguments settings).Ends configured clock (.ok (.ended .failed)) configured [.print text] :=
  (ends_inputs hinputs hne hmachine hrun).reporting_error rfl htext

end Work

/-- **A batch is all or nothing.** Reading the settings has made directories at most, and has shown nothing but that
    there is no settings file. If the machine refuses an input, one error for the first such input is shown, the program
    ends with status 1, and nothing else has happened. If it refuses none, all results are shown, the files gain the
    lines of all of them, and the counts that are shown at the end are the numbers of these lines. -/
theorem batch_all_or_nothing (hread : usage.read texts = .ok arguments) (hinputs : arguments.values "--input" ≠ [])
    (hsettings : (readSettings arguments).Ends files clock (.ok settings) configured notices)
    (hmachine : d.StoredAt files (arguments.operand "machine")) (answers : List String) :
    files.AddsDirectories configured ∧ Notices (settingsPath arguments) notices ∧
      ((∃ v ∈ arguments.values "--input", d.Refuses v) → ∃ front v rest symbols text,
        arguments.values "--input" = front ++ v :: rest ∧ (∀ w ∈ front, ¬ d.Refuses w) ∧ d.Refuses v ∧
        d.readInput v = .error (.input { input := v, symbols }) ∧
        Markup.render (styled "red" ("Error: " ++ Markup.escape (InputError.message { input := v, symbols }))) =
          .ok text ∧
        (run texts answers).Ends files clock (.ok .failed) configured (notices ++ [.print text]) ∧
        Ending.failed.status = 1) ∧
      ((∀ v ∈ arguments.values "--input", ¬ d.Refuses v) → settings.logRuns = true → ∀ opened main place,
        settings.LogsIn clock configured opened main place → (∀ outcome, main ≠ place outcome) →
        ∃ results shown after,
          results.map .ok = (arguments.values "--input").map (d.run · settings.limits) ∧
          (run texts answers).Ends files clock (.ok .done) after
            (notices ++ (shown ++ [.print (summarize (results.map (·.outcome))).seen])) ∧
          files.GainsResults after main place d.name clock results ∧
          (summarize (results.map (·.outcome))).Counts results (arguments.values "--input").length) := by
  obtain ⟨hadds, hnotices⟩ := notices_of_readSettings hsettings
  have hstored := hmachine.of_grows hadds.grows
  refine ⟨hadds, hnotices, fun hrefused => ?_, fun htaken hlogs opened main place hlog hne => ?_⟩
  · obtain ⟨front, v, rest, hsplit, hfront, hv⟩ := exists_first hrefused
    have hcases {w : Json} (hw : w ∈ front ++ v :: rest) := d.readInput_cases (shape_of_input hread (hsplit ▸ hw))
    have htake (w : Json) (hw : w ∈ front) : ∃ input, d.readInput w = .ok input :=
      (hcases (List.mem_append_left _ hw)).elim And.right fun h => absurd h.1 (hfront w hw)
    obtain ⟨hno, _⟩ | ⟨_, symbols, hsymbols⟩ := hcases (w := v) (by simp)
    · exact absurd hv hno
    have hfits : Fits ("Error: " ++ Markup.escape (InputError.message { input := v, symbols })) :=
      Plain.fits_append (by decide) (fits_escape _)
    have hred : "red" ∈ styleNames := by decide
    obtain ⟨text, htext⟩ := (fits_styled hred hfits).exists_render
    refine ⟨front, v, rest, symbols, text, hsplit, hfront, hv, hsymbols, htext, ?_, rfl⟩
    have hrun := ends_runInputs_refused clock configured htake hsymbols rest settings
    exact ends_run hread hsettings (ends_work_refused hsplit (by simp) hstored hrun htext) answers
  · have htake (v : Json) (hv : v ∈ arguments.values "--input") : ∃ input, d.readInput v = .ok input :=
      (d.readInput_cases (shape_of_input hread hv)).elim And.right fun h => absurd h.1 (htaken v hv)
    obtain ⟨results, shown, hresults, hrun⟩ := ends_runInputs htake hlogs hlog
    have hwork := ends_work rfl hinputs hstored hrun
    refine ⟨results, shown, _, hresults, ends_run hread hsettings hwork answers, hlog.gainsResults hadds hne _ _, ?_⟩
    have hlength := congrArg List.length hresults
    rw [List.length_map, List.length_map] at hlength
    exact hlength ▸ counts_summarize results

/-- The files of a machine, of settings that name a directory for the logs, and of this directory. -/
def batchFiles : FileTree :=
  ((((⟨∅, []⟩ : FileTree).set ["odd.json"] (.file Definition.oddDocument)).set ["config"] .directory).set
    ["config", "runtime_config.json"] (.file "\x7b\"output_directory\": \"logs\"\x7d")).set ["logs"] .directory

/-- The machine and some words. -/
def batchArguments (words : List String) : Arguments :=
  { operands := [("machine", "odd.json")], given := words.map fun word => ("--input", .str word) }

/-- What reading the settings gives. -/
def batchRead (words : List String) : Except Error Settings × Workspace :=
  (readSettings (batchArguments words)).start ⟨batchFiles, ⟨2024, 1, 1, 0, 0, 0, 0⟩, #[]⟩

/-- The settings are read as it is computed. -/
theorem exists_ends_batchRead {words : List String} (h : (batchRead words).1.toOption = some settings) : ∃ notices,
    (readSettings (batchArguments words)).Ends batchFiles ⟨2024, 1, 1, 0, 0, 0, 0⟩ (.ok settings)
      (batchRead words).2.files notices := by
  obtain ⟨result, after, notices, hends, _⟩ :=
    ends_readSettings (batchArguments words) batchFiles ⟨2024, 1, 1, 0, 0, 0, 0⟩
  obtain ⟨hresult, hafter⟩ := hends.start_eq
  rw [batchRead, hresult, toOption_eq_some] at h
  rw [batchRead, hafter, ← h]
  exact ⟨notices, hends⟩

/-- The machine of these files refuses one word and takes another. -/
theorem exists_refuses_batchFiles : ∃ d : Definition, d.StoredAt batchFiles "odd.json" ∧ d.Refuses (.str "ab") ∧
    ¬ d.Refuses (.str "aaa") := by
  have hopens : batchFiles.Opens (Path.ofText "odd.json").text ["odd.json"] := by decide +kernel
  obtain ⟨d, hstored, htaken, hrefused⟩ := Definition.exists_storedAt_of_file hopens rfl (by decide +kernel)
  refine ⟨d, hstored, ?_, fun h => ?_⟩
  · obtain ⟨_, input, hinput⟩ | ⟨h, _⟩ := d.readInput_cases (v := .str "ab") (.inr ⟨_, rfl⟩)
    · rw [hinput] at hrefused
      cases hrefused
    · exact h
  · obtain ⟨hno, _⟩ | ⟨_, symbols, hsymbols⟩ := d.readInput_cases (v := .str "aaa") (.inr ⟨_, rfl⟩)
    · exact hno h
    · rw [hsymbols] at htaken
      cases htaken

/-- Two command lines: one with a word that the machine refuses, and one without. -/
theorem batch_all_or_nothing_sample : ∃ (d : Definition) (notices : List Event) (text : String)
    (results : List (Result Char)) (after : FileTree),
    batchFiles.AddsDirectories (batchRead ["aaa", "ab"]).2.files ∧
    (run ["odd.json", "-i", "aaa", "-i", "ab"] []).Ends batchFiles ⟨2024, 1, 1, 0, 0, 0, 0⟩ (.ok .failed)
      (batchRead ["aaa", "ab"]).2.files (notices ++ [.print text]) ∧
    results.map .ok = [d.run (.str "aaa") Settings.usual.limits] ∧
    (run ["odd.json", "-i", "aaa"] []).Leaves batchFiles ⟨2024, 1, 1, 0, 0, 0, 0⟩ (.ok .done) after ∧
    batchFiles.GainsResults after ["logs", "tm_2024-01-01.jsonl"]
      (fun outcome => ["logs", outcomeFile outcome ⟨2024, 1, 1, 0, 0, 0, 0⟩]) d.name ⟨2024, 1, 1, 0, 0, 0, 0⟩
      results := by
  obtain ⟨d, hstored, hrefuses, htakes⟩ := exists_refuses_batchFiles
  -- one word is refused
  have hread : usage.read ["odd.json", "-i", "aaa", "-i", "ab"] = .ok (batchArguments ["aaa", "ab"]) :=
    toOption_eq_some.mp (by decide +kernel)
  have husual : (batchRead ["aaa", "ab"]).1.toOption = some .usual := by decide +kernel
  obtain ⟨notices, hsettings⟩ := exists_ends_batchRead husual
  obtain ⟨hadds, _, hnothing, _⟩ := batch_all_or_nothing hread (by decide +kernel) hsettings hstored []
  obtain ⟨_, _, _, _, text, _, _, _, _, _, hfailed, _⟩ := hnothing ⟨.str "ab", by decide +kernel, hrefuses⟩
  -- none is refused
  have hread : usage.read ["odd.json", "-i", "aaa"] = .ok (batchArguments ["aaa"]) :=
    toOption_eq_some.mp (by decide +kernel)
  have husual : (batchRead ["aaa"]).1.toOption = some .usual := by decide +kernel
  obtain ⟨_, hsettings⟩ := exists_ends_batchRead husual
  obtain ⟨_, _, _, hall⟩ := batch_all_or_nothing hread (by decide +kernel) hsettings hstored []
  have hlog : Settings.usual.LogsIn ⟨2024, 1, 1, 0, 0, 0, 0⟩ (batchRead ["aaa"]).2.files (batchRead ["aaa"]).2.files
      ["logs", "tm_2024-01-01.jsonl"] fun outcome => ["logs", outcomeFile outcome ⟨2024, 1, 1, 0, 0, 0, 0⟩] :=
    Settings.logsIn_usual (by decide +kernel) (by decide +kernel) fun outcome => by cases outcome <;> decide +kernel
  have hnone : ∀ v ∈ (batchArguments ["aaa"]).values "--input", ¬ d.Refuses v := fun v hv => by
    rw [show (batchArguments ["aaa"]).values "--input" = [.str "aaa"] by decide +kernel] at hv
    rw [List.mem_singleton.mp hv]
    exact htakes
  obtain ⟨results, _, after, hresults, hdone, hgains, _⟩ := hall hnone rfl _ _ _ hlog fun outcome => by
    cases outcome <;> decide +kernel
  exact ⟨d, notices, text, results, after, hadds, hfailed, hresults, hdone.leaves, hgains⟩

end Simulator

end TapeMachine
