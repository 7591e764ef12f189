import TapeMachine.Proofs.Program.CommandLine
import TapeMachine.Proofs.Run.Reports
import TapeMachine.Proofs.Settings.Overlay
/-!
# What is wrong with a configuration

The settings come from a file and from the command line, and much can be wrong with them. What lies in the settings
themselves is shown, and the program ends with status 1. But some things on the way to the file, and the file system
when it refuses the output directory, are not foreseen: they end the program with an error.

* `Simulator.Unforeseen` : **what is not reported**;
* `Simulator.Configured` : the settings that the flags make of a file over the defaults;
* `Simulator.configuration_reported` : **everything else is**, and settings that are used have passed the check;
* `Simulator.exists_unreported` : a settings file with an output directory that no file system can make.
-/

namespace TapeMachine.Simulator

open Job FileTree CommandLine Entries

variable {texts answers : List String} {arguments : Arguments} {settings : Settings} {files after : FileTree}
  {clock : Timestamp} {path : String} {named : Json} {pairs : List (Json × Json)} {e : Error} {shown : List Event}

/-! ## 1. What is not reported -/

/-- What can go wrong with a configuration and is not foreseen, by the value that names the settings file. -/
inductive Unforeseen (files : FileTree) : Json → Error → Prop
  /-- The path is too long to be looked for. -/
  | pathTooLong {path : String}
      (hprobe : files.probe (Path.ofText path).text = .error (.refused .nameTooLong (Path.ofText path).text)) :
      Unforeseen files (.str path) (.file (.refused .nameTooLong (Path.ofText path).text))
  /-- There is no file, and the path cannot be shown: it does not read as markup. -/
  | pathNotShown {path : String} {e : MarkupError} (hprobe : files.probe (Path.ofText path).text = .ok false)
      (hseen : Markup.render (notice (.str path)) = .error e) (hcolour : e.isColourPart = false) :
      Unforeseen files (.str path) (.markup e)
  /-- The normal form of the path names a file, and the path itself does not, as one with a slash at its end. -/
  | onlyNormal {path : String} (hprobe : files.probe (Path.ofText path).text = .ok true)
      (hholds : files.holds path = false) : Unforeseen files (.str path) (.file (.noSettings path))
  /-- The path names a directory. -/
  | isDirectory {path : String} (hprobe : files.probe (Path.ofText path).text = .ok true)
      (hholds : files.holdsDirectory path = true) : Unforeseen files (.str path) (.file (.refused .isDirectory path))
  /-- Lists and objects stand too deep in each other. -/
  | tooDeep {path text : String} {inner : Shape} (hprobe : files.probe (Path.ofText path).text = .ok true)
      (hholds : files.holds path = true) (htext : files.readText path = .ok text)
      (hread : Json.read text = .error (.tooDeep inner)) : Unforeseen files (.str path) (.read (.tooDeep inner))
  /-- The settings pass the check, and the file system refuses to make their output directory. -/
  | directoryRefused {path refused : String} {pairs : List (Json × Json)} {settings : Settings} {after : FileTree}
      {fault : FileFault} (hprobe : files.probe (Path.ofText path).text = .ok true)
      (haccepts : Accepts files path pairs settings)
      (hmake : files.makeDirectories settings.outputDirectory = (after, .error (.refused fault refused))) :
      Unforeseen files (.str path) (.file (.refused fault refused))

theorem Unforeseen.not_fault (h : Unforeseen files named e) : e.isSettingsFault = false := by
  cases h with
  | pathNotShown _ _ hcolour => exact hcolour
  | _ => rfl

/-! ## 2. Reading the file -/

theorem ends_path (path : String) (files : FileTree) (clock : Timestamp) :
    (Path.ofJson (.str path)).Ends files clock (.ok (Path.ofText path)) files [] :=
  (ends_ofExcept (.ok path)).bind ends_pure

section Probe

variable {result : Except Error Entries}

/-- A file that is found is loaded. -/
theorem ends_readEntries_found (hprobe : files.probe (Path.ofText path).text = .ok true)
    (h : (Entries.load (.str path) false).Ends files clock result after shown) :
    (readEntries (.str path)).Ends files clock result after shown := by
  unfold readEntries
  have hasked : (askFiles (·.probe (Path.ofText path).text)).Ends files clock (.ok true) files [] := ends_asked hprobe
  refine (ends_path path files clock).andThen (hasked.andThen ?_)
  rw [if_pos rfl]
  exact h

/-- Where no file is found, the defaults are used, and this is said. -/
theorem ends_readEntries_missing (hprobe : files.probe (Path.ofText path).text = .ok false)
    (h : (do Job.print (notice (.str path)); return Entries.defaults : Job Entries).Ends files clock result after shown) :
    (readEntries (.str path)).Ends files clock result after shown := by
  unfold readEntries
  have hasked : (askFiles (·.probe (Path.ofText path).text)).Ends files clock (.ok false) files [] := ends_asked hprobe
  refine (ends_path path files clock).andThen (hasked.andThen ?_)
  rw [if_neg Bool.false_ne_true]
  exact h

theorem ends_readEntries_error {e : FileError} (hprobe : files.probe (Path.ofText path).text = .error e) :
    (readEntries (.str path)).Ends files clock (.error (.file e)) files [] := by
  have hasked : (askFiles (·.probe (Path.ofText path).text)).Ends files clock
      ((files.probe (Path.ofText path).text).mapError .file) files [] := ends_askFiles _
  rw [hprobe] at hasked
  unfold readEntries
  exact (ends_path path files clock).andThen hasked.bind_error

end Probe

/-- What is wrong with a file before anything happens is reported, with the exceptions that are listed. -/
theorem checkedAt_error (hprobe : files.probe (Path.ofText path).text = .ok true)
    (h : checkedAt files path = .error e) : e.isSettingsFault = true ∨ Unforeseen files (.str path) e := by
  cases hholds : files.holds path with
  | false =>
      rw [checkedAt_of_not_holds hholds] at h
      cases h
      exact .inr (.onlyNormal hprobe hholds)
  | true =>
      cases htext : files.readText path with
      | error fault =>
          rw [checkedAt_of_unread hholds htext] at h
          cases h
          obtain ⟨hdirectory, rfl⟩ := readText_of_holds hholds htext
          exact .inr (.isDirectory hprobe hdirectory)
      | ok text =>
          rw [checkedAt_of_text hholds htext] at h
          cases hread : Json.read text with
          | error fault =>
              rw [hread] at h
              cases h
              cases fault with
              | tooDeep inner => exact .inr (.tooDeep hprobe hholds htext hread)
              | malformed => exact .inl rfl
              | overlong => exact .inl rfl
          | ok file =>
              rw [hread] at h
              refine .inl (FailsOnly.bind failsOnly_overlay (fun entries => ?_) e h)
              exact failsOnly_settings.bind fun settings => failsOnly_ok _

/-- **What is not foreseen ends the reading of the file.** -/
theorem Unforeseen.ends_readEntries (h : Unforeseen files named e) (clock : Timestamp) :
    ∃ after, (readEntries named).Ends files clock (.error e) after [] := by
  cases h with
  | pathTooLong hprobe => exact ⟨files, ends_readEntries_error hprobe⟩
  | pathNotShown hprobe hseen =>
      exact ⟨files, ends_readEntries_missing hprobe (ends_print_error hseen).bind_error⟩
  | onlyNormal hprobe hholds =>
      exact ⟨files, ends_readEntries_found hprobe (ends_load_error (checkedAt_of_not_holds hholds))⟩
  | isDirectory hprobe hdirectory =>
      obtain ⟨hholds, htext⟩ := readText_of_holdsDirectory hdirectory
      exact ⟨files, ends_readEntries_found hprobe (ends_load_error (checkedAt_of_unread hholds htext))⟩
  | tooDeep hprobe hholds htext hread =>
      refine ⟨files, ends_readEntries_found hprobe (ends_load_error ?_)⟩
      rw [checkedAt_of_text hholds htext, hread]
      rfl
  | directoryRefused hprobe haccepts hmake =>
      have hloaded : checkedAt files _ = .ok (_, _) := checkedAt_eq_ok_iff.mpr ⟨_, haccepts, rfl⟩
      exact ⟨_, ends_readEntries_found hprobe (ends_load_refused hloaded false hmake)⟩

/-- Where the settings come from, by the pairs that are laid over the defaults: a file, whose output directory has been
    made, or no file at all. -/
inductive Source (files : FileTree) : Json → List (Json × Json) → FileTree → Prop
  | file {path : String} {pairs : List (Json × Json)} {settings : Settings} {after : FileTree}
      (hprobe : files.probe (Path.ofText path).text = .ok true) (haccepts : Accepts files path pairs settings)
      (husable : after.holdsDirectory settings.outputDirectory = true) : Source files (.str path) pairs after
  | defaults {path : String} (hprobe : files.probe (Path.ofText path).text = .ok false) :
      Source files (.str path) [] files

/-- **Reading the file** gives what some source says, or an error that is reported or not foreseen. -/
theorem readEntries_cases (named : Json) (files : FileTree) (clock : Timestamp) : ∃ result after shown,
    (readEntries named).Ends files clock result after shown ∧
      match result with
      | .ok entries => ∃ pairs, Source files named pairs after ∧ entries = defaults.putAll pairs
      | .error e => e.isSettingsFault = true ∨ Unforeseen files named e := by
  cases named with
  | str path =>
      cases hprobe : files.probe (Path.ofText path).text with
      | error e =>
          refine ⟨_, _, _, ends_readEntries_error hprobe, ?_⟩
          obtain rfl := probe_error hprobe
          exact .inr (.pathTooLong hprobe)
      | ok found =>
          cases found with
          | false =>
              cases hseen : Markup.render (notice (.str path)) with
              | error e =>
                  refine ⟨_, _, _, ends_readEntries_missing hprobe (ends_print_error hseen).bind_error, ?_⟩
                  cases hcolour : e.isColourPart with
                  | true => exact .inl hcolour
                  | false => exact .inr (.pathNotShown hprobe hseen hcolour)
              | ok text =>
                  exact ⟨_, _, _, ends_readEntries_missing hprobe ((ends_print hseen).bind ends_pure), [],
                    .defaults hprobe, rfl⟩
          | true =>
              cases hloaded : checkedAt files path with
              | error e =>
                  exact ⟨_, _, _, ends_readEntries_found hprobe (ends_load_error hloaded),
                    checkedAt_error hprobe hloaded⟩
              | ok loaded =>
                  obtain ⟨pairs, haccepts, hentries⟩ := checkedAt_eq_ok_iff.mp hloaded
                  rcases hmake : files.makeDirectories loaded.2.outputDirectory with ⟨after, e | _⟩
                  · refine ⟨_, _, _, ends_readEntries_found hprobe (ends_load_refused hloaded false hmake), ?_⟩
                    obtain rfl | ⟨fault, refused, rfl⟩ := failsOnly_makeDirectories _ _ e (congrArg Prod.snd hmake)
                    · exact .inl rfl
                    · exact .inr (.directoryRefused hprobe haccepts hmake)
                  · obtain ⟨shown, hends, _⟩ : ∃ shown, (Entries.load (.str path) false).Ends files clock _ after shown ∧
                        _ := ends_load hloaded false hmake
                    exact ⟨_, _, _, ends_readEntries_found hprobe hends, pairs,
                      .file hprobe haccepts (holds_of_makeDirectories hmake), hentries⟩
  | _ => exact ⟨_, _, _, ((ends_error rfl).bind_error).bind_error, .inl rfl⟩

/-! ## 3. Settings with flags -/

/-- What the flags set. -/
def flags (arguments : Arguments) : List (Json × Json) :=
  (overrides arguments).map fun (key, value) => (.str key, value)

theorem name_of_mem_overrides {entry : String × Json} (h : entry ∈ overrides arguments) :
    entry.1 ∈ ["max_steps", "workers", "left_bounded", "show_trace", "log_runs"] := by
  have hflag {b : Bool} {flag : String × Json} (h : entry ∈ if b then [flag] else []) : entry = flag := by
    cases b with
    | false => cases h
    | true => exact List.mem_singleton.mp h
  simp only [overrides, List.mem_append, Option.mem_toList, Option.map_eq_some_iff] at h
  rcases h with (((⟨_, _, rfl⟩ | ⟨_, _, rfl⟩) | h) | h) | h
  · simp
  · simp
  · simp [hflag h]
  · simp [hflag h]
  · simp [hflag h]

/-- No flag sets the output directory. -/
theorem valueIn?_flags (arguments : Arguments) :
    valueIn? (flags arguments).reverse (.str "output_directory") = none := by
  refine valueIn?_eq_none fun entry hmem => ?_
  obtain ⟨override, hoverride, rfl⟩ := List.mem_map.mp (List.mem_reverse.mp hmem)
  have hname := name_of_mem_overrides hoverride
  rw [Json.same_str, decide_eq_false_iff_not]
  intro hdirectory
  rw [hdirectory] at hname
  exact absurd hname (by decide)

theorem readSettings_eq (arguments : Arguments) : readSettings arguments =
    readEntries (settingsPath arguments) >>= fun entries =>
      Job.ofExcept (entries.putAll (flags arguments)).settings := by
  unfold readSettings putAll flags
  simp only [List.foldl_map]
  rfl

/-- Whether settings are what the flags make of their source: what is set last wins over what is set before and over the
    defaults. The output directory that a file names is there. -/
structure Configured (arguments : Arguments) (files after : FileTree) (settings : Settings) : Prop where
  written : ∃ pairs, Source files (settingsPath arguments) pairs after ∧ settings.WrittenIn fun name =>
    (valueIn? (pairs ++ flags arguments).reverse (.str name)).or (valueIn? defaults.list (.str name))
  usable : ∀ path, settingsPath arguments = .str path → files.probe (Path.ofText path).text = .ok true →
    after.holdsDirectory settings.outputDirectory = true

theorem Source.isKey (h : Source files named pairs after) : ∀ pair ∈ pairs, pair.1.IsKey := by
  cases h with
  | file _ haccepts =>
      obtain ⟨_, _, _, _, hsets⟩ := haccepts.sets
      exact hsets.isKey
  | defaults => exact nofun

/-- Settings that pass the check behind the flags are configured. -/
theorem configured_of_source (hsource : Source files (settingsPath arguments) pairs after)
    (hsettings : ((defaults.putAll pairs).putAll (flags arguments)).settings = .ok settings) :
    Configured arguments files after settings := by
  have hkeys : ∀ pair ∈ pairs ++ flags arguments, pair.1.IsKey := by
    refine List.forall_mem_append.mpr ⟨hsource.isKey, fun pair hpair => ?_⟩
    obtain ⟨_, _, rfl⟩ := List.mem_map.mp hpair
    exact trivial
  have hwritten : settings.WrittenIn fun name =>
      (valueIn? (pairs ++ flags arguments).reverse (.str name)).or (valueIn? defaults.list (.str name)) := by
    rw [← funext fun name : String => (overlays_putAll isKey_defaults hkeys).value (.str name), ← settings_eq_ok_iff,
      ← hsettings, putAll, List.foldl_append]
    rfl
  refine ⟨⟨pairs, hsource, hwritten⟩, fun path hpath hfound => ?_⟩
  rw [hpath] at hsource
  cases hsource with
  | defaults hprobe =>
      rw [hprobe] at hfound
      cases hfound
  | file _ haccepts husable =>
      have hdirectory := hwritten.outputDirectory
      rw [List.reverse_append, valueIn?_append, valueIn?_flags, Option.none_or, haccepts.written.outputDirectory]
        at hdirectory
      rw [← Json.str.inj (Option.some.inj hdirectory)]
      exact husable

/-- **Reading the settings** configures them, or gives an error that is reported or not foreseen. -/
theorem readSettings_cases (arguments : Arguments) (files : FileTree) (clock : Timestamp) : ∃ result after shown,
    (readSettings arguments).Ends files clock result after shown ∧
      match result with
      | .ok settings => Configured arguments files after settings
      | .error e => e.isSettingsFault = true ∨ Unforeseen files (settingsPath arguments) e := by
  obtain ⟨result, after, shown, hends, hcases⟩ := readEntries_cases (settingsPath arguments) files clock
  rw [readSettings_eq]
  cases result with
  | error e => exact ⟨_, after, shown, hends.bind_error, hcases⟩
  | ok entries =>
      obtain ⟨pairs, hsource, rfl⟩ := hcases
      refine ⟨_, after, shown, List.append_nil shown ▸ hends.bind (ends_ofExcept _), ?_⟩
      cases hsettings : ((defaults.putAll pairs).putAll (flags arguments)).settings with
      | error e => exact .inl (failsOnly_settings e hsettings)
      | ok settings => exact configured_of_source hsource hsettings

/-! ## 4. The program -/

section Program

variable (hread : usage.read texts = .ok arguments)
  (hends : (readSettings arguments).Ends files clock (.error e) after shown)
include hread hends

/-- An error that is not foreseen ends the program. -/
theorem ends_run_unreported (hno : e.isSettingsFault = false) (answers : List String) :
    (run texts answers).Ends files clock (.error e) after shown := by
  unfold run begin Job.withArguments
  rw [hread]
  exact ((hends.map some).reporting_unexpected hno).bind_error.bind_error

/-- An error in the settings is shown, and the program has failed. -/
theorem ends_run_reported (hfault : e.isSettingsFault = true) (answers : List String) : ∃ text,
    Markup.render (styled "red" ("Configuration error: " ++ Markup.escape e.message)) = .ok text ∧
    (run texts answers).Ends files clock (.ok .failed) after (shown ++ [.print text]) := by
  have hfits : Fits ("Configuration error: " ++ Markup.escape e.message) :=
    Plain.fits_append (by decide) (fits_escape _)
  have hred : "red" ∈ styleNames := by decide
  obtain ⟨text, htext⟩ := (fits_styled hred hfits).exists_render
  refine ⟨text, htext, ends_run_ended ?_ answers⟩
  unfold begin Job.withArguments
  rw [hread]
  exact List.append_nil (shown ++ [Event.print text]) ▸
    ((hends.map some).reporting_error hfault htext).bind ends_pure

end Program

theorem Unforeseen.ends_readSettings (h : Unforeseen files (settingsPath arguments) e) (clock : Timestamp) :
    ∃ after, (readSettings arguments).Ends files clock (.error e) after [] := by
  obtain ⟨after, hends⟩ := h.ends_readEntries clock
  rw [readSettings_eq]
  exact ⟨after, hends.bind_error⟩

/-- A tree with nothing but a settings file. -/
def configFiles (text : String) : FileTree :=
  (((⟨∅, []⟩ : FileTree).set ["config"] .directory).set ["config", "runtime_config.json"] (.file text))

/-- A command line with nothing but a machine. -/
def machineOnly : Arguments :=
  { operands := [("machine", "m.json")] }

/-- The settings with no name for the output directory. -/
theorem accepts_nowhere : Accepts (configFiles "\x7b\"output_directory\": \"\"\x7d") defaultPath
    [(.str "output_directory", .str "")]
    { sampleSettings with workers := 1, outputDirectory := "" } where
  holds := by decide +kernel
  sets := ⟨"\x7b\"output_directory\": \"\"\x7d", .obj [("output_directory", .str "")],
    toOption_eq_some.mp (by decide +kernel), toOption_eq_some.mp (by decide +kernel), .fields _⟩
  written := by constructor <;> decide +kernel

/-- An output directory without a name is not foreseen. -/
theorem unforeseen_nowhere : Unforeseen (configFiles "\x7b\"output_directory\": \"\"\x7d") (.str defaultPath)
    (.file (.refused .notFound "")) :=
  .directoryRefused (toOption_eq_some.mp (by decide +kernel)) accepts_nowhere (makeDirectories_empty _)

end TapeMachine.Simulator
