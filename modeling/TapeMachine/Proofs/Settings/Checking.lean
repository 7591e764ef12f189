import TapeMachine.Proofs.Except
import TapeMachine.Proofs.Json.Keys
import TapeMachine.Settings
/-!
# What passes the check

Settings pass the check when each key has a value of its own shape and the two numbers lie in their ranges. Then the
checked settings are what is written. All that the check can say otherwise is that something is wrong with a setting.

* `Settings.WrittenIn`, `Settings.ofJson_eq_ok_iff` : **settings pass the check exactly when they are written there**;
* `Settings.failsOnly_ofJson` : every error of the check is one that a program reports;
* `Entries.valueIn?`, `Entries.settings_eq_ok_iff` : the value under a key, and the check of entries.
-/

namespace TapeMachine

/-! ## 1. Single keys -/

namespace Settings

variable {fields : Fields} {key : String}

theorem value_eq : value (.obj fields) key =
    match Fields.get? fields key with
    | some v => .ok v
    | none => .error (.settings (.missing key)) := by
  have hvalue : value (.obj fields) key =
      if Fields.has fields key then .ok ((Fields.get? fields key).getD .null)
      else .error (.settings (.missing key)) := rfl
  rw [hvalue, Fields.has_iff_isSome_get?]
  cases Fields.get? fields key <;> rfl

theorem whole_eq_ok_iff {n : Int} : whole (.obj fields) key = .ok n ↔ Fields.get? fields key = some (.int n) := by
  rw [whole, value_eq]
  cases Fields.get? fields key with
  | none => exact ⟨nofun, nofun⟩
  | some v => cases v <;> simp [bind, Except.bind, pure, Except.pure, throw, throwThe, MonadExceptOf.throw]

theorem flag_eq_ok_iff {b : Bool} : flag (.obj fields) key = .ok b ↔ Fields.get? fields key = some (.bool b) := by
  rw [flag, value_eq]
  cases Fields.get? fields key with
  | none => exact ⟨nofun, nofun⟩
  | some v => cases v <;> simp [bind, Except.bind, pure, Except.pure, throw, throwThe, MonadExceptOf.throw]

theorem text_eq_ok_iff {s : String} : text (.obj fields) key = .ok s ↔ Fields.get? fields key = some (.str s) := by
  rw [text, value_eq]
  cases Fields.get? fields key with
  | none => exact ⟨nofun, nofun⟩
  | some v => cases v <;> simp [bind, Except.bind, pure, Except.pure, throw, throwThe, MonadExceptOf.throw]

/-! ## 2. All keys -/

/-- Whether settings are what is written: each key has a value of its own shape, and the two numbers lie in their
    ranges. Here a number of steps is never negative. -/
structure WrittenIn (settings : Settings) (value? : String → Option Json) : Prop where
  maxSteps : value? "max_steps" = some (.int settings.maxSteps)
  leftBounded : value? "left_bounded" = some (.bool settings.leftBounded)
  workers : value? "workers" = some (.int settings.workers)
  logRuns : value? "log_runs" = some (.bool settings.logRuns)
  showTrace : value? "show_trace" = some (.bool settings.showTrace)
  outputDirectory : value? "output_directory" = some (.str settings.outputDirectory)
  logFilePrefix : value? "log_file_prefix" = some (.str settings.logFilePrefix)
  resultsDirectory : value? "results_directory" = some (.str settings.resultsDirectory)
  workers_pos : 1 ≤ settings.workers

/-- **Settings pass the check exactly when they are written there.** -/
theorem ofJson_eq_ok_iff {settings : Settings} :
    ofJson (.obj fields) = .ok settings ↔ settings.WrittenIn (Fields.get? fields) := by
  unfold ofJson
  constructor
  · intro h
    obtain ⟨maxSteps, hmaxSteps, h⟩ := exists_of_bind_eq_ok h
    obtain ⟨leftBounded, hleftBounded, h⟩ := exists_of_bind_eq_ok h
    obtain ⟨workers, hworkers, h⟩ := exists_of_bind_eq_ok h
    obtain ⟨logRuns, hlogRuns, h⟩ := exists_of_bind_eq_ok h
    obtain ⟨showTrace, hshowTrace, h⟩ := exists_of_bind_eq_ok h
    obtain ⟨outputDirectory, houtputDirectory, h⟩ := exists_of_bind_eq_ok h
    obtain ⟨logFilePrefix, hlogFilePrefix, h⟩ := exists_of_bind_eq_ok h
    obtain ⟨resultsDirectory, hresultsDirectory, h⟩ := exists_of_bind_eq_ok h
    by_cases hsteps : maxSteps < 0
    · rw [if_pos hsteps] at h
      cases h
    by_cases hfew : workers < 1
    · rw [if_neg hsteps, if_pos hfew] at h
      cases h
    rw [if_neg hsteps, if_neg hfew] at h
    cases h
    have hmaxSteps : (maxSteps.toNat : Int) = maxSteps := Int.toNat_of_nonneg (by omega)
    have hworkers : (workers.toNat : Int) = workers := Int.toNat_of_nonneg (by omega)
    exact ⟨by rwa [hmaxSteps, ← whole_eq_ok_iff], flag_eq_ok_iff.mp hleftBounded, by rwa [hworkers, ← whole_eq_ok_iff],
      flag_eq_ok_iff.mp hlogRuns, flag_eq_ok_iff.mp hshowTrace, text_eq_ok_iff.mp houtputDirectory,
      text_eq_ok_iff.mp hlogFilePrefix, text_eq_ok_iff.mp hresultsDirectory, by simp only; omega⟩
  · intro h
    rw [whole_eq_ok_iff.mpr h.maxSteps, flag_eq_ok_iff.mpr h.leftBounded, whole_eq_ok_iff.mpr h.workers,
      flag_eq_ok_iff.mpr h.logRuns, flag_eq_ok_iff.mpr h.showTrace, text_eq_ok_iff.mpr h.outputDirectory,
      text_eq_ok_iff.mpr h.logFilePrefix, text_eq_ok_iff.mpr h.resultsDirectory]
    have hsteps : ¬ (settings.maxSteps : Int) < 0 := by omega
    have hfew : ¬ (settings.workers : Int) < 1 := by have := h.workers_pos; omega
    simp [bind, Except.bind, pure, Except.pure, hsteps, hfew]

/-- All that can be wrong about a key of unknown shape is that it is missing. -/
theorem failsOnly_value : FailsOnly (·.isSettingsFault = true) (value (.obj fields) key) := by
  rw [value_eq]
  cases Fields.get? fields key with
  | none => exact failsOnly_error rfl
  | some v => exact failsOnly_ok v

theorem failsOnly_whole : FailsOnly (·.isSettingsFault = true) (whole (.obj fields) key) :=
  failsOnly_value.bind fun v => by cases v <;> first | exact failsOnly_ok _ | exact failsOnly_error rfl

theorem failsOnly_flag : FailsOnly (·.isSettingsFault = true) (flag (.obj fields) key) :=
  failsOnly_value.bind fun v => by cases v <;> first | exact failsOnly_ok _ | exact failsOnly_error rfl

theorem failsOnly_text : FailsOnly (·.isSettingsFault = true) (text (.obj fields) key) :=
  failsOnly_value.bind fun v => by cases v <;> first | exact failsOnly_ok _ | exact failsOnly_error rfl

/-- **Every error of the check is one that a program reports.** -/
theorem failsOnly_ofJson : FailsOnly (·.isSettingsFault = true) (ofJson (.obj fields)) := by
  unfold ofJson
  refine failsOnly_whole.bind fun maxSteps => failsOnly_flag.bind fun leftBounded => ?_
  refine failsOnly_whole.bind fun workers => failsOnly_flag.bind fun logRuns => ?_
  refine failsOnly_flag.bind fun showTrace => failsOnly_text.bind fun outputDirectory => ?_
  refine failsOnly_text.bind fun logFilePrefix => failsOnly_text.bind fun resultsDirectory => ?_
  by_cases hsteps : maxSteps < 0
  · rw [if_pos hsteps]
    exact failsOnly_error rfl
  · rw [if_neg hsteps]
    by_cases hfew : workers < 1
    · rw [if_pos hfew]
      exact failsOnly_error rfl
    · rw [if_neg hfew]
      exact failsOnly_ok _

end Settings

/-! ## 3. Entries -/

namespace Entries

/-- The value under a key. -/
def valueIn? (list : List (Json × Json)) (key : Json) : Option Json :=
  (list.find? (·.1.same key)).map (·.2)

theorem valueIn?_cons {entry : Json × Json} {list : List (Json × Json)} {key : Json} :
    valueIn? (entry :: list) key = if entry.1.same key then some entry.2 else valueIn? list key := by
  rw [valueIn?, List.find?_cons]
  cases entry.1.same key <;> rfl

theorem valueIn?_eq_none {list : List (Json × Json)} {key : Json} (h : ∀ entry ∈ list, entry.1.same key = false) :
    valueIn? list key = none := by
  rw [valueIn?, List.find?_eq_none.mpr fun entry hentry => by simp [h entry hentry]]
  rfl

/-- The field that an entry is in the object that is checked, if its key is a text. -/
def textField : Json × Json → Option (String × Json)
  | (.str name, value) => some (name, value)
  | _ => none

/-- The fields are the entries under the names. -/
theorem get?_textFields (list : List (Json × Json)) (name : String) :
    Fields.get? (list.filterMap textField) name = valueIn? list (.str name) := by
  induction list with
  | nil => rfl
  | cons entry list ih =>
      obtain ⟨key, value⟩ := entry
      rw [valueIn?_cons, Json.same_str_right]
      cases key with
      | str s =>
          have hfield : textField (.str s, value) = some (s, value) := rfl
          rw [List.filterMap_cons_some hfield, ← ih]
          by_cases h : s = name <;> simp [Fields.get?, h]
      | _ =>
          rw [List.filterMap_cons_none rfl, ih]
          rfl

/-- **Entries pass the check exactly when settings are written there.** -/
theorem settings_eq_ok_iff {entries : Entries} {settings : Settings} :
    entries.settings = .ok settings ↔ settings.WrittenIn fun name => valueIn? entries.list (.str name) := by
  have hfields : entries.toJson = .obj (entries.list.filterMap textField) := by
    rw [toJson]
    congr 2
    funext ⟨key, value⟩
    cases key <;> rfl
  rw [Entries.settings, hfields, Settings.ofJson_eq_ok_iff, funext (get?_textFields entries.list)]

theorem failsOnly_settings {entries : Entries} : FailsOnly (·.isSettingsFault = true) entries.settings :=
  Settings.failsOnly_ofJson

end Entries

end TapeMachine
