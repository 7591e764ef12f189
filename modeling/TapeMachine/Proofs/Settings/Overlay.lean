import Mathlib.Data.List.Forall2
import TapeMachine.Proofs.Settings.Checking
import TapeMachine.Proofs.Workspace.Files
import TapeMachine.Proofs.Workspace.Jobs
/-!
# A file over the defaults

A settings file sets pairs of keys and values: the fields of an object, or items that stand for pairs. They are laid
over the defaults one after the other. So a key has the value that the file gives it last, or its default, and the keys
are those of the defaults and then the new ones, in the order of their first mention. Whether this is what is loaded is
decided before anything happens: if the settings do not pass the check, no directory is made and nothing is shown.

* `Json.Sets`, `Entries.overlay_eq_ok_iff` : **what a value sets**, and which values set something;
* `Entries.Overlays`, `Entries.overlays_putAll` : **what is laid over entries**, by values and by the order of the keys;
* `Entries.Accepts`, `Entries.load_all_or_nothing` : **loading is all or nothing**, whatever has been loaded before.
-/

namespace TapeMachine

open Job FileTree

/-! ## 1. What a file sets -/

namespace Json

/-- Whether a value stands for a pair: it has two items, the first of which can be a key. -/
def IsPair (item : Json) (pair : Json × Json) : Prop :=
  item.items = .ok [pair.1, pair.2] ∧ pair.1.IsKey

/-- The pairs that a value sets, in order: the fields of an object, or what the items of another value stand for. -/
inductive Sets : Json → List (Json × Json) → Prop
  | fields (fields : Fields) : Sets (.obj fields) (fields.map fun field => (.str field.1, field.2))
  | items {value : Json} {items : List Json} {pairs : List (Json × Json)} (hshape : value.shape ≠ .obj)
      (hitems : value.items = .ok items) (hpairs : List.Forall₂ IsPair items pairs) : Sets value pairs

theorem isKey_of_forall₂ {items : List Json} {pairs : List (Json × Json)} (h : List.Forall₂ IsPair items pairs) :
    ∀ pair ∈ pairs, pair.1.IsKey := by
  induction h with
  | nil => exact nofun
  | cons hitem _ ih => exact List.forall_mem_cons.mpr ⟨hitem.2, ih⟩

/-- What is set has keys. -/
theorem Sets.isKey {file : Json} {pairs : List (Json × Json)} (h : file.Sets pairs) : ∀ pair ∈ pairs, pair.1.IsKey := by
  cases h with
  | fields fields =>
      intro pair hpair
      obtain ⟨field, _, rfl⟩ := List.mem_map.mp hpair
      exact trivial
  | items _ _ hpairs => exact isKey_of_forall₂ hpairs

end Json

namespace Entries

open Json

variable {value file item key other : Json} {pair : Json × Json} {pairs list : List (Json × Json)} {index : Nat}

theorem pair_eq_ok_iff : Entries.pair index item = .ok pair ↔ item.IsPair pair := by
  unfold Entries.pair IsPair
  split
  · rename_i hitems
    rw [hitems]
    exact ⟨nofun, nofun⟩
  · rename_i key value hitems
    rw [hitems]
    constructor
    · intro h
      obtain ⟨_, hkey, h⟩ := exists_of_bind_eq_ok h
      cases h
      obtain ⟨rfl, hkey⟩ := asKey_eq_ok_iff.mp (mapError_eq_ok_iff.mp hkey)
      exact ⟨rfl, hkey⟩
    · intro h
      obtain ⟨key, value⟩ := pair
      obtain ⟨heq, hkey⟩ := h
      cases heq
      have hkey := mapError_eq_ok_iff (f := Error.shape).mpr (asKey_eq_ok_iff.mpr ⟨rfl, hkey⟩)
      show (key.asKey.mapError Error.shape >>= _) = _
      rw [hkey]
      rfl
  · rename_i items hne hitems
    rw [hitems]
    refine ⟨nofun, fun h => ?_⟩
    cases h.1
    exact absurd rfl (hne _ _)

/-- Items give pairs when each of them stands for one. -/
theorem mapM_pair_eq_ok_iff {items : List Json} :
    (items.zipIdx index).mapM (fun (item, index) => Entries.pair index item) = .ok pairs ↔
      List.Forall₂ IsPair items pairs := by
  rw [mapM_eq_ok_iff]
  induction items generalizing index pairs with
  | nil => simp [List.forall₂_nil_left_iff]
  | cons item items ih =>
      rw [List.zipIdx_cons, List.map_cons, List.map_eq_cons_iff, List.forall₂_cons_left_iff]
      constructor
      · intro h
        obtain ⟨pair, rest, hpairs, hpair, hrest⟩ := h
        exact ⟨pair, rest, pair_eq_ok_iff.mp hpair.symm, ih.mp hrest, hpairs⟩
      · intro h
        obtain ⟨pair, rest, hpair, hrest, hpairs⟩ := h
        exact ⟨pair, rest, hpairs, (pair_eq_ok_iff.mpr hpair).symm, ih.mpr hrest⟩

/-- **A value gives the pairs that it sets.** -/
theorem pairs_eq_ok_iff : Entries.pairs value = .ok pairs ↔ value.Sets pairs := by
  by_cases hshape : value.shape = .obj
  · cases value with
    | obj fields =>
        constructor
        · intro h
          cases h
          exact .fields fields
        · intro h
          cases h with
          | fields => rfl
          | items hno => exact absurd rfl hno
    | _ => cases hshape
  · have hpairs : Entries.pairs value = (value.items.mapError Error.shape >>= fun items =>
        items.zipIdx.mapM fun (item, index) => Entries.pair index item) := by
      cases value with
      | obj => exact absurd rfl hshape
      | _ => rfl
    rw [hpairs]
    constructor
    · intro h
      obtain ⟨items, hitems, h⟩ := exists_of_bind_eq_ok h
      exact .items hshape (mapError_eq_ok_iff.mp hitems) (mapM_pair_eq_ok_iff.mp h)
    · intro h
      cases h with
      | fields => exact absurd rfl hshape
      | items _ hitems hall =>
          rw [mapError_eq_ok_iff.mpr hitems]
          exact mapM_pair_eq_ok_iff.mpr hall

/-- The entries with some pairs written one after the other. -/
def putAll (entries : Entries) (pairs : List (Json × Json)) : Entries :=
  pairs.foldl (fun entries pair => entries.put pair.1 pair.2) entries

/-- **A file can be laid over entries when it sets something.** -/
theorem overlay_eq_ok_iff {before after : Entries} :
    before.overlay file = .ok after ↔ ∃ pairs, file.Sets pairs ∧ after = before.putAll pairs := by
  unfold overlay
  constructor
  · intro h
    obtain ⟨pairs, hpairs, h⟩ := exists_of_bind_eq_ok h
    cases h
    exact ⟨pairs, pairs_eq_ok_iff.mp hpairs, rfl⟩
  · intro h
    obtain ⟨pairs, hsets, rfl⟩ := h
    rw [pairs_eq_ok_iff.mpr hsets]
    rfl

theorem failsOnly_pair : FailsOnly (·.isSettingsFault = true) (Entries.pair index item) := by
  unfold Entries.pair
  split
  · exact failsOnly_error rfl
  · rename_i key value _
    cases key <;> first | exact failsOnly_ok _ | exact failsOnly_error rfl
  · exact failsOnly_error rfl

/-- **A file that sets nothing has an error that a program reports.** -/
theorem failsOnly_overlay {entries : Entries} : FailsOnly (·.isSettingsFault = true) (entries.overlay file) := by
  have hitems : FailsOnly (·.isSettingsFault = true) (file.items.mapError Error.shape) := by
    cases file <;> first | exact failsOnly_ok _ | exact failsOnly_error rfl
  have hpairs : FailsOnly (·.isSettingsFault = true) (Entries.pairs file) := by
    cases file with
    | obj fields => exact failsOnly_ok _
    | _ => exact hitems.bind fun items => failsOnly_mapM fun _ _ => failsOnly_pair
  exact hpairs.bind fun pairs => failsOnly_ok _

/-! ## 2. What is laid over entries -/

/-- What some pairs change in entries. A key has the value that it is given last, and its old value if it is given none.
    The keys are the old ones in their order, then the new ones in the order of their first mention. -/
structure Overlays (before : Entries) (pairs : List (Json × Json)) (after : Entries) : Prop where
  value : ∀ key, valueIn? after.list key = (valueIn? pairs.reverse key).or (valueIn? before.list key)
  keys : after.list.map (·.1) = before.list.map (·.1) ++
    (distinct (pairs.map (·.1))).filter fun key => (valueIn? before.list key).isNone

/-- **Writing a key is seen under this key and no other one.** -/
theorem valueIn?_putIn (hlist : ∀ entry ∈ list, entry.1.IsKey) (hkey : key.IsKey) :
    valueIn? (putIn key value list) other = if key.same other then some value else valueIn? list other := by
  induction list with
  | nil =>
      rw [putIn, valueIn?_cons]
  | cons entry list ih =>
      obtain ⟨hentry, hlist⟩ := List.forall_mem_cons.mp hlist
      rw [putIn]
      by_cases h : entry.1.same key = true
      · rw [if_pos h, valueIn?_cons, valueIn?_cons, hentry.same_congr hkey h]
        split <;> rfl
      · rw [if_neg h, valueIn?_cons, valueIn?_cons, ih hlist]
        by_cases hother : key.same other = true
        · have hno : ¬ entry.1.same other = true := by
            rwa [hentry.same_iff, ← hkey.same_iff.mp hother, ← hentry.same_iff]
          rw [if_pos hother, if_neg hno, if_pos hother]
        · rw [if_neg hother, if_neg hother]

/-- The keys after writing one: the old ones, then the new one if it is new. -/
theorem keys_putIn : (putIn key value list).map (·.1) =
    list.map (·.1) ++ if (valueIn? list key).isNone then [key] else [] := by
  induction list with
  | nil => rfl
  | cons entry list ih =>
      rw [putIn, valueIn?_cons]
      by_cases h : entry.1.same key = true
      · simp [h]
      · rw [if_neg h, if_neg h, List.map_cons, ih]
        rfl

theorem isKey_putIn (hlist : ∀ entry ∈ list, entry.1.IsKey) (hkey : key.IsKey) :
    ∀ entry ∈ putIn key value list, entry.1.IsKey := by
  have hkeys : ∀ k ∈ (putIn key value list).map (·.1), k.IsKey := by
    rw [keys_putIn, List.forall_mem_append]
    refine ⟨List.forall_mem_map.mpr hlist, ?_⟩
    split
    · exact List.forall_mem_singleton.mpr hkey
    · exact nofun
  exact List.forall_mem_map.mp hkeys

theorem valueIn?_append (front back : List (Json × Json)) (key : Json) :
    valueIn? (front ++ back) key = (valueIn? front key).or (valueIn? back key) := by
  rw [valueIn?, List.find?_append, Option.map_or]
  rfl

/-- **What is written one after the other is laid over the entries.** -/
theorem overlays_putAll {before : Entries} (hbefore : ∀ entry ∈ before.list, entry.1.IsKey)
    (hpairs : ∀ pair ∈ pairs, pair.1.IsKey) : before.Overlays pairs (before.putAll pairs) := by
  induction pairs generalizing before with
  | nil => exact ⟨fun key => rfl, by simp [putAll, distinct]⟩
  | cons pair pairs ih =>
      obtain ⟨hpair, hpairs⟩ := List.forall_mem_cons.mp hpairs
      obtain ⟨hvalue, hkeys⟩ : (before.put pair.1 pair.2).Overlays pairs _ := ih (isKey_putIn hbefore hpair) hpairs
      have hput (key : Json) : valueIn? (before.put pair.1 pair.2).list key =
          if pair.1.same key then some pair.2 else valueIn? before.list key := valueIn?_putIn hbefore hpair
      constructor
      · intro key
        have hsingle : valueIn? [pair] key = if pair.1.same key then some pair.2 else none := valueIn?_cons
        rw [List.reverse_cons, valueIn?_append, Option.or_assoc, hsingle]
        refine (hvalue key).trans ?_
        rw [hput]
        split <;> rfl
      · -- a key is new behind this pair when it was new before and is not the key of the pair
        have hnew (key : Json) : (valueIn? (before.put pair.1 pair.2).list key).isNone =
            ((valueIn? before.list key).isNone && !pair.1.same key) := by
          rw [hput]
          cases pair.1.same key <;> simp
        refine hkeys.trans ?_
        rw [funext hnew, ← List.filter_filter, List.map_cons, distinct]
        show (putIn pair.1 pair.2 before.list).map (·.1) ++ _ = _
        rw [keys_putIn, List.append_assoc, List.filter_cons]
        split <;> rfl

/-! ## 3. Before anything happens -/

variable {files middle after : FileTree} {clock : Timestamp} {path text : String} {settings : Settings}
  {loaded : Entries × Settings} {shown before : List Event}

/-- Whether the file at a path sets some pairs with which the settings over the defaults pass the check. -/
structure Accepts (files : FileTree) (path : String) (pairs : List (Json × Json)) (settings : Settings) : Prop where
  holds : files.holds path = true
  sets : ∃ text file, files.readText path = .ok text ∧ Json.read text = .ok file ∧ file.Sets pairs
  written : settings.WrittenIn fun name =>
    (valueIn? pairs.reverse (.str name)).or (valueIn? defaults.list (.str name))

theorem isKey_defaults : ∀ entry ∈ defaults.list, entry.1.IsKey := by
  simp [defaults, IsKey]

/-- All that loading finds out before it makes a directory: the entries and the settings that have passed the check. -/
def checkedAt (files : FileTree) (path : String) : Except Error (Entries × Settings) := do
  if !files.holds path then
    throw (.file (.noSettings path))
  let text ← (files.readText path).mapError .file
  let file ← (Json.read text).mapError .read
  let entries ← defaults.overlay file
  let settings ← entries.settings
  return (entries, settings)

theorem checkedAt_of_not_holds (h : files.holds path = false) :
    checkedAt files path = .error (.file (.noSettings path)) := by
  rw [checkedAt, if_pos (by simp [h])]
  rfl

theorem checkedAt_of_unread {e : FileError} (hholds : files.holds path = true)
    (htext : files.readText path = .error e) : checkedAt files path = .error (.file e) := by
  rw [checkedAt, if_neg (by simp [hholds]), htext]
  rfl

theorem checkedAt_of_text (hholds : files.holds path = true) (htext : files.readText path = .ok text) :
    checkedAt files path = (do
      let file ← (Json.read text).mapError .read
      let entries ← defaults.overlay file
      let settings ← entries.settings
      return (entries, settings)) := by
  rw [checkedAt, if_neg (by simp [hholds]), htext]
  rfl

/-- **What is found out is what the file sets over the defaults.** -/
theorem checkedAt_eq_ok_iff : checkedAt files path = .ok loaded ↔
    ∃ pairs, Accepts files path pairs loaded.2 ∧ loaded.1 = defaults.putAll pairs := by
  have hwritten {pairs : List (Json × Json)} {settings : Settings} (hkeys : ∀ pair ∈ pairs, pair.1.IsKey) :
      (defaults.putAll pairs).settings = .ok settings ↔ settings.WrittenIn fun name =>
        (valueIn? pairs.reverse (.str name)).or (valueIn? defaults.list (.str name)) := by
    rw [settings_eq_ok_iff, funext fun name : String => (overlays_putAll isKey_defaults hkeys).value (.str name)]
  constructor
  · intro h
    cases hholds : files.holds path with
    | false =>
        rw [checkedAt_of_not_holds hholds] at h
        cases h
    | true =>
        cases htext : files.readText path with
        | error e =>
            rw [checkedAt_of_unread hholds htext] at h
            cases h
        | ok text =>
            rw [checkedAt_of_text hholds htext] at h
            obtain ⟨file, hfile, h⟩ := exists_of_bind_eq_ok h
            obtain ⟨entries, hentries, h⟩ := exists_of_bind_eq_ok h
            obtain ⟨settings, hsettings, h⟩ := exists_of_bind_eq_ok h
            cases h
            obtain ⟨pairs, hsets, rfl⟩ := overlay_eq_ok_iff.mp hentries
            have hpass := (hwritten hsets.isKey).mp hsettings
            exact ⟨pairs, ⟨hholds, ⟨text, file, htext, mapError_eq_ok_iff.mp hfile, hsets⟩, hpass⟩, rfl⟩
  · intro h
    obtain ⟨entries, settings⟩ := loaded
    obtain ⟨pairs, ⟨hholds, hsets, hpass⟩, rfl⟩ := h
    obtain ⟨text, file, htext, hfile, hsets⟩ := hsets
    rw [checkedAt_of_text hholds htext, mapError_eq_ok_iff.mpr hfile]
    show (defaults.overlay file >>= _) = _
    rw [overlay_eq_ok_iff.mpr ⟨pairs, hsets, rfl⟩]
    show ((defaults.putAll pairs).settings >>= _) = _
    rw [(hwritten hsets.isKey).mpr hpass]
    rfl

/-! ## 4. Loading -/

/-- What loading does with what it has found out. -/
def finish (verbose : Bool) (loaded : Entries × Settings) : Job Entries := do
  Job.tryFiles (·.makeDirectories loaded.2.outputDirectory)
  if verbose then
    Job.say s!"[{(← Job.now).text}] Loaded config:"
    loaded.1.list.forM fun (key, value) => Job.say s!"  {key.display}: {value.display}"
  return loaded.1

/-- **Loading finds out everything first**, and then does the rest. -/
theorem ends_load_of {verbose : Bool} {result : Except Error Entries}
    (h : (Job.ofExcept (checkedAt files path) >>= finish verbose).Ends files clock result after shown) :
    (load (.str path) verbose).Ends files clock result after shown := by
  unfold load
  refine (ends_ok rfl).andThen (ends_files.andThen ?_)
  unfold checkedAt at h
  by_cases hholds : files.holds path = true
  · rw [if_neg (by simp [hholds])] at h ⊢
    refine ends_askFiles_bind h fun text h => ends_ofExcept_bind h fun file h => ?_
    exact ends_ofExcept_bind h fun entries h => ends_ofExcept_bind h fun settings h => h
  · rw [if_pos (by simp [hholds])] at h ⊢
    exact h

theorem ends_load_error {e : Error} {verbose : Bool} (h : checkedAt files path = .error e) :
    (load (.str path) verbose).Ends files clock (.error e) files [] :=
  ends_load_of (ends_error h).bind_error

section Finish

variable (hloaded : checkedAt files path = .ok loaded) (verbose : Bool)
include hloaded

/-- The file system has the last word. -/
theorem ends_load_refused {e : FileError}
    (hmake : files.makeDirectories loaded.2.outputDirectory = (after, .error e)) :
    (load (.str path) verbose).Ends files clock (.error (.file e)) after [] :=
  ends_load_of ((ends_ok hloaded).andThen (ends_tryFiles_error hmake).bind_error)

/-- Settings are shown when they have been loaded. -/
theorem ends_load (hmake : files.makeDirectories loaded.2.outputDirectory = (after, .ok ())) : ∃ shown,
    (load (.str path) verbose).Ends files clock (.ok loaded.1) after shown ∧ (verbose = false → shown = []) := by
  cases verbose with
  | false =>
      exact ⟨[], ends_load_of ((ends_ok hloaded).andThen ((ends_tryFiles hmake).andThen ends_pure)), fun _ => rfl⟩
  | true =>
      have hshows : (do
          Job.say s!"[{clock.text}] Loaded config:"
          loaded.1.list.forM fun (key, value) => Job.say s!"  {key.display}: {value.display}"
          return loaded.1 : Job Entries).Shows loaded.1 :=
        (shows_say _).bind ((shows_forM fun _ _ => shows_say _).bind shows_pure)
      obtain ⟨shown, hshown⟩ := hshows after clock
      refine ⟨shown, ends_load_of ((ends_ok hloaded).andThen ((ends_tryFiles hmake).andThen ?_)), nofun⟩
      exact ends_now.andThen hshown

end Finish

/-- Loading ends in one way or the other. -/
theorem exists_ends_load (path : Json) (verbose : Bool) (files : FileTree) (clock : Timestamp) :
    ∃ result after shown, (load path verbose).Ends files clock result after shown := by
  cases path with
  | str path =>
      cases hloaded : checkedAt files path with
      | error e => exact ⟨_, _, _, ends_load_error hloaded⟩
      | ok loaded =>
          rcases hmake : files.makeDirectories loaded.2.outputDirectory with ⟨after, e | _⟩
          · exact ⟨_, _, _, ends_load_refused hloaded verbose hmake⟩
          · obtain ⟨shown, hends, _⟩ := ends_load hloaded verbose hmake
            exact ⟨_, _, _, hends⟩
  | _ => exact ⟨_, _, _, (ends_error rfl).bind_error⟩

/-- Loads settings one after the other, whether they can be loaded or not. -/
def loadEach : List (Json × Bool) → Job Unit
  | [] => pure ()
  | (path, verbose) :: rest => do
      tryCatch (load path verbose >>= fun _ => pure ()) fun _ => pure ()
      loadEach rest

theorem exists_ends_loadEach (earlier : List (Json × Bool)) (files : FileTree) (clock : Timestamp) :
    ∃ middle before, (loadEach earlier).Ends files clock (.ok ()) middle before := by
  induction earlier generalizing files with
  | nil => exact ⟨files, [], ends_pure⟩
  | cons first rest ih =>
      obtain ⟨_, middle, shown, hfirst⟩ := exists_ends_load first.1 first.2 files clock
      obtain ⟨after, more, hrest⟩ := ih middle
      exact ⟨after, shown ++ more, hfirst.passedOver.bind hrest⟩

/-- **Loading is all or nothing**, whatever has been loaded before, and what has been loaded before changes nothing about
    the defaults. If the file sets pairs with which the settings pass the check, the entries are these pairs over the
    defaults, as soon as the output directory can be made. Otherwise there is an error, all files are as they were, and
    nothing has been shown. -/
theorem load_all_or_nothing (earlier : List (Json × Bool)) (files : FileTree) (clock : Timestamp) (path : String)
    (verbose : Bool) : ∃ middle before, (loadEach earlier).Ends files clock (.ok ()) middle before ∧
      (∀ pairs settings, Accepts middle path pairs settings → ∃ entries, defaults.Overlays pairs entries ∧
        (∀ after, middle.makeDirectories settings.outputDirectory = (after, .ok ()) → ∃ shown,
          (loadEach earlier >>= fun _ => load (.str path) verbose).Ends files clock (.ok entries) after
            (before ++ shown) ∧
          (verbose = false → shown = [])) ∧
        (∀ after e, middle.makeDirectories settings.outputDirectory = (after, .error e) →
          (loadEach earlier >>= fun _ => load (.str path) verbose).Ends files clock (.error (.file e)) after before)) ∧
      ((¬ ∃ pairs settings, Accepts middle path pairs settings) → ∃ e,
        (loadEach earlier >>= fun _ => load (.str path) verbose).Ends files clock (.error e) middle before) := by
  obtain ⟨middle, before, hearlier⟩ := exists_ends_loadEach earlier files clock
  refine ⟨middle, before, hearlier, fun pairs settings haccepts => ?_, fun hno => ?_⟩
  · have hloaded : checkedAt middle path = .ok (defaults.putAll pairs, settings) :=
      checkedAt_eq_ok_iff.mpr ⟨pairs, haccepts, rfl⟩
    obtain ⟨_, _, _, _, hsets⟩ := haccepts.sets
    refine ⟨_, overlays_putAll isKey_defaults hsets.isKey, fun after hmake => ?_, fun after e hmake => ?_⟩
    · obtain ⟨shown, hends, hshown⟩ := ends_load hloaded verbose hmake
      exact ⟨shown, hearlier.bind hends, hshown⟩
    · exact List.append_nil before ▸ hearlier.bind (ends_load_refused hloaded verbose hmake)
  · cases hloaded : checkedAt middle path with
    | error e => exact ⟨e, List.append_nil before ▸ hearlier.bind (ends_load_error hloaded)⟩
    | ok loaded =>
        obtain ⟨pairs, haccepts, _⟩ := checkedAt_eq_ok_iff.mp hloaded
        exact absurd ⟨pairs, loaded.2, haccepts⟩ hno

/-- A file whose settings are refused, one whose items stand for pairs, and a directory for logs. -/
def settingsFiles : FileTree :=
  ((((⟨∅, []⟩ : FileTree).set ["none.json"] (.file "\x7b\"log_runs\": false, \"workers\": 0\x7d")).set ["pairs.json"]
    (.file "[[\"workers\", 2], \"ab\", [\"output_directory\", \"logs\"], [\"workers\", 3]]"))).set ["logs"] .directory

/-- The files behind a load that was refused. -/
def refusedFirst : FileTree :=
  ((loadEach [(.str "none.json", true)]).start ⟨settingsFiles, ⟨2024, 1, 1, 0, 0, 0, 0⟩, #[]⟩).2.files

/-- What the items stand for. -/
def samplePairs : List (Json × Json) :=
  [(.str "workers", .int 2), (.str "a", .str "b"), (.str "output_directory", .str "logs"), (.str "workers", .int 3)]

/-- The settings that the pairs make of the defaults. -/
def sampleSettings : Settings where
  maxSteps := 10000
  leftBounded := false
  workers := 3
  logRuns := true
  showTrace := true
  outputDirectory := "logs"
  logFilePrefix := "tm_"
  resultsDirectory := "results/"

theorem accepts_refusedFirst : Accepts refusedFirst "pairs.json" samplePairs sampleSettings where
  holds := by decide +kernel
  sets := by
    refine ⟨"[[\"workers\", 2], \"ab\", [\"output_directory\", \"logs\"], [\"workers\", 3]]",
      .arr [.arr [.str "workers", .int 2], .str "ab", .arr [.str "output_directory", .str "logs"],
        .arr [.str "workers", .int 3]], toOption_eq_some.mp (by decide +kernel), toOption_eq_some.mp (by decide +kernel),
      pairs_eq_ok_iff.mp (toOption_eq_some.mp (by decide +kernel))⟩
  written := by constructor <;> decide +kernel

/-- The last value of a key wins, a new key follows the others, and the refused settings leave no trace. -/
theorem load_all_or_nothing_sample : ∃ entries after before,
    (loadEach [(.str "none.json", true)] >>= fun _ => load (.str "pairs.json") false).Ends settingsFiles
      ⟨2024, 1, 1, 0, 0, 0, 0⟩ (.ok entries) after before ∧
    valueIn? entries.list (.str "workers") = some (.int 3) ∧
    valueIn? entries.list (.str "log_runs") = some (.bool true) ∧
    entries.list.map (·.1) = defaults.list.map (·.1) ++ [.str "a"] := by
  obtain ⟨middle, before, hearlier, hall, _⟩ :=
    load_all_or_nothing [(.str "none.json", true)] settingsFiles ⟨2024, 1, 1, 0, 0, 0, 0⟩ "pairs.json" false
  obtain rfl : refusedFirst = middle := hearlier.start_eq.2
  obtain ⟨entries, hoverlays, hmade, _⟩ := hall _ _ accepts_refusedFirst
  have hmake : refusedFirst.makeDirectories "logs" = (refusedFirst, .ok ()) :=
    makeDirectories_of_holds (by decide +kernel) (by decide +kernel)
  obtain ⟨shown, hends, _⟩ := hmade _ hmake
  refine ⟨entries, _, _, hends, ?_, ?_, ?_⟩
  · exact (hoverlays.value _).trans (by decide +kernel)
  · exact (hoverlays.value _).trans (by decide +kernel)
  · exact hoverlays.keys.trans (by decide +kernel)

end Entries

end TapeMachine
