import TapeMachine.Proofs.Except
import TapeMachine.Workspace.FileTree
/-!
# Files that grow

What reading, writing and making directories do to a tree of files. A path leads to a place through directories; as no
operation takes one away, it leads to the same place later on.

* `FileTree.Opens`, `FileTree.textAt` : a path that names a place for a file, and what the file at a place holds;
* `FileTree.KeepsDirectories`, `FileTree.SameDirectories`, `FileTree.Opens.of_keeps` : **a path names the same place as
  long as all directories stay**;
* `FileTree.Opens.append_eq`, `FileTree.Opens.overwrite_eq`, `FileTree.textAt_set` : **writing a file changes this file
  and no other**;
* `FileTree.Grows`, `FileTree.Grows.readText` : **what could be read can still be read** when nothing that was there has
  changed;
* `FileTree.AddsDirectories`, `FileTree.addsDirectories_makePath` : making directories changes nothing that was there;
* `FileTree.holds_of_makeDirectories`, `FileTree.failsOnly_makeDirectories` : **directories that were made are there**, and
  why they cannot be made;
* `FileTree.Gains`, `FileTree.gains_addLine` : the lines that a file has got.
-/

namespace TapeMachine.FileTree

variable {tree before middle after : FileTree} {path text more : String} {place other found : List String}

/-! ## 1. Places -/

/-- Whether all directories of a tree stay, the working directory among them. -/
structure KeepsDirectories (before after : FileTree) : Prop where
  work : after.work = before.work
  directories : ∀ place, before.node? place = some .directory → after.node? place = some .directory

/-- Whether the directories of two trees are the same. -/
structure SameDirectories (before after : FileTree) : Prop where
  work : after.work = before.work
  directories : ∀ place, after.node? place = some .directory ↔ before.node? place = some .directory

theorem SameDirectories.refl (tree : FileTree) : tree.SameDirectories tree :=
  ⟨rfl, fun _ => .rfl⟩

theorem SameDirectories.trans (h : before.SameDirectories middle) (h' : middle.SameDirectories after) :
    before.SameDirectories after :=
  ⟨h'.work.trans h.work, fun place => (h'.directories place).trans (h.directories place)⟩

theorem SameDirectories.keepsDirectories (h : before.SameDirectories after) : before.KeepsDirectories after :=
  ⟨h.work, fun place => (h.directories place).mpr⟩

/-- **Components that lead to a place still lead there** when all directories have stayed. -/
theorem KeepsDirectories.walk (h : before.KeepsDirectories after) {names : List String}
    (hwalk : before.walk place names = .ok found) : after.walk place names = .ok found := by
  fun_induction FileTree.walk before place names with
  | case1 place => exact hwalk
  | case2 place rest ih =>
      rw [FileTree.walk, if_pos rfl]
      exact ih hwalk
  | case3 place rest hdot ih =>
      rw [FileTree.walk, if_neg hdot, if_pos rfl]
      exact ih hwalk
  | case4 => cases hwalk
  | case5 place name rest hdot hup hlong hlast =>
      rw [FileTree.walk, if_neg hdot, if_neg hup, if_neg hlong, if_pos hlast]
      exact hwalk
  | case6 place name rest hdot hup hlong hlast hnode ih =>
      rw [FileTree.walk, if_neg hdot, if_neg hup, if_neg hlong, if_neg hlast, h.directories _ hnode]
      exact ih hwalk
  | case7 => cases hwalk
  | case8 => cases hwalk

theorem KeepsDirectories.locate (h : before.KeepsDirectories after) (hlocate : before.locate path = .ok found) :
    after.locate path = .ok found := by
  unfold FileTree.locate at hlocate ⊢
  have hbase : after.base path = before.base path := by rw [base, base, h.work]
  split
  · rename_i hempty
    rw [if_pos hempty] at hlocate
    cases hlocate
  · rename_i hempty
    rw [if_neg hempty] at hlocate
    split
    · rename_i hlong
      rw [if_pos hlong] at hlocate
      cases hlocate
    · rename_i hlong
      rw [if_neg hlong] at hlocate
      rw [hbase]
      exact h.walk hlocate

/-- What stands at a path whose place is known. -/
theorem status_eq (h : tree.locate path = .ok place) : tree.status path =
    match tree.node? place with
    | none => .error .notFound
    | some (.file text) => if namesDirectory path then .error .notDirectory else .ok (.file text)
    | some .directory => .ok .directory := by
  rw [status, h]
  rfl

/-- What stands at a path stands at its place. -/
theorem exists_place_of_status {node : Node} (h : tree.status path = .ok node) :
    ∃ place, tree.locate path = .ok place ∧ tree.node? place = some node := by
  cases hlocate : tree.locate path with
  | error _ => rw [FileTree.status, hlocate] at h; cases h
  | ok place =>
      refine ⟨place, rfl, ?_⟩
      rw [status_eq hlocate] at h
      split at h
      · cases h
      · rename_i text hnode
        split at h
        · cases h
        · cases h
          exact hnode
      · rename_i hnode
        cases h
        exact hnode

/-- **What stands at a path is what stood there** when its place holds the same and all directories have stayed. -/
theorem KeepsDirectories.status_eq (h : before.KeepsDirectories after) (hlocate : before.locate path = .ok place)
    (hnode : after.node? place = before.node? place) : after.status path = before.status path := by
  rw [FileTree.status_eq hlocate, FileTree.status_eq (h.locate hlocate), hnode]

theorem KeepsDirectories.holdsDirectory (h : before.KeepsDirectories after)
    (hholds : before.holdsDirectory path = true) : after.holdsDirectory path = true := by
  unfold FileTree.holdsDirectory at hholds ⊢
  rw [Bool.and_eq_true] at hholds ⊢
  refine ⟨hholds.1, ?_⟩
  cases hstatus : before.status path with
  | error _ => simp [hstatus] at hholds
  | ok node =>
      cases node with
      | file _ => simp [hstatus] at hholds
      | directory =>
          obtain ⟨place, hlocate, hnode⟩ := exists_place_of_status hstatus
          rw [h.status_eq hlocate ((h.directories place hnode).trans hnode.symm), hstatus]

/-- A file that can be read stands somewhere. -/
theorem exists_status_of_readText (h : tree.readText path = .ok text) : ∃ node, tree.status path = .ok node := by
  unfold FileTree.readText atPath at h
  split at h
  · cases h
  · cases hstatus : tree.status path with
    | error _ => rw [hstatus] at h; cases h
    | ok node => exact ⟨node, rfl⟩

/-- What is read from a path follows from what stands there. -/
theorem readText_congr (h : after.status path = before.status path) : after.readText path = before.readText path := by
  unfold FileTree.readText
  rw [h]

/-- What making a directory does at a path whose place is known. -/
theorem makeDirectory_eq (h : tree.locate path = .ok place) : tree.makeDirectory path =
    match tree.node? place with
    | some _ => .error .taken
    | none => .ok (tree.set place .directory) := by
  rw [makeDirectory, h]
  rfl

/-! ## 2. Writing files -/

/-- What the file at a place holds: nothing when there is none. -/
def textAt (tree : FileTree) (place : List String) : String :=
  match tree.node? place with
  | some (.file text) => text
  | _ => ""

/-- Whether a path names a place where a file is or can be made. -/
structure Opens (tree : FileTree) (path : String) (place : List String) : Prop where
  noZero : hasZero path = false
  located : tree.locate path = .ok place
  noSlash : namesDirectory path = false
  free : tree.node? place ≠ some .directory

instance : Decidable (tree.Opens path place) :=
  decidable_of_iff (hasZero path = false ∧ (tree.locate path).toOption = some place ∧ namesDirectory path = false ∧
      tree.node? place ≠ some .directory)
    ⟨fun ⟨hzero, hlocate, hslash, hfree⟩ => ⟨hzero, toOption_eq_some.mp hlocate, hslash, hfree⟩,
      fun h => ⟨h.noZero, toOption_eq_some.mpr h.located, h.noSlash, h.free⟩⟩

theorem textAt_of_file (h : tree.node? place = some (.file text)) : tree.textAt place = text := by
  rw [textAt, h]

theorem textAt_of_none (h : tree.node? place = none) : tree.textAt place = "" := by
  rw [textAt, h]

theorem ne_nil_of_free (h : tree.node? place ≠ some .directory) : place ≠ [] := by
  rintro rfl
  exact h rfl

theorem ne_nil_of_none (h : tree.node? place = none) : place ≠ [] :=
  ne_nil_of_free (by rw [h]; exact nofun)

/-- A place without a directory holds a file or nothing. -/
theorem file_or_none (h : tree.node? place ≠ some .directory) :
    tree.node? place = some (.file (tree.textAt place)) ∨ tree.node? place = none := by
  unfold textAt
  cases hnode : tree.node? place with
  | none => exact .inr rfl
  | some node =>
      cases node with
      | file text => exact .inl rfl
      | directory => exact absurd hnode h

section Written

variable (h : tree.node? place ≠ some .directory)
include h

/-- **What a file holds after it was written** is seen at its place and at no other one. -/
theorem textAt_set (other : List String) :
    (tree.set place (.file text)).textAt other = if place = other then text else tree.textAt other := by
  rw [textAt, node?_set (ne_nil_of_free h)]
  by_cases heq : place = other
  · rw [if_pos heq, if_pos heq]
  · rw [if_neg heq, if_neg heq]
    rfl

/-- Writing a file neither makes nor removes a directory. -/
theorem sameDirectories_set : tree.SameDirectories (tree.set place (.file text)) where
  work := rfl
  directories := fun other => by
    rw [node?_set (ne_nil_of_free h)]
    split
    · rename_i heq
      simp [← heq, h]
    · rfl

theorem appendAt_eq : tree.appendAt place more = tree.set place (.file (tree.textAt place ++ more)) := by
  unfold appendAt
  rcases file_or_none h with hfile | hnone
  · rw [hfile]
  · rw [hnone, textAt_of_none hnone, String.empty_append]

end Written

namespace Opens

variable (h : tree.Opens path place)
include h

theorem target_eq : tree.target path = .ok (place, tree.textAt place) := by
  unfold target atPath
  simp only [h.noZero, h.located, h.noSlash, Bool.false_eq_true, if_false, bind, Except.bind]
  rcases file_or_none h.free with hfile | hnone
  · rw [hfile]
    rfl
  · rw [hnone, textAt_of_none hnone]
    rfl

/-- **Appending adds to the file of the path.** -/
theorem append_eq (more : String) :
    tree.append path more = .ok (tree.set place (.file (tree.textAt place ++ more))) := by
  rw [append, h.target_eq]
  rfl

theorem overwrite_eq (text : String) : tree.overwrite path text = .ok (tree.set place (.file text)) := by
  rw [overwrite, h.target_eq]
  rfl

theorem openForAppend_eq : tree.openForAppend path = .ok (tree.set place (.file (tree.textAt place)), place) := by
  rw [openForAppend, h.target_eq]
  rfl

/-- **A path names the same place as long as all directories stay.** -/
theorem of_keeps (hkeeps : tree.KeepsDirectories after) (hfree : after.node? place ≠ some .directory) :
    after.Opens path place :=
  ⟨h.noZero, hkeeps.locate h.located, h.noSlash, hfree⟩

theorem of_same (hsame : tree.SameDirectories after) : after.Opens path place :=
  h.of_keeps hsame.keepsDirectories fun hdirectory => h.free ((hsame.directories place).mp hdirectory)

theorem status_of_file (hfile : tree.node? place = some (.file text)) : tree.status path = .ok (.file text) := by
  simp only [status_eq h.located, hfile, h.noSlash, Bool.false_eq_true, if_false]

theorem probe_of_file (hfile : tree.node? place = some (.file text)) : tree.probe path = .ok true := by
  simp only [probe, h.noZero, h.status_of_file hfile, Bool.false_eq_true, if_false]

theorem probe_of_none (hnone : tree.node? place = none) : tree.probe path = .ok false := by
  have hstatus : tree.status path = .error .notFound := by
    rw [status_eq h.located, hnone]
  simp only [probe, h.noZero, hstatus, Bool.false_eq_true, if_false]

theorem readText_of_file (hfile : tree.node? place = some (.file text)) :
    tree.readText path = .ok (String.ofList (Text.unifyNewlines text.toList)) := by
  unfold readText atPath
  simp only [h.noZero, h.status_of_file hfile, Bool.false_eq_true, if_false, bind, Except.bind]
  rfl

end Opens

/-! ## 3. Reading later on -/

/-- Whether all that was there has stayed as it was. -/
structure Grows (before after : FileTree) : Prop where
  work : after.work = before.work
  nodes : ∀ place node, before.node? place = some node → after.node? place = some node

namespace Grows

theorem keepsDirectories (h : before.Grows after) : before.KeepsDirectories after :=
  ⟨h.work, fun place => h.nodes place _⟩

theorem status {node : Node} (h : before.Grows after) (hstatus : before.status path = .ok node) :
    after.status path = .ok node := by
  obtain ⟨place, hlocate, hnode⟩ := exists_place_of_status hstatus
  rw [h.keepsDirectories.status_eq hlocate ((h.nodes place node hnode).trans hnode.symm), hstatus]

/-- **What could be read can still be read.** -/
theorem readText (h : before.Grows after) (hread : before.readText path = .ok text) :
    after.readText path = .ok text := by
  obtain ⟨node, hstatus⟩ := exists_status_of_readText hread
  rw [readText_congr ((h.status hstatus).trans hstatus.symm), hread]

end Grows

/-! ## 4. Making directories -/

/-- Whether nothing has changed but that there are more directories. -/
structure AddsDirectories (before after : FileTree) : Prop where
  work : after.work = before.work
  nodes : ∀ place, after.node? place = before.node? place ∨
    before.node? place = none ∧ after.node? place = some .directory

namespace AddsDirectories

theorem refl (tree : FileTree) : tree.AddsDirectories tree :=
  ⟨rfl, fun _ => .inl rfl⟩

theorem trans (h : before.AddsDirectories middle) (h' : middle.AddsDirectories after) :
    before.AddsDirectories after := by
  refine ⟨h'.work.trans h.work, fun place => ?_⟩
  rcases h'.nodes place with hsame | ⟨hnone, hnew⟩
  · rw [hsame]
    exact h.nodes place
  · rcases h.nodes place with hsame | ⟨_, hdirectory⟩
    · exact .inr ⟨hsame ▸ hnone, hnew⟩
    · rw [hdirectory] at hnone
      cases hnone

theorem grows (h : before.AddsDirectories after) : before.Grows after := by
  refine ⟨h.work, fun place node hnode => ?_⟩
  rcases h.nodes place with hsame | ⟨hnone, _⟩
  · rw [hsame, hnode]
  · rw [hnone] at hnode
    cases hnode

/-- A place that is not a new directory is as it was. -/
theorem node?_eq (h : before.AddsDirectories after) (hfree : after.node? place ≠ some .directory) :
    after.node? place = before.node? place := by
  rcases h.nodes place with hsame | ⟨_, hdirectory⟩
  · exact hsame
  · exact absurd hdirectory hfree

theorem textAt_eq (h : before.AddsDirectories after) (place : List String) :
    after.textAt place = before.textAt place := by
  unfold textAt
  rcases h.nodes place with hsame | ⟨hnone, hdirectory⟩
  · rw [hsame]
  · rw [hnone, hdirectory]

end AddsDirectories

theorem addsDirectories_makeDirectory (h : tree.makeDirectory path = .ok after) : tree.AddsDirectories after := by
  cases hlocate : tree.locate path with
  | error _ => rw [makeDirectory, hlocate] at h; cases h
  | ok place =>
      rw [makeDirectory_eq hlocate] at h
      cases hnode : tree.node? place with
      | some _ => rw [hnode] at h; cases h
      | none =>
          rw [hnode] at h
          cases h
          have hne : place ≠ [] := ne_nil_of_none hnode
          refine ⟨rfl, fun other => ?_⟩
          rw [node?_set hne]
          split
          · rename_i heq
            exact .inr ⟨heq ▸ hnode, rfl⟩
          · exact .inl rfl

theorem addsDirectories_ensureDirectory (tree : FileTree) (path : String) :
    tree.AddsDirectories (tree.ensureDirectory path).1 := by
  unfold ensureDirectory
  split
  · exact .refl tree
  · split
    · rename_i hmade
      exact addsDirectories_makeDirectory hmade
    · exact .refl tree

theorem addsDirectories_ensureAll (tree : FileTree) (paths : List String) :
    tree.AddsDirectories (tree.ensureAll paths).1 := by
  fun_induction ensureAll tree paths with
  | case1 tree => exact .refl tree
  | case2 tree path => exact addsDirectories_ensureDirectory tree path
  | case3 tree path paths _ made hmade ih =>
      have hfirst := addsDirectories_ensureDirectory tree path
      rw [hmade] at hfirst
      exact hfirst.trans ih
  | case4 tree path paths _ made _ hmade ih =>
      have hfirst := addsDirectories_ensureDirectory tree path
      rw [hmade] at hfirst
      exact hfirst.trans ih
  | case5 tree path paths => exact addsDirectories_ensureDirectory tree path

/-- **Making directories changes nothing that was there.** -/
theorem addsDirectories_makeDirectories (tree : FileTree) (path : String) :
    tree.AddsDirectories (tree.makeDirectories path).1 :=
  addsDirectories_ensureAll tree _

theorem addsDirectories_makePathFrom (tree : FileTree) (root : String) (names : List String) :
    tree.AddsDirectories (tree.makePathFrom root names).1 := by
  induction names generalizing tree with
  | nil => exact addsDirectories_ensureDirectory tree _
  | cons name outer ih =>
      rw [makePathFrom]
      split
      · exact .refl tree
      · split
        · split
          · rename_i made hmade
            have houter := ih tree
            rw [hmade] at houter
            exact houter.trans (addsDirectories_ensureDirectory _ _)
          · exact ih tree
        · exact addsDirectories_ensureDirectory tree _

/-- Making the directory of a path changes nothing that was there. -/
theorem addsDirectories_makePath (tree : FileTree) (path : Path) : tree.AddsDirectories (tree.makePath path).1 :=
  addsDirectories_makePathFrom tree _ _

/-- A directory that is there is in the way of a new one. -/
theorem makeDirectory_of_holds (h : tree.holdsDirectory path = true) : tree.makeDirectory path = .error .taken := by
  unfold holdsDirectory at h
  cases hlocate : tree.locate path with
  | error _ => simp [status, hlocate, bind, Except.bind] at h
  | ok place =>
      rw [makeDirectory_eq hlocate]
      cases hnode : tree.node? place with
      | none => simp [status_eq hlocate, hnode] at h
      | some _ => rfl

theorem noZero_of_holds (h : tree.holdsDirectory path = true) : hasZero path = false := by
  cases hzero : hasZero path <;> simp [holdsDirectory, hzero] at h ⊢

/-- A directory that is there need not be made. -/
theorem ensureDirectory_of_holds (h : tree.holdsDirectory path = true) :
    tree.ensureDirectory path = (tree, .ok ()) := by
  rw [ensureDirectory, if_neg (by simp [noZero_of_holds h]), makeDirectory_of_holds h]
  simp [h]

/-- **A directory that was made is there.** -/
theorem holds_of_ensureDirectory (h : tree.ensureDirectory path = (after, .ok ())) :
    after.holdsDirectory path = true := by
  unfold ensureDirectory at h
  split at h
  · cases h
  · rename_i hzero
    split at h
    · rename_i made hmade
      cases h
      have hkeeps := (addsDirectories_makeDirectory hmade).grows.keepsDirectories
      cases hlocate : tree.locate path with
      | error _ => simp [makeDirectory, hlocate, bind, Except.bind] at hmade
      | ok place =>
          rw [makeDirectory_eq hlocate] at hmade
          cases hnode : tree.node? place with
          | some _ => rw [hnode] at hmade; cases hmade
          | none =>
              rw [hnode] at hmade
              cases hmade
              have hnew : (tree.set place .directory).node? place = some .directory := by
                rw [node?_set (ne_nil_of_none hnode), if_pos rfl]
              simp [holdsDirectory, hzero, status_eq (hkeeps.locate hlocate), hnew]
    · split at h
      · rename_i hholds
        cases h
        exact hholds
      · cases h

theorem holds_of_makePath {p : Path} (h : tree.makePath p = (after, .ok ())) : after.holdsDirectory p.text = true := by
  unfold makePath at h
  cases hparts : p.parts.reverse with
  | nil =>
      rw [hparts] at h
      have hp : p = ⟨p.root, []⟩ := by
        rw [← List.reverse_eq_nil_iff.mp hparts]
      rw [hp]
      exact holds_of_ensureDirectory h
  | cons name outer =>
      have hp : p = ⟨p.root, (name :: outer).reverse⟩ := by
        rw [← hparts, List.reverse_reverse]
      rw [hparts, makePathFrom] at h
      rw [← hp] at h
      split at h
      · cases h
      · split at h
        · split at h
          · exact holds_of_ensureDirectory h
          · rename_i hfailed
            exact absurd h (hfailed _)
        · exact holds_of_ensureDirectory h

/-- A path whose directory is there need not be made. -/
theorem makePath_of_holds {p : Path} (h : tree.holdsDirectory p.text = true) : tree.makePath p = (tree, .ok ()) := by
  unfold makePath
  cases hparts : p.parts.reverse with
  | nil =>
      have hp : p = ⟨p.root, []⟩ := by
        rw [← List.reverse_eq_nil_iff.mp hparts]
      rw [hp] at h
      exact ensureDirectory_of_holds h
  | cons name outer =>
      have hp : p = ⟨p.root, (name :: outer).reverse⟩ := by
        rw [← hparts, List.reverse_reverse]
      rw [makePathFrom]
      rw [← hp, if_neg (by simp [noZero_of_holds h]), makeDirectory_of_holds h]
      exact ensureDirectory_of_holds h

/-- A name alone stands in no other directory that would have to be made. -/
theorem makeDirectories_of_holds (hname : lastComponent path.toList = ([], path.toList))
    (h : tree.holdsDirectory path = true) : tree.makeDirectories path = (tree, .ok ()) := by
  have hpaths : tree.missingDirectories path.toList = [path] := by
    rw [missingDirectories]
    simp [hname]
  rw [makeDirectories, hpaths, ensureAll]
  exact ensureDirectory_of_holds h

/-- The last directory to make is that of the path itself. -/
theorem exists_missingDirectories (tree : FileTree) (cs : List Char) :
    ∃ front, tree.missingDirectories cs = front ++ [String.ofList cs] := by
  rw [missingDirectories]
  split
  · exact ⟨[], rfl⟩
  · split
    · exact ⟨[], rfl⟩
    · exact ⟨_, rfl⟩

theorem holds_of_ensureAll {front : List String} (h : tree.ensureAll (front ++ [path]) = (after, .ok ())) :
    after.holdsDirectory path = true := by
  induction front generalizing tree with
  | nil => exact holds_of_ensureDirectory h
  | cons first front ih =>
      rw [List.cons_append, ensureAll.eq_3 _ _ _ (by simp)] at h
      split at h
      · exact ih h
      · exact ih h
      · rename_i hfailed _
        exact absurd h (hfailed _)

/-- **Directories that were made are there.** -/
theorem holds_of_makeDirectories (h : tree.makeDirectories path = (after, .ok ())) :
    after.holdsDirectory path = true := by
  obtain ⟨front, hfront⟩ := tree.exists_missingDirectories path.toList
  rw [makeDirectories, hfront, String.ofList_toList] at h
  exact holds_of_ensureAll h

/-- No directory has an empty path. -/
theorem makeDirectories_empty (tree : FileTree) : tree.makeDirectories "" = (tree, .error (.refused .notFound "")) := by
  have hpaths : tree.missingDirectories "".toList = [""] := by
    rw [missingDirectories]
    simp [lastComponent, splitText, dropEndSlashes]
  rw [makeDirectories, hpaths]
  rfl

/-- Whether an error says that a path cannot be used, or that the file system refuses it. -/
def IsRefusal (e : FileError) : Prop :=
  e = .zeroInPath ∨ ∃ fault path, e = .refused fault path

theorem failsOnly_ensureDirectory (tree : FileTree) (path : String) :
    FailsOnly IsRefusal (tree.ensureDirectory path).2 := by
  unfold ensureDirectory
  split
  · exact failsOnly_error (.inl rfl)
  · split
    · exact failsOnly_ok ()
    · dsimp only
      split
      · exact failsOnly_ok ()
      · exact failsOnly_error (.inr ⟨_, _, rfl⟩)

/-- **Making directories fails for one of these reasons only.** -/
theorem failsOnly_makeDirectories (tree : FileTree) (path : String) :
    FailsOnly IsRefusal (tree.makeDirectories path).2 := by
  unfold makeDirectories
  generalize tree.missingDirectories path.toList = paths
  fun_induction ensureAll tree paths with
  | case1 tree => exact failsOnly_ok ()
  | case2 tree path => exact failsOnly_ensureDirectory tree path
  | case3 tree path paths _ made hmade ih => exact ih
  | case4 tree path paths _ made _ hmade ih => exact ih
  | case5 tree path paths => exact failsOnly_ensureDirectory tree path

/-- A path that names something is read, unless it names a directory. -/
theorem readText_of_holds {e : FileError} (h : tree.holds path = true) (hread : tree.readText path = .error e) :
    tree.holdsDirectory path = true ∧ e = .refused .isDirectory path := by
  rw [holds, Bool.and_eq_true] at h
  have hzero : hasZero path = false := by simpa using h.1
  cases hstatus : tree.status path with
  | error fault =>
      rw [hstatus] at h
      cases h.2
  | ok node =>
      rw [readText, atPath, if_neg (by simp [hzero]), hstatus] at hread
      cases node <;> cases hread
      exact ⟨by simp [holdsDirectory, hzero, hstatus], rfl⟩

theorem readText_of_holdsDirectory (h : tree.holdsDirectory path = true) :
    tree.holds path = true ∧ tree.readText path = .error (.refused .isDirectory path) := by
  have hzero := noZero_of_holds h
  rw [holdsDirectory, hzero] at h
  cases hstatus : tree.status path with
  | error fault =>
      rw [hstatus] at h
      cases h
  | ok node =>
      rw [hstatus] at h
      cases node with
      | file text => cases h
      | directory =>
          rw [holds, readText, atPath, if_neg (by simp [hzero]), hzero, hstatus]
          exact ⟨rfl, rfl⟩

/-- A path is looked for, unless it is too long. -/
theorem probe_error {e : FileError} (h : tree.probe path = .error e) : e = .refused .nameTooLong path := by
  unfold probe at h
  split at h
  · cases h
  · split at h
    · cases h
    · cases h
      rfl
    · cases h

/-! ## 5. Lines -/

/-- Whether a file has got some lines behind what it held before. -/
structure Gains (before after : FileTree) (place : List String) (lines : List String) : Prop where
  text : after.textAt place = before.textAt place ++ String.join (lines.map (· ++ "\n"))
  single : ∀ line ∈ lines, '\n' ∉ line.toList

theorem Gains.refl (tree : FileTree) (place : List String) : tree.Gains tree place [] where
  text := by simp
  single := fun line hline => by cases hline

theorem Gains.trans {lines more : List String} (h : before.Gains middle place lines)
    (h' : middle.Gains after place more) : before.Gains after place (lines ++ more) where
  text := by rw [h'.text, h.text, List.map_append, String.join_append, String.append_assoc]
  single := fun line hline => (List.mem_append.mp hline).elim (h.single line) (h'.single line)

/-- Lines count as gained since before directories were made. -/
theorem AddsDirectories.gains (h : before.AddsDirectories middle) {lines : List String}
    (hgains : middle.Gains after place lines) : before.Gains after place lines :=
  ⟨by rw [hgains.text, h.textAt_eq], hgains.single⟩

/-- The tree with one more line in the file at a place. -/
def addLine (tree : FileTree) (place : List String) (line : String) : FileTree :=
  tree.set place (.file (tree.textAt place ++ (line ++ "\n")))

theorem sameDirectories_addLine (h : tree.node? place ≠ some .directory) (line : String) :
    tree.SameDirectories (tree.addLine place line) :=
  sameDirectories_set h

/-- **A line that is added is gained** by its file and by no other one. -/
theorem gains_addLine {line : String} (h : tree.node? place ≠ some .directory) (hline : '\n' ∉ line.toList)
    (other : List String) : tree.Gains (tree.addLine place line) other (if place = other then [line] else []) where
  text := by
    rw [addLine, textAt_set h]
    split
    · rename_i heq
      rw [heq]
      simp
    · simp
  single := fun more hmore => by
    split at hmore
    · rw [List.mem_singleton.mp hmore]
      exact hline
    · cases hmore

theorem Opens.append_line (h : tree.Opens path place) (line : String) :
    tree.append path (line ++ "\n") = .ok (tree.addLine place line) :=
  h.append_eq _

end TapeMachine.FileTree
