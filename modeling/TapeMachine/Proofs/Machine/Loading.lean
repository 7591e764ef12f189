import TapeMachine.Machine.Input
import TapeMachine.Machine.Load
import TapeMachine.Proofs.Text.Characters
import TapeMachine.Proofs.Workspace.Files
import TapeMachine.Proofs.Workspace.Jobs
/-!
# Machines in files

A file holds a machine when its text is the document of one. Loading the file then gives this machine and shows
nothing, and it still does when other files have come.

* `Definition.StoredAt` : a path that names the file of a machine;
* `Definition.StoredAt.load` : **loading the file gives the machine**;
* `Definition.StoredAt.of_grows` : the file still holds the machine when nothing that was there has changed;
* `Definition.storedAt_of_file`, `Definition.exists_ofText_of_chars` : a file whose text is the document of a machine;
* `Definition.oddDocument` : the document of a small machine.
-/

namespace TapeMachine

variable {files after : FileTree} {clock : Timestamp} {path text : String}

/-- What can be read is there. -/
theorem FileTree.probe_of_readText (h : files.readText path = .ok text) : files.probe path = .ok true := by
  unfold readText atPath at h
  unfold probe
  split
  · rename_i hzero
    rw [if_pos hzero] at h
    cases h
  · rename_i hzero
    rw [if_neg hzero] at h
    cases hstatus : files.status path with
    | ok _ => rfl
    | error _ => rw [hstatus] at h; cases h

/-- Reading the text of a file shows nothing. -/
theorem Job.ends_readText (h : files.readText path = .ok text) : (readText path).Ends files clock (.ok text) files [] :=
  ends_asked h

namespace Definition

/-- Whether the file of a path holds a machine, which is named after the file unless its document names it. -/
def StoredAt (d : Definition) (files : FileTree) (path : String) : Prop :=
  ∃ text, files.readText (Path.ofText path).text = .ok text ∧
    Definition.ofText text (.str (Path.ofText path).stem) = .ok d

namespace StoredAt

variable {d : Definition} (h : d.StoredAt files path)
include h

/-- **Loading the file gives the machine.** -/
theorem load : (Definition.load (.str path)).Ends files clock (.ok d) files [] := by
  obtain ⟨text, hread, hd⟩ := h
  have hpath : (Path.ofJson (.str path)).Ends files clock (.ok (Path.ofText path)) files [] :=
    (Job.ends_ofExcept (.ok path)).bind Job.ends_pure
  unfold Definition.load
  refine hpath.andThen ?_
  refine (Job.ends_asked (f := (·.probe (Path.ofText path).text)) (FileTree.probe_of_readText hread)).andThen ?_
  simp only [Bool.not_true, Bool.false_eq_true, if_false]
  exact (Job.ends_readText hread).bind (Job.ends_ok hd)

/-- The file still holds the machine when nothing that was there has changed. -/
theorem of_grows (hgrows : files.Grows after) : d.StoredAt after path := by
  obtain ⟨text, hread, hd⟩ := h
  exact ⟨text, hgrows.readText hread, hd⟩

end StoredAt

/-- A file whose text is the document of a machine holds the machine. -/
theorem storedAt_of_file {d : Definition} {place : List String} {cs : List Char}
    (hopens : files.Opens (Path.ofText path).text place) (hfile : files.node? place = some (.file text))
    (hcs : text.toList = cs) (hreturn : '\r' ∉ cs)
    (hd : Definition.ofText text (.str (Path.ofText path).stem) = .ok d) : d.StoredAt files path := by
  refine ⟨text, ?_, hd⟩
  rw [hopens.readText_of_file hfile, hcs, Text.unifyNewlines_of_not_mem hreturn, ← hcs, String.ofList_toList]

/-- A text whose characters can be read is the document of a machine. -/
theorem exists_ofText_of_chars {cs : List Char} {name : Json} {test : Definition → Bool} (hcs : text.toList = cs)
    (h : ((Json.Reader.run cs).toOption.bind fun value => (ofJson value name).toOption).any test = true) :
    ∃ d, Definition.ofText text name = .ok d ∧ test d = true := by
  obtain ⟨d, hd, htest⟩ := (Option.any_eq_true _ _).mp h
  obtain ⟨value, hvalue, hd⟩ := Option.bind_eq_some_iff.mp hd
  rw [toOption_eq_some] at hvalue hd
  refine ⟨d, ?_, htest⟩
  rw [Definition.ofText, Json.read, hcs, hvalue]
  exact hd

/-! ## 2. A document -/

/-- The document of a machine that accepts the words of an odd number of letters. -/
def oddDocument : String :=
  "\x7b\"alphabet\": [\"a\", \"B\"], \"blank_symbol\": \"B\", \"input_symbols\": [\"a\"],
  \"states\": [\"even\", \"odd\"], \"initial_state\": \"even\", \"final_states\": [\"odd\"],
  \"transitions\": [
    \x7b\"from_state\": \"even\", \"read_symbol\": \"a\", \"write_symbol\": \"a\", \"move_to\": \"R\",
     \"next_state\": \"odd\"\x7d,
    \x7b\"from_state\": \"odd\", \"read_symbol\": \"a\", \"write_symbol\": \"a\", \"move_to\": \"R\",
     \"next_state\": \"even\"\x7d]\x7d"

set_option maxRecDepth 2000 in
/-- The characters of the document can be read. -/
theorem exists_chars_oddDocument : ∃ cs, oddDocument.toList = cs ∧ '\r' ∉ cs ∧
    ((Json.Reader.run cs).toOption.bind fun value => (ofJson value (.str "odd")).toOption).any
      (fun d => (d.readInput (.str "aaa")).isOk && !(d.readInput (.str "ab")).isOk) = true :=
  ⟨_, String.toList_ofList, by decide +kernel, by decide +kernel⟩

/-- A file with the document holds a machine that takes one word and refuses another. -/
theorem exists_storedAt_of_file {place : List String} (hopens : files.Opens (Path.ofText path).text place)
    (hfile : files.node? place = some (.file oddDocument)) (hstem : (Path.ofText path).stem = "odd") :
    ∃ d : Definition, d.StoredAt files path ∧ (d.readInput (.str "aaa")).isOk = true ∧
      (d.readInput (.str "ab")).isOk = false := by
  obtain ⟨cs, hcs, hreturn, hmachine⟩ := exists_chars_oddDocument
  obtain ⟨d, hd, htests⟩ := exists_ofText_of_chars hcs hmachine
  rw [← hstem] at hd
  rw [Bool.and_eq_true, Bool.not_eq_true'] at htests
  exact ⟨d, storedAt_of_file hopens hfile hcs hreturn hd, htests.1, htests.2⟩

end Definition

end TapeMachine
