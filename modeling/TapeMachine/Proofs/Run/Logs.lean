import TapeMachine.Proofs.Json.Writing
import TapeMachine.Proofs.Workspace.Files
import TapeMachine.Proofs.Workspace.Jobs
import TapeMachine.Proofs.Workspace.Paths
import TapeMachine.RunLog
import TapeMachine.Settings
/-!
# What logging leaves in the files

A result that is logged adds one line to the main log of its day and one to the file of its outcome. The files of the
outcomes are different ones, so several results that are logged one after the other leave their lines in their order,
each in the file of its outcome.

* `Settings.log`, `Settings.LogsIn` : the log of some settings, and files in which it can be written;
* `RunLog.getLast?_outcome`, `RunLog.exists_getLast?_main` : the names of the files of a log;
* `RunLog.summaryLine`, `RunLog.detailLine`, `FileTree.logged` : the two lines of a result, and the files with them;
* `Settings.LogsIn.ends_logResults` : what logging results leaves;
* `Settings.LogsIn.gains_logged` : **each file gains its lines of all results**, which are the summaries for the main
  log (`gains_main`), the details with its outcome for the file of an outcome (`gains_outcome`), and none for any other;
* `FileTree.GainsResults` : all of this together.
-/

namespace TapeMachine

open Job FileTree

variable {settings : Settings} {clock : Timestamp} {files opened tree : FileTree} {main : List String}
  {place : Outcome → List String} {machine : Json} {r : Result Char} {results : List (Result Char)}

/-! ## 1. The lines of a result -/

namespace RunLog

/-- The line of a result in the main log, without the line feed behind it. -/
def summaryLine (machine : Json) (clock : Timestamp) (r : Result Char) : String :=
  (entry machine clock r.summaryFields).render

/-- The line of a result in the file of its outcome, without the line feed behind it. -/
def detailLine (machine : Json) (clock : Timestamp) (r : Result Char) : String :=
  (entry machine clock r.fields).render

theorem newline_not_mem_summaryLine (machine : Json) (clock : Timestamp) (r : Result Char) :
    '\n' ∉ (summaryLine machine clock r).toList :=
  Json.newline_not_mem_render _

theorem newline_not_mem_detailLine (machine : Json) (clock : Timestamp) (r : Result Char) :
    '\n' ∉ (detailLine machine clock r).toList :=
  Json.newline_not_mem_render _

/-- A log is made for the day of the clock, and its directory with it. -/
theorem ends_made {directory filePrefix : String} (h : files.makeDirectories directory = (opened, .ok ())) :
    (create (.str directory) (.str filePrefix)).Ends files clock (.ok { directory, filePrefix, today := clock.day })
      opened [] := by
  unfold create
  refine (ends_ok (a := directory) rfl).andThen ?_
  refine (ends_tryFiles h).andThen ?_
  exact ends_now.bind ends_pure

end RunLog

open RunLog

/-- The files with the two lines of a result. -/
def FileTree.logged (main : List String) (place : Outcome → List String) (machine : Json) (clock : Timestamp)
    (tree : FileTree) (r : Result Char) : FileTree :=
  (tree.addLine main (summaryLine machine clock r)).addLine (place r.outcome) (detailLine machine clock r)

/-! ## 2. Files for a log -/

namespace Settings

/-- The log of the settings on the day of the clock. -/
def log (settings : Settings) (clock : Timestamp) : RunLog :=
  { directory := settings.outputDirectory, filePrefix := settings.logFilePrefix, today := clock.day }

/-- Files in which the log can be written: its directory is there or can be made, and nothing is in the way of the main
log and of the files of the outcomes. -/
structure LogsIn (settings : Settings) (clock : Timestamp) (files opened : FileTree) (main : List String)
    (place : Outcome → List String) : Prop where
  directory : files.makeDirectories settings.outputDirectory = (opened, .ok ())
  main : opened.Opens (settings.log clock).mainPath main
  outcome : ∀ outcome, opened.Opens ((settings.log clock).outcomePath outcome) (place outcome)

namespace LogsIn

variable (h : settings.LogsIn clock files opened main place)
include h

theorem ends_create :
    (RunLog.create (.str settings.outputDirectory) (.str settings.logFilePrefix)).Ends files clock
      (.ok (settings.log clock)) opened [] :=
  RunLog.ends_made h.directory

/-- The files can be written in all trees with the same directories, one after the other. -/
theorem opens (hsame : opened.SameDirectories tree) (line : String) (outcome : Outcome) :
    tree.Opens (settings.log clock).mainPath main ∧
      (tree.addLine main line).Opens ((settings.log clock).outcomePath outcome) (place outcome) :=
  have hmain := h.main.of_same hsame
  ⟨hmain, (h.outcome outcome).of_same (hsame.trans (sameDirectories_addLine hmain.free line))⟩

theorem ends_logResult (hsame : opened.SameDirectories tree) (machine : Json) (r : Result Char) :
    ((settings.log clock).logResult r machine).Ends tree clock (.ok ()) (tree.logged main place machine clock r)
      [] := by
  obtain ⟨hmain, hplace⟩ := h.opens hsame (summaryLine machine clock r) r.outcome
  unfold RunLog.logResult
  refine ends_now.andThen ?_
  refine (ends_changeFiles (hmain.append_line _)).andThen ?_
  exact ends_changeFiles (hplace.append_line _)

theorem sameDirectories_logged (hsame : opened.SameDirectories tree) (machine : Json) (r : Result Char) :
    opened.SameDirectories (tree.logged main place machine clock r) := by
  obtain ⟨hmain, hplace⟩ := h.opens hsame (summaryLine machine clock r) r.outcome
  exact (hsame.trans (sameDirectories_addLine hmain.free _)).trans (sameDirectories_addLine hplace.free _)

/-- **Results are logged one after the other.** -/
theorem ends_logResults (hsame : opened.SameDirectories tree) (machine : Json) (results : List (Result Char)) :
    ((settings.log clock).logResults results machine).Ends tree clock (.ok ())
      (results.foldl (FileTree.logged main place machine clock) tree) [] := by
  induction results generalizing tree with
  | nil => exact ends_pure
  | cons r results ih => exact (h.ends_logResult hsame machine r).bind (ih (h.sameDirectories_logged hsame machine r))

end LogsIn

end Settings

/-! ## 3. Names of the files -/

/-- The name of the file of an outcome. -/
def outcomeFile (outcome : Outcome) (clock : Timestamp) : String :=
  outcome.word ++ "_" ++ clock.day ++ ".jsonl"

/-- The name starts as the word for the outcome does. -/
theorem head?_outcomeFile (outcome : Outcome) (clock : Timestamp) :
    (outcomeFile outcome clock).toList.head? = outcome.word.toList.head? := by
  simp only [outcomeFile, String.toList_append, List.append_assoc]
  cases outcome <;> rfl

theorem slash_not_mem_day (clock : Timestamp) : Consists (· ≠ '/') clock.day.toList := by
  have hdigit (c : Char) (hc : c.isDigit = true) : c ≠ '/' := by
    rintro rfl
    cases hc
  have hpadded (width n : Nat) : Consists (· ≠ '/') (Timestamp.padded width n).toList := by
    rw [Timestamp.padded, String.toList_ofList]
    exact .append (.replicate _ (by decide)) (consists_toDigits hdigit n)
  unfold Timestamp.day
  simp only [String.toList_append]
  have hyear : Consists (· ≠ '/') (toString clock.year).toList := consists_repr hdigit _
  exact .append (.append (.append (.append hyear (by decide)) (hpadded _ _)) (by decide)) (hpadded _ _)

theorem slash_not_mem_outcomeFile (outcome : Outcome) (clock : Timestamp) :
    '/' ∉ (outcomeFile outcome clock).toList := by
  have hword : Consists (· ≠ '/') outcome.word.toList := by cases outcome <;> decide
  have hall : Consists (· ≠ '/') (outcomeFile outcome clock).toList := by
    simp only [outcomeFile, String.toList_append]
    exact .append (.append (.append hword (by decide)) (slash_not_mem_day clock)) (by decide)
  exact fun hmem => hall _ hmem rfl

/-- The files of different outcomes and of different days have different names. -/
theorem outcomeFile_inj {outcome outcome' : Outcome} {clock' : Timestamp}
    (h : outcomeFile outcome clock = outcomeFile outcome' clock') : outcome = outcome' ∧ clock.day = clock'.day := by
  have hhead := head?_outcomeFile outcome clock
  rw [h, head?_outcomeFile] at hhead
  have houtcome : outcome = outcome' := by
    revert hhead
    cases outcome <;> cases outcome' <;> decide
  subst houtcome
  have hchars := congrArg String.toList h
  simp only [outcomeFile, String.toList_append] at hchars
  exact ⟨rfl, String.toList_inj.mp (List.append_cancel_left (List.append_cancel_right hchars))⟩

namespace RunLog

variable {log : RunLog} {found : List String}

/-- The place of the file of an outcome ends with its name. -/
theorem getLast?_outcome {outcome : Outcome} (hday : log.today = clock.day)
    (h : tree.locate (log.outcomePath outcome) = .ok found) : found.getLast? = some (outcomeFile outcome clock) := by
  have hne (name : String) (hname : ∀ outcome : Outcome, name.toList.head? ≠ outcome.word.toList.head?) :
      outcomeFile outcome clock ≠ name := by
    rintro rfl
    exact hname outcome (head?_outcomeFile outcome clock)
  obtain ⟨outer, houter⟩ := pathComponents_joinText log.directory (slash_not_mem_outcomeFile outcome clock)
    (hne "" fun outcome => by cases outcome <;> decide)
  rw [outcomePath, hday] at h
  exact locate_last h houter (hne "." fun outcome => by cases outcome <;> decide)
    (hne ".." fun outcome => by cases outcome <;> decide)

/-- The place of a main log ends with its day, behind a text that is the same for all days. -/
theorem exists_getLast?_main (directory filePrefix : String) : ∃ tail : String,
    ∀ (clock : Timestamp) (tree : FileTree) (found : List String),
      tree.locate (mainPath { directory, filePrefix, today := clock.day }) = .ok found →
        found.getLast? = some (tail ++ (clock.day ++ ".jsonl")) := by
  obtain ⟨tail, htail⟩ := exists_component_joinText directory filePrefix
  refine ⟨tail, fun clock tree found h => ?_⟩
  have hslash : '/' ∉ (clock.day ++ ".jsonl").toList := fun hmem => by
    rw [String.toList_append, List.mem_append] at hmem
    exact hmem.elim (fun hday => slash_not_mem_day clock _ hday rfl) (by decide)
  have hend (front : String) : (front ++ (clock.day ++ ".jsonl")).toList.getLast? = some 'l' := by
    rw [← String.append_assoc, String.toList_append, List.getLast?_append]
    rfl
  have hne (name : String) (hname : name.toList.getLast? ≠ some 'l') (front : String) :
      front ++ (clock.day ++ ".jsonl") ≠ name := by
    rintro rfl
    exact hname (hend front)
  have hname : clock.day ++ ".jsonl" ≠ "" := by
    have hfront := hne "" (by decide) ""
    rwa [String.empty_append] at hfront
  obtain ⟨outer, houter⟩ := htail _ hslash hname
  rw [mainPath, String.append_assoc] at h
  exact locate_last h houter (hne "." (by decide) tail) (hne ".." (by decide) tail)

end RunLog

/-! ## 4. What the files gain -/

namespace Settings.LogsIn

variable (h : settings.LogsIn clock files opened main place)
include h

/-- What a file gains when a result is logged. -/
def linesIn (main : List String) (place : Outcome → List String) (machine : Json) (clock : Timestamp)
    (other : List String) (r : Result Char) : List String :=
  (if main = other then [summaryLine machine clock r] else []) ++
    (if place r.outcome = other then [detailLine machine clock r] else [])

/-- **Each file gains its lines of all results, in their order.** -/
theorem gains_logged (hsame : opened.SameDirectories tree) (machine : Json) (results : List (Result Char))
    (other : List String) : tree.Gains (results.foldl (FileTree.logged main place machine clock) tree) other
      (results.flatMap (linesIn main place machine clock other)) := by
  induction results generalizing tree with
  | nil => exact .refl tree other
  | cons r results ih =>
      obtain ⟨hmain, hplace⟩ := h.opens hsame (summaryLine machine clock r) r.outcome
      have hfirst := (gains_addLine hmain.free (newline_not_mem_summaryLine machine clock r) other).trans
        (gains_addLine hplace.free (newline_not_mem_detailLine machine clock r) other)
      exact hfirst.trans (ih (h.sameDirectories_logged hsame machine r))

/-- **The main log gains the summaries of all results**, if it is none of the other files. -/
theorem gains_main (hne : ∀ outcome, main ≠ place outcome) (machine : Json) (results : List (Result Char)) :
    opened.Gains (results.foldl (FileTree.logged main place machine clock) opened) main
      (results.map (summaryLine machine clock)) := by
  have hlines : linesIn main place machine clock main = fun r => [summaryLine machine clock r] := funext fun r => by
    rw [linesIn, if_pos rfl, if_neg (Ne.symm (hne _)), List.append_nil]
  rw [List.map_eq_flatMap, ← hlines]
  exact h.gains_logged (.refl opened) machine results main

/-- **The files of different outcomes are different ones.** -/
theorem place_injective : Function.Injective place := by
  intro outcome outcome' heq
  have hlast := RunLog.getLast?_outcome rfl (h.outcome outcome).located
  rw [heq, RunLog.getLast?_outcome rfl (h.outcome outcome').located] at hlast
  exact (outcomeFile_inj (Option.some.inj hlast)).1.symm

/-- **The file of an outcome gains the details of the results with this outcome.** -/
theorem gains_outcome (hne : ∀ outcome, main ≠ place outcome) (machine : Json) (results : List (Result Char))
    (outcome : Outcome) : opened.Gains (results.foldl (FileTree.logged main place machine clock) opened) (place outcome)
      ((results.filter (·.outcome = outcome)).map (detailLine machine clock)) := by
  have hlines : results.flatMap (linesIn main place machine clock (place outcome)) =
      (results.filter (·.outcome = outcome)).map (detailLine machine clock) := by
    induction results with
    | nil => rfl
    | cons r results ih =>
        rw [List.flatMap_cons, ih, linesIn, if_neg (hne _), List.nil_append]
        by_cases heq : r.outcome = outcome
        · simp [heq]
        · simp [heq, h.place_injective.ne heq]
  rw [← hlines]
  exact h.gains_logged (.refl opened) machine results (place outcome)

/-- No other file gains a line. -/
theorem gains_other {other : List String} (hmain : other ≠ main) (houtcome : ∀ outcome, other ≠ place outcome)
    (machine : Json) (results : List (Result Char)) :
    opened.Gains (results.foldl (FileTree.logged main place machine clock) opened) other [] := by
  have hlines : results.flatMap (linesIn main place machine clock other) = [] := by
    refine List.flatMap_eq_nil_iff.mpr fun r _ => ?_
    rw [linesIn, if_neg (Ne.symm hmain), if_neg (Ne.symm (houtcome _)), List.append_nil]
  have hgains := h.gains_logged (.refl opened) machine results other
  rwa [hlines] at hgains

end Settings.LogsIn

/-- Whether files have got the lines of some results in their order: the summary of each in the main log, its details
in the file of its outcome, and nothing in any other file. -/
structure FileTree.GainsResults (before after : FileTree) (main : List String) (place : Outcome → List String)
    (machine : Json) (clock : Timestamp) (results : List (Result Char)) : Prop where
  summaries : before.Gains after main (results.map (summaryLine machine clock))
  details : ∀ outcome, before.Gains after (place outcome)
    ((results.filter (·.outcome = outcome)).map (detailLine machine clock))
  others : ∀ other, other ≠ main → (∀ outcome, other ≠ place outcome) → before.Gains after other []

/-- **Logged results are gained**, each in its files, since before the directories of the log were made. -/
theorem Settings.LogsIn.gainsResults {before : FileTree} (h : settings.LogsIn clock files opened main place)
    (hbefore : before.AddsDirectories files) (hne : ∀ outcome, main ≠ place outcome) (machine : Json)
    (results : List (Result Char)) :
    before.GainsResults (results.foldl (FileTree.logged main place machine clock) opened) main place machine clock
      results := by
  have hopened : files.AddsDirectories opened := by
    have hadds := addsDirectories_makeDirectories files settings.outputDirectory
    rwa [h.directory] at hadds
  have hadds := hbefore.trans hopened
  exact ⟨hadds.gains (h.gains_main hne machine results),
    fun outcome => hadds.gains (h.gains_outcome hne machine results outcome),
    fun _ hmain houtcome => hadds.gains (h.gains_other hmain houtcome machine results)⟩

/-! ## 5. Settings with a log -/

/-- The defaults, with a directory of the logs that can be named without a slash. -/
def Settings.usual : Settings where
  maxSteps := 10000
  leftBounded := false
  workers := 1
  logRuns := true
  showTrace := true
  outputDirectory := "logs"
  logFilePrefix := "tm_"
  resultsDirectory := "results/"

/-- The files of these settings on a day. -/
theorem Settings.logsIn_usual (hholds : files.holdsDirectory "logs" = true)
    (hmain : files.Opens (usual.log clock).mainPath main)
    (houtcome : ∀ outcome, files.Opens ((usual.log clock).outcomePath outcome) (place outcome)) :
    usual.LogsIn clock files files main place :=
  ⟨makeDirectories_of_holds (by decide) hholds, hmain, houtcome⟩

end TapeMachine
