import TapeMachine.Proofs.Run.Logs
/-!
# What a log has written after any calls

A log can be asked to write entries and results and to turn to the day of the clock, in any order, and the clock may
change in between. Whatever is asked, files only grow, and each line is written once, in the order of the calls: entries
and summaries to the main log of the day, which is the one of the last turn, and the details of a result to the file of
its outcome for the same day.

* `LogCall`, `RunLog.callAll` : the calls, one after the other;
* `LogFile`, `LogCall.written`, `LogCall.allWritten` : **what calls write**, file by file;
* `FileTree.Wrote` : files in which this has been written;
* `RunLog.exists_start_call`, `RunLog.exists_start_callAll` : a call, and **any calls**;
* `RunLog.eq_of_place_eq` : **the files of a log are different ones**;
* `RunLog.log_history` : **what a log has written to each file**, from its making on.
-/

namespace TapeMachine

open Job FileTree

/-! ## 1. Calls -/

/-- What a log may be asked, and that the clock changes. -/
inductive LogCall where
  | log (entry : Json)
  | logAll (entries : List Json)
  | logResult (r : Result Char) (machine : Json)
  | logResults (results : List (Result Char)) (machine : Json)
  | rotate
  | clock (time : Timestamp)

namespace RunLog

/-- A call, which gives the log for the next one. -/
def call (log : RunLog) : LogCall → Job RunLog
  | .log entry => do
      log.log entry
      return log
  | .logAll entries => do
      log.logAll (.arr entries)
      return log
  | .logResult r machine => do
      log.logResult r machine
      return log
  | .logResults results machine => do
      log.logResults results machine
      return log
  | .rotate => log.rotate
  | .clock time => do
      modify fun w => { w with clock := time }
      return log

/-- Calls one after the other. -/
def callAll (log : RunLog) (calls : List LogCall) : Job RunLog :=
  calls.foldlM call log

end RunLog

/-! ## 2. What calls write -/

/-- The files of a log: a main one for each day, and one for each outcome on each day. -/
inductive LogFile where
  | main (day : String)
  | outcome (kind : Outcome) (day : String)
  deriving DecidableEq, Repr

/-- The path of a file, for a log in a directory whose main files start with some text. -/
def LogFile.path (directory filePrefix : String) : LogFile → String
  | .main day => RunLog.mainPath { directory, filePrefix, today := day }
  | .outcome kind day => RunLog.outcomePath { directory, filePrefix, today := day } kind

/-- The summary of a result. -/
def RunLog.summary (machine : Json) (clock : Timestamp) (r : Result Char) : Fields :=
  ("machine", machine) :: ("timestamp", .str clock.utc) :: r.summaryFields

/-- What a result makes a log write on a day: its summary, and the same with the trace at the end. -/
def RunLog.resultWritten (day : String) (clock : Timestamp) (machine : Json) (r : Result Char) :
    List (LogFile × List String) :=
  [(.main day, [(Json.obj (summary machine clock r)).render]),
    (.outcome r.outcome day,
      [(Json.obj (summary machine clock r ++ [("trace", .arr (r.trace.map Snapshot.toJson))])).render])]

namespace LogCall

/-- **What a call writes**, to one file after the other, when the log has turned to a day and the clock shows a time. -/
def written (day : String) (clock : Timestamp) : LogCall → List (LogFile × List String)
  | .log entry => [(.main day, [entry.render])]
  | .logAll entries => [(.main day, entries.map Json.render)]
  | .logResult r machine => RunLog.resultWritten day clock machine r
  | .logResults results machine => results.flatMap (RunLog.resultWritten day clock machine)
  | .rotate => []
  | .clock _ => []

/-- The day of the log behind a call: only a turn changes it. -/
def dayBehind (day : String) (clock : Timestamp) : LogCall → String
  | .rotate => clock.day
  | _ => day

/-- The time of the clock behind a call. -/
def clockBehind (clock : Timestamp) : LogCall → Timestamp
  | .clock time => time
  | _ => clock

/-- **What calls write**, one after the other. -/
def allWritten (day : String) (clock : Timestamp) : List LogCall → List (LogFile × List String)
  | [] => []
  | call :: calls => call.written day clock ++ allWritten (call.dayBehind day clock) (call.clockBehind clock) calls

end LogCall

/-- The lines that are written to a file. -/
def linesTo (file : LogFile) (written : List (LogFile × List String)) : List String :=
  (written.filter (·.1 = file)).flatMap (·.2)

/-! ## 3. Files in which something was written -/

/-- The lines that are written to the file at a place. -/
def linesAt (place : LogFile → List String) (other : List String) (written : List (LogFile × List String)) :
    List String :=
  (written.filter (place ·.1 = other)).flatMap (·.2)

/-- **Whether files differ by what was written**: each has got its lines, and the others are as they were. -/
structure FileTree.Wrote (before after : FileTree) (place : LogFile → List String)
    (written : List (LogFile × List String)) : Prop where
  same : before.SameDirectories after
  gains : ∀ other, before.Gains after other (linesAt place other written)
  untouched : ∀ other, (∀ w ∈ written, place w.1 ≠ other) → after.node? other = before.node? other

variable {tree before middle after : FileTree} {place : LogFile → List String} {path : String} {file : LogFile}
  {lines : List String} {written more : List (LogFile × List String)}

namespace FileTree

theorem Wrote.refl (tree : FileTree) (place : LogFile → List String) : tree.Wrote tree place [] :=
  ⟨.refl tree, fun other => .refl tree other, fun _ _ => rfl⟩

theorem Wrote.trans (h : before.Wrote middle place written) (h' : middle.Wrote after place more) :
    before.Wrote after place (written ++ more) where
  same := h.same.trans h'.same
  gains := fun other => by
    rw [linesAt, List.filter_append, List.flatMap_append]
    exact (h.gains other).trans (h'.gains other)
  untouched := fun other hother => by
    rw [h'.untouched other fun w hw => hother w (List.mem_append_right _ hw),
      h.untouched other fun w hw => hother w (List.mem_append_left _ hw)]

/-- **Lines that are added to a file** at once. -/
theorem exists_ends_append (file : LogFile) (h : tree.Opens path (place file)) (clock : Timestamp)
    (hlines : ∀ line ∈ lines, '\n' ∉ line.toList) :
    ∃ after, (Job.append path (String.join (lines.map (· ++ "\n")))).Ends tree clock (.ok ()) after [] ∧
      tree.Wrote after place [(file, lines)] := by
  refine ⟨_, ends_changeFiles (h.append_eq _), sameDirectories_set h.free, fun other => ?_, fun other hother => ?_⟩
  · have hat : linesAt place other [(file, lines)] = if place file = other then lines else [] := by
      rw [linesAt, List.filter_cons]
      split <;> simp_all
    rw [hat]
    refine ⟨?_, fun line hline => ?_⟩
    · rw [textAt_set h.free]
      split
      · rename_i heq
        rw [heq]
      · simp
    · split at hline
      · exact hlines line hline
      · cases hline
  · rw [node?_set (ne_nil_of_free h.free), if_neg (hother _ (List.mem_singleton_self _))]

end FileTree

/-! ## 4. Any calls -/

/-- Whether the files of a log in a directory can be written, as far as something is written to them. -/
def Writable (directory filePrefix : String) (tree : FileTree) (place : LogFile → List String)
    (written : List (LogFile × List String)) : Prop :=
  ∀ w ∈ written, tree.Opens (w.1.path directory filePrefix) (place w.1)

namespace Writable

variable {directory filePrefix : String} (h : Writable directory filePrefix tree place (written ++ more))
include h

theorem left : Writable directory filePrefix tree place written :=
  fun w hw => h w (List.mem_append_left _ hw)

/-- Files can still be written when others have been written. -/
theorem right (hwrote : tree.Wrote after place written) : Writable directory filePrefix after place more :=
  fun w hw => (h w (List.mem_append_right _ hw)).of_same hwrote.same

end Writable

namespace RunLog

variable {log : RunLog} {clock : Timestamp}

theorem text_line (entry : Json) : line entry = String.join ([entry.render].map (· ++ "\n")) := by
  simp [line]

theorem newline_not_mem_renders (entries : List Json) : ∀ text ∈ entries.map Json.render, '\n' ∉ text.toList := by
  intro text htext
  obtain ⟨entry, _, rfl⟩ := List.mem_map.mp htext
  exact entry.newline_not_mem_render

/-- An entry. -/
theorem exists_ends_log (clock : Timestamp) (entry : Json) (h : tree.Opens log.mainPath (place (.main log.today))) :
    ∃ after, (log.log entry).Ends tree clock (.ok ()) after [] ∧
      tree.Wrote after place [(.main log.today, [entry.render])] := by
  have happend := exists_ends_append (.main log.today) h clock (newline_not_mem_renders [entry])
  rwa [List.map_singleton, ← text_line] at happend

/-- Several entries: the file is there even if there are none. -/
theorem exists_ends_logAll (entries : List Json) (h : tree.Opens log.mainPath (place (.main log.today))) :
    ∃ after, (log.logAll (.arr entries)).Ends tree clock (.ok ()) after [] ∧
      tree.Wrote after place [(.main log.today, entries.map Json.render)] := by
  obtain ⟨opened, hopen, hopened⟩ := exists_ends_append (.main log.today) h clock (newline_not_mem_renders [])
  obtain ⟨after, happend, hwrote⟩ :=
    exists_ends_append (.main log.today) (h.of_same hopened.same) clock (newline_not_mem_renders entries)
  have htext : String.join (entries.map line) = String.join ((entries.map Json.render).map (· ++ "\n")) := by
    rw [List.map_map]
    rfl
  have hboth := hopened.trans hwrote
  refine ⟨after, ?_, hboth.same, fun other => ?_, fun other hother => ?_⟩
  · unfold logAll
    refine Ends.andThen hopen ?_
    refine (ends_ok (a := entries) rfl).andThen ?_
    rw [htext]
    exact happend
  · have hgains := hboth.gains other
    by_cases heq : place (.main log.today) = other
    · simpa [linesAt, heq] using hgains
    · simpa [linesAt, heq] using hgains
  · exact hboth.untouched other (by simpa using hother)

/-- A result. -/
theorem exists_ends_logResult (r : Result Char) (machine : Json)
    (h : Writable log.directory log.filePrefix tree place (resultWritten log.today clock machine r)) :
    ∃ after, (log.logResult r machine).Ends tree clock (.ok ()) after [] ∧
      tree.Wrote after place (resultWritten log.today clock machine r) := by
  have hwritten : resultWritten log.today clock machine r =
      [(.main log.today, [(entry machine clock r.summaryFields).render])] ++
        [(.outcome r.outcome log.today, [(entry machine clock r.fields).render])] := rfl
  rw [hwritten] at h ⊢
  obtain ⟨middle, hsummary, hwrote⟩ :=
    exists_ends_log clock (entry machine clock r.summaryFields) (h.left _ (List.mem_singleton_self _))
  obtain ⟨after, hdetails, hwrote'⟩ := exists_ends_append (.outcome r.outcome log.today)
    (h.right hwrote _ (List.mem_singleton_self _)) clock (newline_not_mem_renders [entry machine clock r.fields])
  refine ⟨after, ?_, hwrote.trans hwrote'⟩
  unfold logResult
  refine ends_now.andThen (hsummary.andThen ?_)
  rw [text_line]
  exact hdetails

/-- **Several results.** -/
theorem exists_ends_logResults (results : List (Result Char)) (machine : Json)
    (h : Writable log.directory log.filePrefix tree place
      (results.flatMap (resultWritten log.today clock machine))) :
    ∃ after, (log.logResults results machine).Ends tree clock (.ok ()) after [] ∧
      tree.Wrote after place (results.flatMap (resultWritten log.today clock machine)) := by
  induction results generalizing tree with
  | nil => exact ⟨tree, ends_pure, .refl tree place⟩
  | cons r results ih =>
      rw [List.flatMap_cons] at h ⊢
      obtain ⟨middle, hfirst, hwrote⟩ := exists_ends_logResult r machine h.left
      obtain ⟨after, hrest, hwrote'⟩ := ih (h.right hwrote)
      exact ⟨after, hfirst.bind hrest, hwrote.trans hwrote'⟩

/-- **A call** writes what it is to write, and turns the log or changes the clock. -/
theorem exists_start_call (call : LogCall) (events : Array Event)
    (h : Writable log.directory log.filePrefix tree place (call.written log.today clock)) :
    ∃ after, (log.call call).start ⟨tree, clock, events⟩ =
        (.ok { log with today := call.dayBehind log.today clock }, ⟨after, call.clockBehind clock, events⟩) ∧
      tree.Wrote after place (call.written log.today clock) := by
  -- a call that writes gives the same log behind its writing
  have hreturn {job : Job Unit} {written : List (LogFile × List String)}
      (hjob : ∃ after, job.Ends tree clock (.ok ()) after [] ∧ tree.Wrote after place written) :
      ∃ after, (do job; return log : Job RunLog).start ⟨tree, clock, events⟩ = (.ok log, ⟨after, clock, events⟩) ∧
        tree.Wrote after place written := by
    obtain ⟨after, hends, hwrote⟩ := hjob
    have hboth : (do job; return log : Job RunLog).Ends tree clock (.ok log) after [] := hends.andThen ends_pure
    exact ⟨after, hboth events, hwrote⟩
  cases call with
  | log entry => exact hreturn (exists_ends_log clock entry (h _ (List.mem_singleton_self _)))
  | logAll entries => exact hreturn (exists_ends_logAll entries (h _ (List.mem_singleton_self _)))
  | logResult r machine => exact hreturn (exists_ends_logResult r machine h)
  | logResults results machine => exact hreturn (exists_ends_logResults results machine h)
  | rotate => exact ⟨tree, rfl, .refl tree place⟩
  | clock time => exact ⟨tree, rfl, .refl tree place⟩

/-- **Any calls**, one after the other. -/
theorem exists_start_callAll (calls : List LogCall) (events : Array Event)
    (h : Writable log.directory log.filePrefix tree place (LogCall.allWritten log.today clock calls)) :
    ∃ log' after clock', (log.callAll calls).start ⟨tree, clock, events⟩ = (.ok log', ⟨after, clock', events⟩) ∧
      tree.Wrote after place (LogCall.allWritten log.today clock calls) := by
  induction calls generalizing log tree clock with
  | nil => exact ⟨log, tree, clock, rfl, .refl tree place⟩
  | cons call calls ih =>
      obtain ⟨middle, hcall, hwrote⟩ := exists_start_call call events h.left
      let next : RunLog := { log with today := call.dayBehind log.today clock }
      have hnext : Writable next.directory next.filePrefix middle place
          (LogCall.allWritten next.today (call.clockBehind clock) calls) := h.right hwrote
      obtain ⟨log', after, clock', hrest, hwrote'⟩ := ih hnext
      refine ⟨log', after, clock', ?_, hwrote.trans hwrote'⟩
      have hcons : log.callAll (call :: calls) = log.call call >>= fun log => log.callAll calls := rfl
      rw [hcons, start_bind, hcall]
      exact hrest

end RunLog

/-! ## 5. Different files -/

/-- The day of a file. -/
def LogFile.day : LogFile → String
  | .main day => day
  | .outcome _ day => day

theorem RunLog.day_of_resultWritten {day : String} {clock : Timestamp} {machine : Json} {r : Result Char}
    {w : LogFile × List String} (h : w ∈ resultWritten day clock machine r) : w.1.day = day := by
  simp only [resultWritten, List.mem_cons, List.not_mem_nil, or_false] at h
  rcases h with rfl | rfl <;> rfl

namespace LogCall

variable {day : String} {clock : Timestamp} {w : LogFile × List String}

/-- A call writes to files of the day of the log. -/
theorem day_of_written {call : LogCall} (h : w ∈ call.written day clock) : w.1.day = day := by
  cases call with
  | log entry => exact List.mem_singleton.mp h ▸ rfl
  | logAll entries => exact List.mem_singleton.mp h ▸ rfl
  | logResult r machine => exact RunLog.day_of_resultWritten h
  | logResults results machine =>
      obtain ⟨r, _, hr⟩ := List.mem_flatMap.mp h
      exact RunLog.day_of_resultWritten hr
  | rotate => cases h
  | clock time => cases h

/-- Calls write to files of days that the clock has shown. -/
theorem exists_day {calls : List LogCall} (hday : ∃ time : Timestamp, day = time.day)
    (h : w ∈ allWritten day clock calls) : ∃ time : Timestamp, w.1.day = time.day := by
  induction calls generalizing day clock with
  | nil => cases h
  | cons call calls ih =>
      rcases List.mem_append.mp h with hfirst | hrest
      · rwa [day_of_written hfirst]
      · refine ih ?_ hrest
        cases call with
        | rotate => exact ⟨clock, rfl⟩
        | _ => exact hday

end LogCall

section Different

variable {directory filePrefix : String} {time time' : Timestamp}

/-- The main logs of different days are different files. -/
theorem RunLog.main_inj
    (h : tree.locate ((LogFile.main time.day).path directory filePrefix) = .ok (place (.main time.day)))
    (h' : tree.locate ((LogFile.main time'.day).path directory filePrefix) = .ok (place (.main time'.day)))
    (heq : place (.main time.day) = place (.main time'.day)) : time.day = time'.day := by
  obtain ⟨tail, htail⟩ := exists_getLast?_main directory filePrefix
  have hlast := htail time tree _ h
  rw [heq, htail time' tree _ h'] at hlast
  have hchars := congrArg String.toList (Option.some.inj hlast)
  simp only [String.toList_append] at hchars
  exact (String.toList_inj.mp (List.append_cancel_right (List.append_cancel_left hchars))).symm

/-- The files of different outcomes, or of different days, are different files. -/
theorem RunLog.outcome_inj {kind kind' : Outcome}
    (h : tree.locate ((LogFile.outcome kind time.day).path directory filePrefix) = .ok (place (.outcome kind time.day)))
    (h' : tree.locate ((LogFile.outcome kind' time'.day).path directory filePrefix) =
      .ok (place (.outcome kind' time'.day)))
    (heq : place (.outcome kind time.day) = place (.outcome kind' time'.day)) : kind = kind' ∧ time.day = time'.day := by
  have hlast := getLast?_outcome rfl h
  rw [heq, getLast?_outcome rfl h'] at hlast
  obtain ⟨hkind, hday⟩ := outcomeFile_inj (Option.some.inj hlast)
  exact ⟨hkind.symm, hday.symm⟩

variable (hopens : Writable directory filePrefix tree place written)
  (hdays : ∀ w ∈ written, ∃ time : Timestamp, w.1.day = time.day)
  (hne : ∀ day kind day', .main day ∈ written.map Prod.fst → .outcome kind day' ∈ written.map Prod.fst →
    place (.main day) ≠ place (.outcome kind day'))
include hopens hdays hne

/-- **The files of a log are different ones**, if no main log is the file of an outcome. -/
theorem RunLog.eq_of_place_eq {file' : LogFile} (hfile : file ∈ written.map Prod.fst)
    (hfile' : file' ∈ written.map Prod.fst) (heq : place file = place file') : file = file' := by
  have hknown {file : LogFile} (hfile : file ∈ written.map Prod.fst) :
      tree.locate (file.path directory filePrefix) = .ok (place file) ∧ ∃ time : Timestamp, file.day = time.day := by
    obtain ⟨w, hw, rfl⟩ := List.mem_map.mp hfile
    exact ⟨(hopens w hw).located, hdays w hw⟩
  obtain ⟨h, time, hday⟩ := hknown hfile
  obtain ⟨h', time', hday'⟩ := hknown hfile'
  cases file with
  | main day =>
      cases file' with
      | main day' =>
          obtain rfl : day = time.day := hday
          obtain rfl : day' = time'.day := hday'
          rw [main_inj h h' heq]
      | outcome kind day' => exact absurd heq (hne _ _ _ hfile hfile')
  | outcome kind day =>
      cases file' with
      | main day' => exact absurd heq.symm (hne _ _ _ hfile' hfile)
      | outcome kind' day' =>
          obtain rfl : day = time.day := hday
          obtain rfl : day' = time'.day := hday'
          obtain ⟨hkind, hdays⟩ := outcome_inj h h' heq
          rw [hkind, hdays]

/-- The lines at the place of a file are those to the file. -/
theorem linesAt_place (hfile : file ∈ written.map Prod.fst) :
    linesAt place (place file) written = linesTo file written := by
  have hfilter : written.filter (place ·.1 = place file) = written.filter (·.1 = file) :=
    List.filter_congr fun w hw => by
      rw [decide_eq_decide]
      exact ⟨RunLog.eq_of_place_eq hopens hdays hne (List.mem_map_of_mem hw) hfile, fun h => congrArg place h⟩
  rw [linesAt, hfilter, linesTo]

end Different

/-! ## 6. The history of a log -/

/-- **What a log writes from its making on**, when it is made at a time and gets some calls. -/
def LogCall.history (clock : Timestamp) (calls : List LogCall) : List (LogFile × List String) :=
  allWritten clock.day clock calls

/-- **A log only adds lines, each once and to its file.** For any files, directory and prefix such that the files to which
something is written can be written and no main log is the file of an outcome, and for any calls and changes of the clock
between them: the log is made and answers all calls; every file holds what it held before and perhaps more behind it;
each file of the log has got just its lines, in the order of the calls; and no other file has been changed or made. -/
theorem RunLog.log_history {directory filePrefix : String} {clock : Timestamp} {files opened : FileTree}
    {calls : List LogCall} (events : Array Event) (hdirectory : files.makeDirectories directory = (opened, .ok ()))
    (hopens : Writable directory filePrefix opened place (LogCall.history clock calls))
    (hne : ∀ day kind day', .main day ∈ (LogCall.history clock calls).map Prod.fst →
      .outcome kind day' ∈ (LogCall.history clock calls).map Prod.fst →
        place (.main day) ≠ place (.outcome kind day')) :
    ∃ log after clock',
      (create (.str directory) (.str filePrefix) >>= (callAll · calls)).start ⟨files, clock, events⟩ =
        (.ok log, ⟨after, clock', events⟩) ∧
      (∀ other, ∃ more, after.textAt other = files.textAt other ++ more) ∧
      (∀ file ∈ (LogCall.history clock calls).map Prod.fst,
        files.Gains after (place file) (linesTo file (LogCall.history clock calls))) ∧
      ∀ other, (∀ file ∈ (LogCall.history clock calls).map Prod.fst, place file ≠ other) →
        ∀ text, after.node? other = some (.file text) ↔ files.node? other = some (.file text) := by
  have hadds : files.AddsDirectories opened := by
    have hadds := addsDirectories_makeDirectories files directory
    rwa [hdirectory] at hadds
  let made : RunLog := { directory, filePrefix, today := clock.day }
  have hmade : Writable made.directory made.filePrefix opened place (LogCall.allWritten made.today clock calls) := hopens
  obtain ⟨log, after, clock', hstart, hwrote⟩ := exists_start_callAll calls events hmade
  have hdays : ∀ w ∈ LogCall.history clock calls, ∃ time : Timestamp, w.1.day = time.day :=
    fun w hw => LogCall.exists_day ⟨clock, rfl⟩ hw
  refine ⟨log, after, clock', ?_, fun other => ?_, fun file hfile => ?_, fun other hother text => ?_⟩
  · rw [start_bind, ends_made hdirectory events]
    exact hstart
  · exact ⟨_, (hadds.gains (hwrote.gains other)).text⟩
  · rw [← linesAt_place hopens hdays hne hfile]
    exact hadds.gains (hwrote.gains (place file))
  · rw [hwrote.untouched other fun w hw => hother w.1 (List.mem_map_of_mem hw)]
    rcases hadds.nodes other with hsame | ⟨hnone, hdirectory⟩
    · rw [hsame]
    · rw [hnone, hdirectory]
      exact iff_of_false nofun nofun

/-- A result of no steps. -/
def RunLog.sampleResult : Result Char where
  outcome := .rejected
  finalState := "q"
  tape := ['B']
  trace := []
  steps := 0
  blank := 'B'
  reason := none
  input := .str ""

/-- Calls over the end of a day, with a turn some time after it. -/
def RunLog.sampleCalls : List LogCall :=
  [.log (.int 1), .clock ⟨2024, 1, 2, 0, 0, 0, 0⟩, .log (.int 2), .rotate, .logAll [.int 3, .int 4],
    .logResult sampleResult .null]

/-- The places of the files of a log in a directory. -/
def LogFile.samplePlace : LogFile → List String
  | .main day => ["logs", "tm_" ++ day ++ ".jsonl"]
  | .outcome kind day => ["logs", kind.word ++ "_" ++ day ++ ".jsonl"]

/-- Files with a main log that holds a line. -/
def RunLog.sampleFiles : FileTree :=
  ((⟨∅, []⟩ : FileTree).set ["logs"] .directory).set ["logs", "tm_2024-01-01.jsonl"] (.file "0\n")

/-- The entries before the turn are added to the old main log, and all that comes behind it to the files of the new
day. -/
theorem RunLog.log_history_sample :
    ∃ log after clock', (create (.str "logs") (.str "tm_") >>= (callAll · sampleCalls)).start
        ⟨sampleFiles, ⟨2024, 1, 1, 0, 0, 0, 0⟩, #[]⟩ = (.ok log, ⟨after, clock', #[]⟩) ∧
      sampleFiles.Gains after ["logs", "tm_2024-01-01.jsonl"] ["1", "2"] ∧
      sampleFiles.Gains after ["logs", "tm_2024-01-02.jsonl"]
        ["3", "4", (Json.obj (summary .null ⟨2024, 1, 2, 0, 0, 0, 0⟩ sampleResult)).render] ∧
      sampleFiles.Gains after ["logs", "rejected_2024-01-02.jsonl"]
        [(Json.obj (summary .null ⟨2024, 1, 2, 0, 0, 0, 0⟩ sampleResult ++ [("trace", .arr [])])).render] := by
  have hdirectory : sampleFiles.makeDirectories "logs" = (sampleFiles, .ok ()) :=
    makeDirectories_of_holds (by decide) (by decide +kernel)
  have hopens : Writable "logs" "tm_" sampleFiles LogFile.samplePlace
      (LogCall.history ⟨2024, 1, 1, 0, 0, 0, 0⟩ sampleCalls) := by
    unfold Writable
    decide +kernel
  have hne (day : String) (kind : Outcome) (day' : String) :
      LogFile.samplePlace (.main day) ≠ LogFile.samplePlace (.outcome kind day') := by
    intro heq
    have hname : "tm_" ++ day ++ ".jsonl" = kind.word ++ "_" ++ day' ++ ".jsonl" := by
      simpa [LogFile.samplePlace] using heq
    have hhead := congrArg (·.toList.head?) hname
    cases kind <;> simp [Outcome.word] at hhead
  obtain ⟨log, after, clock', hstart, _, hgains, _⟩ :=
    log_history #[] hdirectory hopens fun day kind day' _ _ => hne day kind day'
  have hlines : linesTo (.main "2024-01-01") (LogCall.history ⟨2024, 1, 1, 0, 0, 0, 0⟩ sampleCalls) = ["1", "2"] := by
    decide +kernel
  refine ⟨log, after, clock', hstart, hlines ▸ hgains (.main "2024-01-01") (by decide +kernel), ?_, ?_⟩
  · exact hgains (.main "2024-01-02") (by decide +kernel)
  · exact hgains (.outcome .rejected "2024-01-02") (by decide +kernel)

end TapeMachine
