import TapeMachine.Proofs.Program.Inputs
/-!
# What a session logs

In a run of a session the user steps, takes back and runs in any order, and an answer that is not understood changes
nothing. However the run comes to its end, its result is that of the machine, and it is logged when it is first seen to
be over and never again: so a session logs what the command line logs for the same tape, or nothing at all.

* `Session.calls`, `Session.behind`, `Session.HaltsWithin` : answers as calls of the executor, and whether it has been
  over behind some of them;
* `Session.leaves_enter`, `Session.leaves_respond` : **one answer leads to the next question**, and a run that is over
  has been logged;
* `Session.leaves_answers`, `Session.shows_quit` : any answers one after the other, and the one that ends a run;
* `Session.logs_as_command_line` : **what a session logs is what the command line logs.**
-/

namespace TapeMachine.Session

open Job FileTree Executor Markup

variable {d : Definition} {settings : Settings} {clock : Timestamp} {files opened now : FileTree} {main : List String}
  {place : Outcome → List String} {fresh e : Executor} {r : Result Char} {answers : List String} {a text : String}
  {logged : Bool}

/-! ## 1. Answers as calls -/

/-- The calls of the executor that an answer in a run stands for. -/
def calls (answer : String) : List Call :=
  match stepQuestion.read? answer with
  | some "n" => [.step]
  | some "p" => [.undo]
  | some "r" => [.run]
  | _ => []

/-- The executor behind some answers. -/
def behind (fresh : Executor) (answers : List String) : Executor :=
  fresh.callAll (answers.flatMap calls)

/-- Whether an executor has been halted behind some of the answers. -/
def HaltsWithin (fresh : Executor) (answers : List String) : Prop :=
  ∃ before, before <+: answers ∧ (behind fresh before).halted = true

theorem behind_cons (fresh : Executor) (a : String) (answers : List String) :
    behind fresh (a :: answers) = behind (fresh.callAll (calls a)) answers := by
  rw [behind, behind, callAll, callAll, callAll, List.flatMap_cons, List.foldl_append]

theorem haltsWithin_nil : HaltsWithin fresh [] ↔ fresh.halted = true := by
  refine ⟨fun ⟨before, hbefore, hhalted⟩ => ?_, fun h => ⟨[], List.prefix_refl _, h⟩⟩
  rwa [List.prefix_nil.mp hbefore] at hhalted

theorem haltsWithin_cons : HaltsWithin fresh (a :: answers) ↔
    fresh.halted = true ∨ HaltsWithin (fresh.callAll (calls a)) answers := by
  constructor
  · rintro ⟨before, hbefore, hhalted⟩
    obtain rfl | ⟨rest, rfl, hrest⟩ := List.prefix_cons_iff.mp hbefore
    · exact .inl hhalted
    · exact .inr ⟨rest, hrest, by rwa [behind_cons] at hhalted⟩
  · rintro (hhalted | ⟨before, hbefore, hhalted⟩)
    · exact ⟨[], List.nil_prefix, hhalted⟩
    · exact ⟨a :: before, List.cons_prefix_cons.mpr ⟨rfl, hbefore⟩, by rwa [behind_cons]⟩

/-- What is understood in a run. -/
theorem read?_cases {said : String} (h : stepQuestion.read? a = some said) :
    said = "n" ∨ said = "p" ∨ said = "r" ∨ said = "q" := by
  unfold Question.read? stepQuestion at h
  split at h
  · exact .inl (Option.some.inj h).symm
  · dsimp only at h
    split at h
    · rename_i hchoice
      rw [← Option.some.inj h]
      simpa using hchoice
    · cases h

/-! ## 2. One answer -/

/-- A session with the log of its settings. -/
def logging (d : Definition) (settings : Settings) (clock : Timestamp) : Session :=
  { definition := d, settings, log := some (settings.log clock) }

theorem shows_ask {q : Question} (h : Fits q.text) : q.ask.Shows () := by
  obtain ⟨seen, hseen⟩ := h.exists_render
  unfold Question.ask Job.prompt Job.seen
  exact (shows_ofExcept (a := seen) (by rw [hseen]; rfl)).bind (shows_emit _)

/-- A number in brackets is no tag. -/
theorem shows_item {c : Char} {cs : List Char} (htext : text.toList = '[' :: c :: cs) (hc : startsTag c = false)
    (hcs : Consists IsPlain (c :: cs)) : (print text).Shows () := by
  refine Fits.shows_print fun names after hafter => ?_
  rw [htext]
  exact (Renders.plain hcs (hafter.renders 0)).behind '[' (hcs c List.mem_cons_self) hc

/-- The menu is shown and asks its question. -/
theorem shows_enter_menu (s : Session) : (s.enter .menu).Shows .menu := by
  have htitle : Fits ("\n" ++ (styled "bold cyan" "Turing Machine Simulator" ++
      (" - " ++ escape s.definition.name.display))) :=
    Plain.fits_append (by decide) (fits_styled_append (by decide) (Plain.fits (by decide))
      (Plain.fits_append (by decide) (fits_escape _)))
  have hmenu : s.showMenu.Shows () := by
    unfold showMenu
    simp only [String.append_assoc]
    refine htitle.shows_print.bind ((shows_item rfl rfl (by decide)).bind ?_)
    exact (shows_item rfl rfl (by decide)).bind (shows_item rfl rfl (by decide))
  have hannounce : (s.announce .menu).Shows .menu := hmenu.bind shows_pure
  unfold enter
  exact hannounce.bind ((shows_ask (q := menuQuestion) (Plain.fits (by decide))).bind shows_pure)

section Logging

variable (hfresh : fresh.reset = fresh) (h : settings.LogsIn clock files opened main place)
  (hr : fresh.run.result = .ok r) (hlabel : r.label = .ok text)

variable (d opened main place clock r) in
/-- What a session has left in the files that it has opened. -/
def left (logged : Bool) : FileTree :=
  if logged then opened.logged main place d.name clock r else opened

include h hr hlabel

/-- **Where a run stands is shown, and a run that is over has been logged.** -/
theorem leaves_enter (hfrom : FromStart fresh e) (logged : Bool) :
    ((logging d settings clock).enter (.stepping e logged)).Leaves (left d clock opened main place r logged) clock
      (.ok (.stepping e (logged || e.halted))) (left d clock opened main place r (logged || e.halted)) := by
  have hshow : ((logging d settings clock).showRun e logged).Leaves (left d clock opened main place r logged) clock
      (.ok (logged || e.halted)) (left d clock opened main place r (logged || e.halted)) := by
    unfold showRun
    refine (e.shows_report _ _).bind ?_
    cases hhalted : e.halted with
    | false =>
        rw [result_of_not_halted hhalted, Bool.or_false]
        exact ends_pure.leaves
    | true =>
        have hresult : e.result = .ok r := by
          rw [← hr, ← hfrom.run_eq, run_of_halted hhalted]
        rw [hresult, Bool.or_true]
        refine (Result.shows_reportLabel hlabel _ _).bind ?_
        cases logged with
        | true => exact ends_pure.leaves
        | false =>
            refine (h.ends_logResult (.refl opened) d.name r).leaves.bind ?_
            exact ends_pure.leaves
  have hannounce : ((logging d settings clock).announce (.stepping e logged)).Leaves
      (left d clock opened main place r logged) clock (.ok (.stepping e (logged || e.halted)))
      (left d clock opened main place r (logged || e.halted)) := by
    unfold announce
    refine hshow.bind ?_
    exact ends_pure.leaves
  unfold enter
  exact hannounce.bind ((shows_ask (q := stepQuestion) (Plain.fits (by decide)) _ _).bind ends_pure.leaves)

/-- A run shows its result. -/
theorem leaves_run (hfrom : FromStart fresh e) (logged : Bool) :
    ((logging d settings clock).chooseInRun e logged "r").Leaves (left d clock opened main place r logged) clock
      (.ok (.stepping e.run (logged || e.run.halted))) (left d clock opened main place r (logged || e.run.halted)) := by
  unfold chooseInRun
  refine (ends_ok (a := r) (by rw [hfrom.run_eq, hr]; rfl)).leaves.bind ?_
  exact (Result.shows_report hlabel _ _ _).bind (leaves_enter h hr hlabel hfrom.run logged)

include hfresh

/-- When there is nothing to take back, this is said, and the run stays where it is. -/
theorem leaves_undo (hfrom : FromStart fresh e) (logged : Bool) :
    ((logging d settings clock).chooseInRun e logged "p").Leaves (left d clock opened main place r logged) clock
      (.ok (.stepping (e.call .undo).2 (logged || (e.call .undo).2.halted)))
      (left d clock opened main place r (logged || (e.call .undo).2.halted)) := by
  unfold chooseInRun call
  dsimp only
  cases hundo : e.undo with
  | ok before => exact leaves_enter h hr hlabel (hfrom.undo hfresh hundo) logged
  | error fault =>
      have hfault : fault = .nothingToUndo := by
        unfold undo at hundo
        split at hundo
        · exact (Except.error.inj hundo).symm
        · cases hundo
      refine Leaves.bind (a := ()) ?_ (leaves_enter h hr hlabel hfrom logged)
      rw [hfault]
      exact Fits.shows_print (fits_styled (by decide) (Plain.fits (by decide))) _ _

/-- **An answer leads on to the executor behind its calls.** -/
theorem leaves_respond (hfrom : FromStart fresh e) (hlogged : e.halted = true → logged = true)
    (ha : stepQuestion.read? a ≠ some "q") :
    ((logging d settings clock).respond (.stepping e logged) a).Leaves (left d clock opened main place r logged) clock
      (.ok (.stepping (e.callAll (calls a)) (logged || (e.callAll (calls a)).halted)))
      (left d clock opened main place r (logged || (e.callAll (calls a)).halted)) := by
  have hquestion : (logging d settings clock).question (.stepping e logged) = some stepQuestion := rfl
  simp only [respond, hquestion, calls]
  cases hread : stepQuestion.read? a with
  | none =>
      have hsame : (logged || e.halted) = logged := by
        cases hhalted : e.halted with
        | false => exact Bool.or_false _
        | true => rw [hlogged hhalted]; rfl
      rw [show e.callAll [] = e from rfl, hsame]
      refine (Fits.shows_print (Plain.fits (by decide)) _ _).bind ?_
      exact (shows_ask (q := stepQuestion) (Plain.fits (by decide)) _ _).bind ends_pure.leaves
  | some said =>
      obtain rfl | rfl | rfl | rfl := read?_cases hread
      · exact leaves_enter h hr hlabel hfrom.step logged
      · exact leaves_undo hfresh h hr hlabel hfrom logged
      · exact leaves_run h hr hlabel hfrom logged
      · exact absurd hread ha

/-! ## 3. Any answers -/

/-- **Any answers one after the other**: the run has been logged exactly when it has been over. -/
theorem leaves_answers (hfrom : FromStart fresh e) (hlogged : e.halted = true → logged = true)
    (hstay : ∀ a ∈ answers, stepQuestion.read? a ≠ some "q") : ∃ logged',
      (answers.foldlM (logging d settings clock).respond (.stepping e logged)).Leaves
        (left d clock opened main place r logged) clock (.ok (.stepping (behind e answers) logged'))
        (left d clock opened main place r logged') ∧
      (logged' = true ↔ logged = true ∨ HaltsWithin e answers) := by
  induction answers generalizing e logged with
  | nil =>
      refine ⟨logged, ends_pure.leaves, ?_⟩
      rw [haltsWithin_nil]
      exact ⟨.inl, fun hor => hor.elim id hlogged⟩
  | cons a answers ih =>
      have hfirst := leaves_respond (d := d) hfresh h hr hlabel hfrom hlogged (hstay a (by simp))
      have hagain : (e.callAll (calls a)).halted = true → (logged || (e.callAll (calls a)).halted) = true :=
        fun hhalted => by rw [hhalted, Bool.or_true]
      obtain ⟨logged', hrest, hiff⟩ := ih (hfrom.callAll hfresh (calls a)) hagain fun b hb => hstay b (by simp [hb])
      refine ⟨logged', ?_, ?_⟩
      · rw [List.foldlM_cons, behind_cons]
        exact hfirst.bind hrest
      · rw [hiff, haltsWithin_cons, Bool.or_eq_true]
        -- an executor that is halted behind the first answer is so behind none of the others
        have hnow : (e.callAll (calls a)).halted = true → HaltsWithin (e.callAll (calls a)) answers :=
          fun hhalted => ⟨[], List.nil_prefix, hhalted⟩
        grind

/-- A run starts with a tape that the machine takes, and has logged nothing. -/
theorem leaves_chooseTape {tape : String} (htape : tape ≠ ":q")
    (hstart : (logging d settings clock).start tape = .ok fresh) :
    ((logging d settings clock).chooseTape tape).Leaves opened clock (.ok (.stepping fresh false)) opened := by
  have hshown := leaves_enter (d := d) h hr hlabel (fromStart_self hfresh) false
  rw [(running_of_reset hfresh).halted] at hshown
  unfold chooseTape
  rw [if_neg htape, hstart]
  exact hshown

end Logging

/-- **The answer that ends a run leads back to the menu**, and touches no file. -/
theorem shows_quit (d : Definition) (settings : Settings) (clock : Timestamp) (e : Executor) (logged : Bool)
    (ha : stepQuestion.read? a = some "q") :
    ((logging d settings clock).respond (.stepping e logged) a).Shows .menu := by
  have hmenu : (logging d settings clock).respond (.stepping e logged) a = (logging d settings clock).enter .menu := by
    unfold respond question
    simp only [ha]
    rfl
  rw [hmenu]
  exact shows_enter_menu _

/-! ## 4. The command line -/

/-- The program logs the result of a tape that is its only input. -/
theorem leaves_runInputs {tape : String} {input : Input} (hlogs : settings.logRuns = true)
    (h : settings.LogsIn clock files opened main place) (hinput : d.readInput (.str tape) = .ok input)
    (hrun : d.run (.str tape) settings.limits = .ok r) :
    (Simulator.runInputs d [.str tape] settings).Leaves files clock (.ok ())
      (opened.logged main place d.name clock r) := by
  have htaken : ∀ v ∈ [Json.str tape], ∃ input, d.readInput v = .ok input := fun v hv =>
    ⟨input, by rwa [List.mem_singleton.mp hv]⟩
  obtain ⟨results, shown, hresults, hends⟩ := Simulator.ends_runInputs htaken hlogs h
  rw [Simulator.eq_singleton_of_results hresults hrun] at hends
  exact hends.leaves

/-- The program opens a session with the log of its settings. -/
theorem leaves_openSession (hlogs : settings.logRuns = true) (h : settings.LogsIn clock files opened main place) :
    (Simulator.openSession d settings).Leaves files clock (.ok (.waiting (logging d settings clock) .menu)) opened := by
  unfold Simulator.openSession
  refine (Simulator.ends_openLog hlogs h).leaves.bind ?_
  exact (shows_enter_menu (logging d settings clock) opened clock).bind ends_pure.leaves

/-- **What a session logs is what the command line logs.** Whatever is answered in a run, no answer ends the session
    but the one that leads back to the menu, and the run waits for the next answer until there is none. If the
    executor has never been halted, no file has changed. If it has, however often this was taken back, the files have
    one line more in the main log and one line more in the file of the outcome, and so they have when the tape is an
    input of the command line. -/
theorem logs_as_command_line {tape : String} {input : Input} (hlogs : settings.logRuns = true)
    (h : settings.LogsIn clock files opened main place) (htape : tape ≠ ":q")
    (hinput : d.readInput (.str tape) = .ok input) (hstay : ∀ a ∈ answers, stepQuestion.read? a ≠ some "q") :
    ∃ fresh r logged after,
      (logging d settings clock).start tape = .ok fresh ∧ d.run (.str tape) settings.limits = .ok r ∧
      (Simulator.openSession d settings).Leaves files clock (.ok (.waiting (logging d settings clock) .menu)) opened ∧
      ((logging d settings clock).chooseTape tape >>= fun mode =>
          answers.foldlM (logging d settings clock).respond mode).Leaves opened clock
        (.ok (.stepping (behind fresh answers) logged)) after ∧
      (Simulator.finish (.waiting (logging d settings clock) (.stepping (behind fresh answers) logged)) []).Leaves after
        clock (.error .endOfAnswers) after ∧
      (∀ a, stepQuestion.read? a = some "q" →
        ((logging d settings clock).respond (.stepping (behind fresh answers) logged) a).Leaves after clock
          (.ok .menu) after) ∧
      (¬ HaltsWithin fresh answers → after = opened) ∧
      (HaltsWithin fresh answers →
        after = (opened.addLine main (RunLog.summaryLine d.name clock r)).addLine (place r.outcome)
          (RunLog.detailLine d.name clock r) ∧
        '\n' ∉ (RunLog.summaryLine d.name clock r).toList ∧ '\n' ∉ (RunLog.detailLine d.name clock r).toList ∧
        (Simulator.runInputs d [.str tape] settings).Leaves files clock (.ok ()) after) := by
  obtain ⟨fresh, hcreate⟩ : ∃ fresh, create d (.str tape) settings.limits = .ok fresh :=
    ⟨Executor.start d input settings.limits, by rw [create, hinput]; rfl⟩
  obtain ⟨hfresh, hrun⟩ := fresh_of_create hcreate
  obtain ⟨r, hr⟩ := exists_result_of_halted (halted_run fresh)
  obtain ⟨text, hlabel⟩ := Definition.exists_label (hrun r hr)
  have hnone : fresh.halted = true → false = true := fun hhalted => by
    rw [(running_of_reset hfresh).halted] at hhalted
    cases hhalted
  obtain ⟨logged, hanswers, hiff⟩ :=
    leaves_answers (d := d) hfresh h hr hlabel (fromStart_self hfresh) hnone hstay
  have hstart := leaves_chooseTape (d := d) hfresh h hr hlabel htape hcreate
  refine ⟨fresh, r, logged, left d clock opened main place r logged, hcreate, hrun r hr, leaves_openSession hlogs h,
    hstart.bind hanswers, ⟨[], fun _ => rfl⟩, fun a ha => shows_quit d settings clock _ logged ha _ _, fun hnever => ?_,
    fun honce => ?_⟩
  · have hfalse : logged = false := by
      cases hlogged : logged with
      | false => rfl
      | true => exact absurd ((hiff.mp hlogged).resolve_left (by simp)) hnever
    rw [hfalse]
    rfl
  · have htrue : logged = true := hiff.mpr (.inr honce)
    rw [htrue]
    exact ⟨rfl, RunLog.newline_not_mem_summaryLine _ _ _, RunLog.newline_not_mem_detailLine _ _ _,
      leaves_runInputs hlogs h hinput (hrun r hr)⟩

/-- The machine that adds one, run to its end, taken back, asked something else, and stepped on. -/
theorem logs_as_command_line_increment :
    ∃ (files : FileTree) (fresh : Executor) (r : Result Char) (logged : Bool) (after : FileTree),
      Definition.increment.run (.str "11") Settings.usual.limits = .ok r ∧ HaltsWithin fresh ["r", "p", "x", ""] ∧
      ((logging .increment .usual ⟨2024, 1, 1, 0, 0, 0, 0⟩).chooseTape "11" >>= fun mode => ["r", "p", "x", ""].foldlM
          (logging .increment .usual ⟨2024, 1, 1, 0, 0, 0, 0⟩).respond mode).Leaves files ⟨2024, 1, 1, 0, 0, 0, 0⟩
        (.ok (.stepping (behind fresh ["r", "p", "x", ""]) logged)) after ∧
      after = (files.addLine ["logs", "tm_2024-01-01.jsonl"]
          (RunLog.summaryLine (.str "binary_increment") ⟨2024, 1, 1, 0, 0, 0, 0⟩ r)).addLine
        ["logs", outcomeFile r.outcome ⟨2024, 1, 1, 0, 0, 0, 0⟩]
        (RunLog.detailLine (.str "binary_increment") ⟨2024, 1, 1, 0, 0, 0, 0⟩ r) ∧
      (Simulator.runInputs .increment [.str "11"] .usual).Leaves files ⟨2024, 1, 1, 0, 0, 0, 0⟩ (.ok ()) after := by
  have hinput : Definition.increment.readInput (.str "11") = .ok (.ofText "11") :=
    Definition.readInput_increment.mpr (by simp)
  have hlogs : Settings.usual.LogsIn ⟨2024, 1, 1, 0, 0, 0, 0⟩ ((⟨∅, []⟩ : FileTree).set ["logs"] .directory)
      ((⟨∅, []⟩ : FileTree).set ["logs"] .directory) ["logs", "tm_2024-01-01.jsonl"]
      fun outcome => ["logs", outcomeFile outcome ⟨2024, 1, 1, 0, 0, 0, 0⟩] :=
    Settings.logsIn_usual (by decide +kernel) (by decide +kernel) fun outcome => by cases outcome <;> decide +kernel
  have hstay : ∀ a ∈ ["r", "p", "x", ""], stepQuestion.read? a ≠ some "q" := by decide +kernel
  obtain ⟨fresh, r, logged, after, _, hr, _, hleaves, _, _, _, honce⟩ :=
    logs_as_command_line rfl hlogs (by decide) hinput hstay
  have hhalts : HaltsWithin fresh ["r", "p", "x", ""] := by
    have hcalls : calls "r" = [.run] := by decide +kernel
    exact ⟨["r"], ⟨["p", "x", ""], rfl⟩, by simp only [behind, List.flatMap_singleton, hcalls]; exact halted_run fresh⟩
  obtain ⟨hafter, _, _, hsame⟩ := honce hhalts
  exact ⟨_, fresh, r, logged, after, hr, hhalts, hleaves, hafter, hsame⟩

end TapeMachine.Session
