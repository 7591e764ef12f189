import TapeMachine.Proofs.Run.Refinement
import TapeMachine.Proofs.Run.Windows
import TapeMachine.Proofs.Session.Logging
/-!
# Tapes that are entered

The question for a tape names the input symbols as they are, any characters at all, and is shown nevertheless. What is
answered is taken without the blanks around it, and one word is the wish to go back. Any other input of the machine that
has no blank at its ends starts the run that it starts as an input of the command line.

* `Session.fits_tapeQuestion`, `Session.shows_enter_tape` : **a tape can always be asked for**;
* `Session.read?_tapeQuestion` : what is taken of an answer;
* `Session.tape_entered` : **what runs is the tape that was answered**;
* `Session.tapes_not_entered` : the word that leads back and a tape that starts with a blank, on a machine that takes
  both.
-/

namespace TapeMachine

open Job Executor Markup

/-! ## 1. The question -/

/-- Any symbols are rendered in a list in braces: what follows each of them is a comma or the brace. -/
theorem renders_listed {names : List String} {after : List Char} (symbols : List Char)
    (h : Renders names ('\x7d' :: after)) :
    Renders names ([',', ' '].intercalate (symbols.map fun c => [c]) ++ '\x7d' :: after) := by
  -- a symbol may be a bracket or a backslash, so that the character behind it is looked at with it
  induction symbols with
  | nil => exact h
  | cons c rest ih =>
      cases rest with
      | nil => exact h.behind c (by decide) rfl
      | cons d rest =>
          have hlist : [',', ' '].intercalate ((c :: d :: rest).map fun c => [c]) =
              c :: ([',', ' '] ++ [',', ' '].intercalate ((d :: rest).map fun c => [c])) :=
            List.intercalate_cons_cons
          have hcomma : Consists IsPlain [',', ' '] := by decide
          rw [hlist, List.cons_append, List.append_assoc]
          exact (Renders.plain hcomma ih).behind c (by decide) rfl

namespace Session

variable (s : Session)

/-- **The question for a tape is rendered whatever the input symbols are**, brackets and backslashes included. -/
theorem fits_tapeQuestion : Fits s.tapeQuestion.text := fun names after hafter => by
  have hend : Consists IsPlain "\x7d (type :q to go back)".toList := by decide
  have htail : Renders names ('\x7d' :: (" (type :q to go back)".toList ++ after)) :=
    Renders.plain hend (hafter.renders 0)
  have hlisted := renders_listed s.definition.inputSymbols.toList htail
  have hsymbols : (", ".intercalate (s.definition.inputSymbols.toList.map glyph)).toList =
      [',', ' '].intercalate (s.definition.inputSymbols.toList.map fun c => [c]) :=
    toList_intercalate_map_glyph ", " _
  have htext : s.tapeQuestion.text.toList ++ after = "\nTape over \x7b".toList ++
      ([',', ' '].intercalate (s.definition.inputSymbols.toList.map fun c => [c]) ++
        '\x7d' :: (" (type :q to go back)".toList ++ after)) := by
    rw [← hsymbols]
    simp [tapeQuestion, Definition.braced]
  rw [htext]
  exact Renders.plain (by decide) hlisted

/-- **A tape can always be asked for.** -/
theorem shows_enter_tape : (s.enter .tape).Shows .tape :=
  shows_pure.bind ((shows_ask s.fits_tapeQuestion).bind shows_pure)

/-! ## 2. The answer -/

/-- All that is taken of an answer is the text between the blanks at its ends. -/
theorem read?_tapeQuestion (answer : String) : s.tapeQuestion.read? answer = some (Text.trim answer) := by
  unfold Question.read?
  split
  · rename_i hempty
    rw [hempty]
    rfl
  · rfl

theorem respond_tape (answer : String) : s.respond .tape answer = s.chooseTape (Text.trim answer) := by
  have hread := s.read?_tapeQuestion answer
  unfold respond question
  simp only [hread]
  rfl

/-- **A run that has just been started is shown**, and nothing is logged of it. -/
theorem shows_enter_running {e : Executor} (h : e.Running) : (s.enter (.stepping e false)).Shows (.stepping e false) := by
  have hrun : (s.showRun e false).Shows false := by
    unfold showRun
    rw [result_of_not_halted h.halted]
    exact e.shows_report.bind shows_pure
  have hannounce : (s.announce (.stepping e false)).Shows (.stepping e false) := hrun.bind shows_pure
  unfold enter
  exact hannounce.bind ((shows_ask (q := stepQuestion) (Plain.fits (by decide))).bind shows_pure)

section Answers

variable {s} {answer tape : String} {fresh : Executor}

/-- The wish to go back leads to the menu. -/
theorem shows_respond_back (hsaid : Text.trim answer = ":q") : (s.respond .tape answer).Shows .menu := by
  rw [respond_tape, hsaid]
  unfold chooseTape
  rw [if_pos rfl]
  exact s.shows_enter_menu

/-- Any other input of the machine leads to its run. -/
theorem shows_respond_tape (hsaid : Text.trim answer = tape) (htape : tape ≠ ":q")
    (hstart : Executor.create s.definition (.str tape) s.settings.limits = .ok fresh) :
    (s.respond .tape answer).Shows (.stepping fresh false) := by
  obtain ⟨hfresh, _⟩ := fresh_of_create hstart
  rw [respond_tape, hsaid]
  unfold chooseTape
  rw [if_neg htape, show s.start tape = .ok fresh from hstart]
  exact s.shows_enter_running (running_of_reset hfresh)

end Answers

/-! ## 3. What runs -/

section Entered

variable {s} {tape : String} {input : Input}

/-- **What runs is the tape that was answered.** Whatever the input symbols are, a tape is asked for. An input of the
machine that neither starts nor ends with a blank is taken as it was answered. Its run starts unless it is the wish to go
back, which leads to the menu even if it is an input, and the result is the one that the command line gives for the same
text. -/
theorem tape_entered (h : s.definition.readInput (.str tape) = .ok input)
    (hstart : ∀ c ∈ tape.toList.head?, Text.isBlank c = false)
    (hend : ∀ c ∈ tape.toList.getLast?, Text.isBlank c = false) :
    (s.enter .tape).Shows .tape ∧ s.tapeQuestion.read? tape = some tape ∧
    (tape ≠ ":q" → ∃ fresh r, Executor.create s.definition (.str tape) s.settings.limits = .ok fresh ∧
      (s.respond .tape tape).Shows (.stepping fresh false) ∧ fresh.run.result = .ok r ∧ r.input = .str tape ∧
      s.definition.runAll [.str tape] s.settings.batchOptions = .ok [r]) ∧
    (tape = ":q" → (s.respond .tape tape).Shows .menu) := by
  have hsaid : Text.trim tape = tape := Text.trim_eq_self_iff.mpr ⟨hstart, hend⟩
  refine ⟨s.shows_enter_tape, by rw [read?_tapeQuestion, hsaid], fun htape => ?_, fun htape => ?_⟩
  · obtain ⟨fresh, hcreate⟩ : ∃ fresh, Executor.create s.definition (.str tape) s.settings.limits = .ok fresh :=
      ⟨_, by rw [Executor.create, h]; rfl⟩
    obtain ⟨r, hr⟩ := exists_result_of_halted (halted_run fresh)
    have hrun := (fresh_of_create hcreate).2 r hr
    refine ⟨fresh, r, hcreate, shows_respond_tape hsaid htape hcreate, hr, ?_, Simulator.runAll_singleton h hrun⟩
    obtain ⟨k, hk⟩ := s.definition.exists_isLeast_stops input.symbols s.settings.limits
    rw [Definition.run_eq_resultAt h hk] at hrun
    rw [← Except.ok.inj hrun]
    exact Definition.given_of_readInput h
  · exact shows_respond_back (hsaid.trans htape)

end Entered

/-- A session on a machine whose input symbols are a space and the characters of the wish to go back. -/
def wishing : Session where
  definition :=
    { alphabet := .ofList [' ', ':', 'q', 'B']
      inputSymbols := .ofList [' ', ':', 'q']
      blank := 'B'
      states := .ofList ["start"]
      initial := "start"
      finals := .ofList ["start"]
      rules := { rules := [], nodup := by decide }
      name := .str "wishes"
      blank_mem := by decide
      input_subset := by simp
      blank_not_input := by decide
      initial_mem := by decide
      finals_subset := by simp
      rule_states := by simp
      rule_symbols := by simp }
  settings := .usual
  log := none

theorem readInput_wishing {text : String} (h : ∀ c ∈ text.toList, c = ' ' ∨ c = ':' ∨ c = 'q') :
    wishing.definition.readInput (.str text) = .ok (.ofText text) := by
  refine Definition.readInput_text.mpr ⟨rfl, fun c hc => ?_⟩
  show c ∈ Std.ExtTreeSet.ofList [' ', ':', 'q'] compare
  rw [Std.ExtTreeSet.mem_ofList]
  simpa using h c hc

/-- A tape with a blank within it runs as it was answered. -/
theorem tape_entered_wishing :
    wishing.definition.readInput (.str "q :") = .ok (.ofText "q :") ∧
    ∃ fresh r, (wishing.enter .tape).Shows .tape ∧ (wishing.respond .tape "q :").Shows (.stepping fresh false) ∧
      fresh.run.result = .ok r ∧ r.input = .str "q :" ∧
      wishing.definition.runAll [.str "q :"] wishing.settings.batchOptions = .ok [r] := by
  have hinput : wishing.definition.readInput (.str "q :") = .ok (.ofText "q :") := readInput_wishing (by simp)
  obtain ⟨hasks, _, hruns, _⟩ := tape_entered (s := wishing) hinput (by simp [Text.isBlank]) (by simp [Text.isBlank])
  obtain ⟨fresh, r, _, hshows, hr, hgiven, hall⟩ := hruns (by decide)
  exact ⟨hinput, fresh, r, hasks, hshows, hr, hgiven, hall⟩

/-- **Not every input can be entered.** The machine takes the wish to go back, and the session does not run it; it takes
a text that starts with a space, and the session runs the text without it. -/
theorem tapes_not_entered :
    (wishing.definition.readInput (.str ":q") = .ok (.ofText ":q") ∧ (wishing.respond .tape ":q").Shows .menu ∧
      ¬ ∃ fresh, (wishing.respond .tape ":q").Shows (.stepping fresh false)) ∧
    wishing.definition.readInput (.str " q") = .ok (.ofText " q") ∧ wishing.tapeQuestion.read? " q" = some "q" ∧
      ∃ fresh, (wishing.respond .tape " q").Shows (.stepping fresh false) ∧ fresh.input.given = .str "q" := by
  have hback : (wishing.respond .tape ":q").Shows .menu := shows_respond_back (by decide)
  refine ⟨⟨readInput_wishing (by simp), hback, fun ⟨fresh, hfresh⟩ => ?_⟩, readInput_wishing (by simp),
    wishing.read?_tapeQuestion " q", ?_⟩
  · have hmenu := hback ⟨∅, []⟩ ⟨2024, 1, 1, 0, 0, 0, 0⟩
    cases (hmenu.unique (hfresh ⟨∅, []⟩ ⟨2024, 1, 1, 0, 0, 0, 0⟩)).1
  · have hcreate : Executor.create wishing.definition (.str "q") wishing.settings.limits =
        .ok (Executor.start wishing.definition (.ofText "q") wishing.settings.limits) := by
      rw [Executor.create, readInput_wishing (by simp)]
      rfl
    exact ⟨_, shows_respond_tape (by decide) (by decide) hcreate, rfl⟩

end Session

end TapeMachine
