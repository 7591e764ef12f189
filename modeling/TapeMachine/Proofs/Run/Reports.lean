import TapeMachine.Proofs.Markup.Escaping
import TapeMachine.Proofs.Run.Batch
import TapeMachine.Proofs.Run.Invariant
import TapeMachine.Proofs.Workspace.Files
import TapeMachine.Proofs.Workspace.Jobs
/-!
# Reports are always shown

A report holds names of states and symbols that may look like markup. They are escaped, and what stands behind them
lets no bracket be closed, so that every report is shown whatever machine and input it is about.

* `Fits`, `fits_escape`, `fits_styled_append` : texts that are rendered wherever an escaped one is;
* `Job.shows_chart` : **every table is shown**;
* `Definition.shows_report`, `Executor.shows_report`, `Result.shows_report` : **the reports of machines and runs**;
* `Quiet.seenText_eq` : a text of ordinary characters is seen as it is;
* `Summary.ends_report` : **what is seen of the counts.**
-/

namespace TapeMachine

open Markup Job

variable {style : String} {names : List String} {after : List Char} {text more : String}

/-! ## 1. Styled text -/

/-- The styles of the reports. -/
def styleNames : List String :=
  ["bold", "cyan", "green", "red", "yellow", "bold cyan", "bold green"]

/-- The styles of the reports can be set, each under its own name. -/
theorem isStyle_of_mem (h : style ∈ styleNames) : IsStyle style style := by
  have hnormal : ∀ style ∈ styleNames, (Style.normalName style).toOption = some style := by decide +kernel
  have hinner : ∀ style ∈ styleNames, IsInner style.toList ∧ tagName style.toList = style.toList ∧
      style.toList.head? ≠ some '/' ∧ style.toList.head? ≠ some '@' := by decide +kernel
  have htrim : ∀ style ∈ styleNames, Text.trim style = style := by decide +kernel
  obtain ⟨hinner, hname, hslash, hhandler⟩ := hinner style h
  exact ⟨hinner, hname, hslash, htrim style h, toOption_eq_some.mp (hnormal style h), hhandler⟩

theorem toList_styled (style text : String) :
    (styled style text).toList = openTag style ++ (text.toList ++ closeTag style) := by
  simp [styled, openTag, closeTag, tagText]

/-- Whether a text is rendered in front of all that can follow an escaped one. -/
def Fits (text : String) : Prop :=
  ∀ names after, Follows names after → Renders names (text.toList ++ after)

/-- Whether a text is ordinary text that starts no tag. -/
abbrev Plain (text : String) : Prop :=
  Consists IsPlain text.toList

theorem Plain.append (h : Plain text) (h' : Plain more) : Plain (text ++ more) := by
  rw [Plain, String.toList_append]
  exact Consists.append h h'

theorem Plain.fits (h : Plain text) : Fits text :=
  fun _ _ hafter => .plain h (hafter.renders 0)

theorem Plain.fits_append (h : Plain text) (hmore : Fits more) : Fits (text ++ more) := fun _ _ hafter => by
  rw [String.toList_append, List.append_assoc]
  exact .plain h (hmore _ _ hafter)

theorem fits_escape (s : String) : Fits (escape s) :=
  fun _ _ => renders_escape s

theorem fits_escape_append (s : String)
    (hmore : ∀ names after, Follows names after → Follows names (more.toList ++ after)) : Fits (escape s ++ more) :=
  fun _ _ hafter => by
    rw [String.toList_append, List.append_assoc]
    exact renders_escape s (hmore _ _ hafter)

/-- **A styled text is rendered** in front of all that is rendered itself. -/
theorem fits_styled_append (hstyle : style ∈ styleNames) (htext : Fits text) (hmore : Fits more) :
    Fits (styled style text ++ more) := fun _ _ hafter => by
  rw [String.toList_append, List.append_assoc, toList_styled, List.append_assoc, List.append_assoc]
  have hrest := hmore _ _ hafter
  exact renders_opening (isStyle_of_mem hstyle) (htext _ _ (follows_closing (isStyle_of_mem hstyle) hrest))

theorem fits_styled (hstyle : style ∈ styleNames) (htext : Fits text) : Fits (styled style text) := by
  have hempty : Fits "" := Plain.fits (by decide)
  have hfits := fits_styled_append hstyle htext hempty
  rwa [String.append_empty] at hfits

theorem Fits.exists_render (h : Fits text) : ∃ seen, render text = .ok seen := by
  have hrenders := h [] [] follows_nil
  rw [List.append_nil] at hrenders
  obtain ⟨seen, hseen⟩ := hrenders [] (List.nil_sublist _) 0 []
  exact ⟨String.ofList seen, by rw [render, pieces, hseen]; rfl⟩

theorem Fits.shows_print (h : Fits text) : (print text).Shows () := by
  obtain ⟨seen, hseen⟩ := h.exists_render
  exact Job.shows_print hseen

theorem ne_of_isDigit {c d : Char} (hc : c.isDigit = true) (hd : d.isDigit = false) : c ≠ d := by
  rintro rfl
  rw [hc] at hd
  cases hd

theorem isPlain_of_isDigit {c : Char} (h : c.isDigit = true) : IsPlain c :=
  ⟨ne_of_isDigit h rfl, ne_of_isDigit h rfl⟩

theorem plain_nat (n : Nat) : Plain (toString n) :=
  consists_repr (fun _ => isPlain_of_isDigit) n

theorem plain_int (n : Int) : Plain (toString n) :=
  consists_int (fun _ => isPlain_of_isDigit) (by decide) n

/-! ## 2. Charts -/

/-- **Every table is shown.** -/
theorem Job.shows_chart (table : Table) : (chart table).Shows () := by
  have hseen (text : String) : ∃ seen, seenText text = .ok seen := (fits_escape text).exists_render
  have hall (texts : List String) : ∃ seen, texts.mapM seenText = .ok seen := by
    obtain ⟨seen, hseen, _⟩ := exists_mapM_eq_ok fun text (_ : text ∈ texts) => hseen text
    exact ⟨seen, hseen⟩
  obtain ⟨title, htitle⟩ := hseen table.title
  obtain ⟨header, hheader⟩ := hall table.header
  obtain ⟨rows, hrows, _⟩ := exists_mapM_eq_ok fun row (_ : row ∈ table.rows) => hall row
  have htable : table.seen = .ok { title, header, rows } := by
    rw [Table.seen, htitle, hheader, hrows]
    rfl
  unfold chart
  refine (shows_ofExcept (a := { title, header, rows }) ?_).bind (shows_emit _)
  rw [htable]
  rfl

theorem Definition.shows_report (d : Definition) : d.report.Shows () :=
  (Job.shows_chart _).bind (Job.shows_chart _)

/-! ## 3. Runs -/

theorem Executor.shows_report (e : Executor) : e.report.Shows () := by
  have hstep : Plain s!"Step {e.latest.step}" := .append (by decide) (plain_nat _)
  have htape : Fits ("  head " ++ (toString e.latest.head ++ ("  tape " ++ escape e.latest.render))) :=
    Plain.fits_append (by decide) ((plain_int _).fits_append (Plain.fits_append (by decide) (fits_escape _)))
  unfold report
  simp only [String.append_assoc]
  exact (fits_styled_append (by decide) hstep.fits (Plain.fits_append (by decide)
    (fits_styled_append (by decide) (fits_escape _) htape))).shows_print

theorem consists_groupDigits {p : Char → Prop} (hcomma : p ',') {digits : List Char} (h : Consists p digits) :
    Consists p (Text.groupDigits digits) := by
  fun_induction Text.groupDigits digits with
  | case1 a b c d rest ih =>
      have hrest := ih fun e he => h e (by simp [he])
      exact .cons (h a (by simp)) (.cons (h b (by simp)) (.cons (h c (by simp)) (.cons hcomma hrest)))
  | case2 => exact h

theorem plain_thousands (n : Nat) : Plain (Text.thousands n) := by
  have hdigits : Consists IsPlain (Nat.toDigits 10 n).reverse :=
    (consists_toDigits (fun _ => isPlain_of_isDigit) n).of_subset fun c => List.mem_reverse.mp
  rw [Plain, Text.thousands, String.toList_ofList]
  exact (consists_groupDigits (by decide) hdigits).of_subset fun c => List.mem_reverse.mp

namespace Result

variable {r : Result Char}

theorem plain_label (h : r.label = .ok text) : Plain text := by
  unfold label at h
  cases houtcome : r.outcome with
  | accepted => rw [houtcome] at h; cases h; decide
  | rejected => rw [houtcome] at h; cases h; decide
  | halted =>
      rw [houtcome] at h
      cases hreason : r.reason with
      | none => rw [hreason] at h; cases h
      | some reason => rw [hreason] at h; cases h; cases reason <;> decide

theorem style_mem (outcome : Outcome) : outcome.style ∈ styleNames := by
  cases outcome <;> decide

theorem styledLabel_eq (h : r.label = .ok text) : r.styledLabel = .ok (styled r.outcome.style text) := by
  rw [styledLabel, h]
  rfl

theorem shows_reportLabel (h : r.label = .ok text) : r.reportLabel.Shows () := by
  unfold reportLabel
  refine (shows_ofExcept (by rw [styledLabel_eq h]; rfl)).bind ?_
  exact (fits_styled (style_mem _) (plain_label h).fits).shows_print

/-- **The report of every result with a label is shown.** -/
theorem shows_report (h : r.label = .ok text) (withTrace : Bool) : (r.report withTrace).Shows () := by
  have hlabelled {label rest : String} (hlabel : Plain label) (hrest : Fits rest) :
      Fits (styled "bold" label ++ (" " ++ rest)) :=
    fits_styled_append (by decide) hlabel.fits (Plain.fits_append (by decide) hrest)
  have hstate : Fits (" after " ++ (Text.thousands r.steps ++ (" steps in state " ++ escape r.finalState))) :=
    Plain.fits_append (by decide) ((plain_thousands _).fits_append (Plain.fits_append (by decide) (fits_escape _)))
  have houtput : Fits ("   " ++ (styled "bold" "Output:" ++ (" " ++ escape (Text.quote r.output)))) :=
    Plain.fits_append (by decide) (hlabelled (by decide) (fits_escape _))
  unfold report
  simp only [String.append_assoc]
  refine (Fits.shows_print ?_).bind ((shows_ofExcept (by rw [styledLabel_eq h]; rfl)).bind ?_)
  · exact Plain.fits_append (by decide) (hlabelled (by decide) (fits_escape _))
  refine (Fits.shows_print ?_).bind ((Fits.shows_print ?_).bind ?_)
  · exact hlabelled (by decide) (fits_styled_append (style_mem _) (plain_label h).fits hstate)
  · refine hlabelled (by decide) (fits_escape_append _ fun names after hafter => ?_)
    have hrenders := houtput names after hafter
    rw [String.toList_append, String.toList_append, toList_styled] at hrenders ⊢
    exact follows_plain (c := ' ') (by decide) rfl hrenders
  cases withTrace with
  | true => exact shows_chart _
  | false => exact shows_pure

end Result

/-- The result of an input on a machine has a label. -/
theorem Definition.exists_label {d : Definition} {given : Json} {limits : Limits} {r : Result Char}
    (h : d.run given limits = .ok r) : ∃ text, r.label = .ok text := by
  unfold Definition.run at h
  cases hcreate : Executor.create d given limits with
  | error _ => rw [hcreate] at h; cases h
  | ok fresh =>
      obtain ⟨input, hinput, rfl⟩ := Executor.exists_start_of_create hcreate
      obtain ⟨n, hn⟩ := Executor.exists_iterate_step_eq_run (.start d input limits)
      have hstart : (Executor.start d input limits).Intact d input limits :=
        Executor.intact_start (mem_of_readInput hinput)
      have hintact := hstart.iterate_step Executor.running_start n
      rw [← hn] at hintact
      rw [hcreate] at h
      exact hintact.exists_label (mapError_eq_ok_iff.mp h)

/-! ## 4. Counts -/

/-- What is seen of the counts. -/
def Summary.seen (s : Summary) : String :=
  s!"\nAccepted: {s.accepted}  Rejected: {s.rejected}  Halted: {s.halted}  of {s.total}"

theorem isShown_of_isDigit {c : Char} (h : c.isDigit = true) : IsShown c := by
  have hne (d : Char) (hd : d.isDigit = false) : c ≠ d := ne_of_isDigit h hd
  refine ⟨?_, hne _ rfl, hne _ rfl⟩
  simp [isControl, hne '\x07' rfl, hne '\x08' rfl, hne '\x0b' rfl, hne '\x0c' rfl, hne '\r' rfl]

/-- Whether a text starts no tag and is shown as it is. -/
abbrev Quiet (text : String) : Prop :=
  Consists (fun c => IsPlain c ∧ IsShown c) text.toList

theorem quiet_nat (n : Nat) : Quiet (toString n) :=
  consists_repr (fun _ h => ⟨isPlain_of_isDigit h, isShown_of_isDigit h⟩) n

theorem Quiet.append (h : Quiet text) (h' : Quiet more) : Quiet (text ++ more) := by
  rw [Quiet, String.toList_append]
  exact Consists.append h h'

/-- A styled word with a colon is seen as it is. -/
theorem Quiet.seenAs_styled {opened : List Opened} {seen : List Char} (htext : Quiet text) (word label : String)
    (hword : Quiet word) (hlabel : label = word ++ ":") (h : SeenAs opened after seen) :
    SeenAs opened (text.toList ++ ((styled "bold" label).toList ++ after)) (text.toList ++ (label.toList ++ seen)) := by
  have hshown {t : String} (ht : Quiet t) : Consists IsShown t.toList := ht.mono fun _ => And.right
  have hplain {t : String} (ht : Quiet t) : Consists IsPlain t.toList := ht.mono fun _ => And.left
  have hchars : label.toList = word.toList ++ [':'] := by rw [hlabel, String.toList_append]; rfl
  have hbold : IsStyle "bold" "bold" := isStyle_of_mem (by decide)
  have hcolon : Consists IsPlain label.toList := by
    rw [hchars]
    exact (hplain hword).append (by decide)
  have hseen := h.styled hbold (hplain htext) hcolon
  rw [shownPiece_eq (hshown htext), hchars, shownPiece_colon (hshown hword), ← hchars] at hseen
  rwa [toList_styled, List.append_assoc, List.append_assoc]

theorem SeenAs.render (h : SeenAs [] text.toList more.toList) : Markup.render text = .ok more := by
  rw [Markup.render, pieces, h 0]
  exact congrArg Except.ok String.ofList_toList

/-- A quiet text is seen as it is. -/
theorem Quiet.seenText_eq (h : Quiet text) : seenText text = .ok text := by
  have hplain : Consists IsPlain text.toList := h.mono fun _ => And.left
  have hseen : SeenAs [] text.toList (shownPiece text.toList) := seenAs_plain hplain
  rw [shownPiece_eq (h.mono fun _ => And.right)] at hseen
  rw [seenText, escape_of_plain hplain]
  exact SeenAs.render hseen

/-- **What is shown of the counts is the counts.** -/
theorem Summary.ends_report (s : Summary) {files : FileTree} {clock : Timestamp} :
    s.report.Ends files clock (.ok ()) files [.print s.seen] := by
  have hgap (n : Nat) : Quiet (" " ++ (toString n ++ "  ")) :=
    .append (by decide) ((quiet_nat n).append (by decide))
  have hlast : Quiet (" " ++ (toString s.halted ++ ("  of " ++ toString s.total))) :=
    .append (by decide) ((quiet_nat _).append (.append (by decide) (quiet_nat _)))
  have hend : SeenAs [] _ _ := seenAs_plain (hlast.mono fun _ => And.left)
  rw [shownPiece_eq (hlast.mono fun _ => And.right)] at hend
  have hhalted := (hgap s.rejected).seenAs_styled "Halted" "Halted:" (by decide) (by decide) hend
  have hrejected := (hgap s.accepted).seenAs_styled "Rejected" "Rejected:" (by decide) (by decide) hhalted
  have hline : Quiet "\n" := by decide
  have haccepted := hline.seenAs_styled "Accepted" "Accepted:" (by decide) (by decide) hrejected
  refine ends_print (SeenAs.render ?_)
  unfold seen
  simp only [String.append_assoc, String.toList_append, List.append_assoc] at haccepted ⊢
  exact haccepted

end TapeMachine
