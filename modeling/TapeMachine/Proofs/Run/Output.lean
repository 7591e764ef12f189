import TapeMachine.Proofs.Machine.AddingOne
import TapeMachine.Proofs.Run.History
import TapeMachine.Proofs.Run.Windows
import TapeMachine.Run.Record
/-!
# The output is the whole content of the tape

The output of a run is its tape without the blanks at either end. These are the blanks of the window that has been
visited; but no cell outside it holds anything else, so the output is all that stands on the tape, however far the head
has wandered, and wherever on the tape it stands.

* `IsMiddle`, `isMiddle_dropBlanks` : what stands between the outer blanks, and that it is **exactly one** part of the
  cells;
* `Config.Content` : what stands on a tape without ends;
* `Config.Content.unique`, `Config.Content.shift` : it is unique, and moving the tape does not change it;
* `Definition.content_window`, `Definition.content_resultAt` : **what a run shows between the outer blanks is all that
  stands on the tape**, and so is its output;
* `Definition.output_eq_content` : **the output is the whole content of the tape.**
-/

namespace TapeMachine

/-! ## 1. Between the outer blanks -/

section Middle

variable {σ : Type} {blank : σ} {cells middle : List σ}

/-- **What stands between the outer blanks** of some cells: nothing, or a part that neither starts nor ends with one. -/
structure IsMiddle (blank : σ) (cells middle : List σ) : Prop where
  between : ∃ i j, cells = List.replicate i blank ++ middle ++ List.replicate j blank
  starts : ∀ c ∈ middle.head?, c ≠ blank
  ends : ∀ c ∈ middle.getLast?, c ≠ blank

/-- Whether a text shows what stands between the outer blanks, and there is one such part only. -/
def ShowsMiddle [Glyph σ] (blank : σ) (cells : List σ) (text : String) : Prop :=
  ∃ middle, IsMiddle blank cells middle ∧ (∀ other, IsMiddle blank cells other → other = middle) ∧
    text = joinCells middle

variable [BEq σ] [LawfulBEq σ]

/-- The blanks that are dropped at the front. -/
theorem exists_replicate_dropWhile (blank : σ) (cells : List σ) :
    ∃ n, cells = List.replicate n blank ++ cells.dropWhile (· == blank) := by
  refine ⟨(cells.takeWhile (· == blank)).length, ?_⟩
  have hblanks : cells.takeWhile (· == blank) = List.replicate (cells.takeWhile (· == blank)).length blank :=
    List.eq_replicate_iff.mpr ⟨rfl, fun c hc => by simpa using List.all_eq_true.mp List.all_takeWhile c hc⟩
  rw [← hblanks, List.takeWhile_append_dropWhile]

/-- What is left when blanks were dropped at the front starts with no blank. -/
theorem head?_dropWhile_ne {c : σ} (h : c ∈ (cells.dropWhile (· == blank)).head?) : c ≠ blank := by
  have hfirst := List.head?_dropWhile_not (· == blank) cells
  rw [Option.mem_def.mp h] at hfirst
  simpa using hfirst

/-- **Dropping the outer blanks leaves what stands between them.** -/
theorem isMiddle_dropBlanks (blank : σ) (cells : List σ) : IsMiddle blank cells (dropBlanks blank cells) := by
  obtain ⟨i, hfront⟩ := exists_replicate_dropWhile blank cells
  obtain ⟨j, hback⟩ := exists_replicate_dropWhile blank (cells.dropWhile (· == blank)).reverse
  have hsplit : cells.dropWhile (· == blank) = dropBlanks blank cells ++ List.replicate j blank := by
    rw [dropBlanks, ← List.reverse_replicate, ← List.reverse_append, ← hback, List.reverse_reverse]
  refine ⟨⟨i, j, by rw [List.append_assoc, ← hsplit, ← hfront]⟩, fun c hc => ?_, fun c hc => ?_⟩
  · have hfirst : c ∈ (cells.dropWhile (· == blank)).head? := by
      rw [hsplit, List.head?_append, Option.mem_def.mp hc]
      rfl
    exact head?_dropWhile_ne hfirst
  · rw [dropBlanks, List.getLast?_reverse] at hc
    exact head?_dropWhile_ne hc

/-- **There is one such part only.** -/
theorem IsMiddle.eq (h : IsMiddle blank cells middle) : middle = dropBlanks blank cells := by
  obtain ⟨i, j, rfl⟩ := h.between
  exact (dropBlanks_append h.starts h.ends).symm

theorem showsMiddle_dropBlanks [Glyph σ] (blank : σ) (cells : List σ) :
    ShowsMiddle blank cells (joinCells (dropBlanks blank cells)) :=
  ⟨_, isMiddle_dropBlanks blank cells, fun _ h => h.eq, rfl⟩

end Middle

/-- A record of texts shows what stands between the outer blanks. -/
theorem ResultRecord.showsMiddle {r : ResultRecord} {blank : String} {cells : List String} (hblank : r.blank = .str blank)
    (hcells : r.tape = cells.map .str) : ∃ text, r.output = .ok text ∧ ShowsMiddle blank cells text := by
  refine ⟨_, ?_, showsMiddle_dropBlanks blank cells⟩
  have hdrop := dropBlanks_map (fun s => Json.AnySymbol.mk (.str s)) blank cells fun s => by
    rw [Json.beq_mk, Json.equals_str]
    rfl
  have htape : r.tape.map Json.AnySymbol.mk = cells.map fun s => Json.AnySymbol.mk (.str s) := by
    rw [hcells, List.map_map]
    rfl
  rw [output, htape, hblank, hdrop, List.map_map]
  exact joinTexts_map_glyph _

/-! ## 2. What stands on a tape -/

namespace Config

variable {blank : Char} {tape tape' : Int → Char} {cells cells' : List Char} {origin : Int}

/-- **What stands on a tape without ends**: nothing when all of it is blank, else the cells from the leftmost to the
rightmost one that is not. -/
inductive Content (blank : Char) (tape : Int → Char) : List Char → Prop where
  | nothing (hblank : ∀ p, tape p = blank) : Content blank tape []
  | between (left right : Int) (hle : left ≤ right) (hleft : tape left ≠ blank) (hright : tape right ≠ blank)
      (houter : ∀ p, p < left ∨ right < p → tape p = blank) :
      Content blank tape ((List.range (right + 1 - left).toNat).map fun (n : Nat) => tape (left + n))

/-- **Only one thing stands on a tape.** -/
theorem Content.unique (h : Content blank tape cells) (h' : Content blank tape cells') : cells = cells' := by
  cases h with
  | nothing hblank =>
      cases h' with
      | nothing => rfl
      | between left' _ _ hleft' => exact absurd (hblank left') hleft'
  | between left right _ hleft hright houter =>
      cases h' with
      | nothing hblank => exact absurd (hblank left) hleft
      | between left' right' _ hleft' hright' houter' =>
          -- an end of the one is blank if it is outside the other, so both have the same ends
          have hin : left' ≤ left ∧ right ≤ right' := by
            constructor
            · by_contra hlt
              exact hleft (houter' left (.inl (by omega)))
            · by_contra hlt
              exact hright (houter' right (.inr (by omega)))
          have hin' : left ≤ left' ∧ right' ≤ right := by
            constructor
            · by_contra hlt
              exact hleft' (houter left' (.inl (by omega)))
            · by_contra hlt
              exact hright' (houter right' (.inr (by omega)))
          obtain rfl : left = left' := by omega
          obtain rfl : right = right' := by omega
          rfl

/-- **Moving a tape does not change what stands on it.** -/
theorem Content.shift {offset : Int} (h : Content blank tape cells) (hshift : ∀ p, tape' p = tape (p + offset)) :
    Content blank tape' cells := by
  cases h with
  | nothing hblank => exact .nothing fun p => (hshift p).trans (hblank _)
  | between left right hle hleft hright houter =>
      have hmoved (p : Int) : tape' (p - offset) = tape p := by rw [hshift, Int.sub_add_cancel]
      have hcells : ((List.range (right + 1 - left).toNat).map fun (n : Nat) => tape (left + n)) =
          (List.range (right - offset + 1 - (left - offset)).toNat).map fun (n : Nat) => tape' (left - offset + n) := by
        have hlength : right - offset + 1 - (left - offset) = right + 1 - left := by omega
        rw [hlength]
        refine List.map_congr_left fun n _ => ?_
        rw [← hmoved, Int.sub_eq_add_neg, Int.add_right_comm, ← Int.sub_eq_add_neg]
      rw [hcells]
      refine .between _ _ (by omega) ?_ ?_ fun p hp => ?_
      · rwa [hmoved]
      · rwa [hmoved]
      · rw [hshift]
        exact houter _ (by omega)

/-- Cells and positions are moved alike. -/
theorem laid_add_offset (offset p : Int) :
    laid blank (origin + offset) cells (p + offset) = laid blank origin cells p := by
  have hindex : p + offset - (origin + offset) = p - origin := by omega
  simp only [laid, hindex, Int.add_le_add_iff_right]

/-- On a tape with some cells that neither start nor end with a blank stand these cells. -/
theorem content_laid (hstart : ∀ c ∈ cells.head?, c ≠ blank) (hend : ∀ c ∈ cells.getLast?, c ≠ blank) :
    Content blank (laid blank origin cells) cells := by
  cases hcells : cells with
  | nil =>
      refine .nothing fun p => ?_
      unfold laid
      split <;> rfl
  | cons c rest =>
      rw [← hcells]
      have hlength : 0 < cells.length := by
        rw [hcells]
        exact Nat.zero_lt_succ _
      have hcontent : Content blank (laid blank origin cells)
          ((List.range (origin + cells.length - 1 + 1 - origin).toNat).map
            fun (n : Nat) => laid blank origin cells (origin + n)) := by
        refine .between origin (origin + cells.length - 1) (by omega) ?_ ?_ fun p hp => ?_
        · have hfirst : laid blank origin cells (origin + (0 : Nat)) = _ := laid_add 0
          rw [Int.natCast_zero, Int.add_zero] at hfirst
          rw [hfirst, hcells]
          exact hstart c (by rw [hcells]; rfl)
        · have hposition : origin + cells.length - 1 = origin + ((cells.length - 1 : Nat) : Int) := by omega
          rw [hposition, laid_add, ← List.getLast?_eq_getElem?]
          have hlast := List.getLast?_eq_some_getLast (List.ne_nil_of_length_pos hlength)
          rw [hlast]
          exact hend _ hlast
        · unfold laid
          split
          · rw [List.getElem?_eq_none (by omega), Option.getD_none]
          · rfl
      have hsize : (origin + cells.length - 1 + 1 - origin).toNat = cells.length := by omega
      rwa [hsize, map_range_laid] at hcontent

/-- On a tape with some cells stands what is between their outer blanks. -/
theorem content_dropBlanks (blank : Char) (origin : Int) (cells : List Char) :
    Content blank (laid blank origin cells) (dropBlanks blank cells) := by
  have hmiddle := isMiddle_dropBlanks blank cells
  obtain ⟨i, j, hcells⟩ := hmiddle.between
  have hlaid : laid blank origin cells = laid blank (origin + i) (dropBlanks blank cells) := by
    have horigin : origin = origin + i - i := by omega
    conv => lhs; rw [hcells, laid_append_replicate, horigin, laid_replicate_append]
  rw [hlaid]
  exact content_laid hmiddle.starts hmiddle.ends

end Config

/-! ## 3. The tape of a run -/

namespace Definition

open Config Executor

variable {d d' : Definition} {symbols symbols' : List Char} {input : Input} {limits : Limits} {k n n' : Nat}

/-- **What is shown between the outer blanks is all that stands on the tape.** -/
theorem content_window : Content d.blank (d.course symbols n).tape (dropBlanks d.blank (d.window symbols n)) := by
  rw [← tape_shown]
  exact content_dropBlanks _ _ _

/-- **The output of a run is what stands on the tape where it stops.** -/
theorem content_resultAt (d : Definition) (input : Input) (limits : Limits) (k : Nat) :
    Content d.blank (d.course input.symbols k).tape (d.resultAt limits input k).output.toList := by
  show Content _ _ (joinCells _).toList
  rw [toList_joinCells]
  exact content_window

/-- Tapes of two runs that differ by a shift have the same blank: far to the right both are blank. -/
theorem blank_eq_of_shift {offset : Int}
    (h : ∀ p, (d'.course symbols' n').tape p = (d.course symbols n).tape (p + offset)) : d'.blank = d.blank := by
  have hfar := h (max (d'.rightmost symbols' n') (d.rightmost symbols n - offset) + 1)
  rwa [tape_eq_blank (.inr (by omega)), tape_eq_blank (.inr (by omega))] at hfar

/-- An executor that is halted behind some calls stands where the run ends, on the tape of the course. -/
theorem result_of_halted {fresh e : Executor} {calls : List Call} (hfresh : fresh = start d input limits)
    (hk : IsLeast {n | d.Stops input.symbols limits n} k) (he : fresh.callAll calls = e) (hhalted : e.halted = true) :
    e.result = .ok (d.resultAt limits input k) ∧ e.tape.get = (d.course input.symbols k).tape := by
  have hreset : fresh.reset = fresh := by rw [hfresh]; rfl
  have hrun : e = fresh.run := by
    rw [← run_of_halted hhalted, ← he]
    exact ((fromStart_self hreset).callAll hreset calls).run_eq
  obtain ⟨last, hshows, hend⟩ := run_start hk
  rw [hrun, hfresh, hend]
  exact ⟨hshows.result_ended, funext hshows.get⟩

/-- **The output is the whole content of the tape.** Of all results it is what stands between the outer blanks of the
cells, of which there is one part only. A run has a result, and its output is what stands on the whole tape of the
machine, which is the tape of every executor that has come to its end; another run that ends on the same tape at another
place has the same output. -/
theorem output_eq_content {given : Json} (h : d.readInput given = .ok input) (limits : Limits) :
    (∀ (σ : Type) [BEq σ] [LawfulBEq σ] [Glyph σ] (r : Result σ), ShowsMiddle r.blank r.tape r.output) ∧
    (∀ (r : ResultRecord) (blank : String) (cells : List String), r.blank = .str blank → r.tape = cells.map .str →
      ∃ text, r.output = .ok text ∧ ShowsMiddle blank cells text) ∧
    ∃ r, d.run given limits = .ok r ∧ Content d.blank (d.course input.symbols r.steps).tape r.output.toList ∧
      (∀ (calls : List Call) (e : Executor), (start d input limits).callAll calls = e → e.halted = true →
        e.result = .ok r ∧ e.tape.get = (d.course input.symbols r.steps).tape) ∧
      ∀ (d' : Definition) (given' : Json) (input' : Input) (limits' : Limits) (r' : Result Char) (offset : Int),
        d'.readInput given' = .ok input' → d'.run given' limits' = .ok r' →
        (∀ p, (d'.course input'.symbols r'.steps).tape p = (d.course input.symbols r.steps).tape (p + offset)) →
        r'.output = r.output := by
  obtain ⟨k, hk⟩ := d.exists_isLeast_stops input.symbols limits
  refine ⟨fun σ _ _ _ r => showsMiddle_dropBlanks _ _, fun r blank cells => ResultRecord.showsMiddle, _,
    run_eq_resultAt h hk, d.content_resultAt input limits k, fun calls e => result_of_halted rfl hk, ?_⟩
  intro d' given' input' limits' r' offset h' hr' hshift
  obtain ⟨k', hk'⟩ := d'.exists_isLeast_stops input'.symbols limits'
  rw [run_eq_resultAt h' hk'] at hr'
  cases hr'
  have hmoved := (d.content_resultAt input limits k).shift hshift
  rw [← blank_eq_of_shift hshift] at hmoved
  rw [← String.toList_inj]
  exact (d'.content_resultAt input' limits' k').unique hmoved

/-- The machine that adds one leaves the same number for a one with a zero in front of it and for one without, one
position further to the left; the output is the same. -/
theorem output_eq_content_increment : ∃ r r',
    increment.readInput (.str "01") = .ok (.ofText "01") ∧ increment.readInput (.str "1") = .ok (.ofText "1") ∧
    increment.run (.str "01") {} = .ok r ∧ increment.run (.str "1") {} = .ok r' ∧
    Content 'B' (increment.course ['0', '1'] r.steps).tape r.output.toList ∧
    (∀ p, (increment.course ['1'] r'.steps).tape p = (increment.course ['0', '1'] r.steps).tape (p + 1)) ∧
    r'.output = r.output := by
  have hinput : increment.readInput (.str "01") = .ok (.ofText "01") := readInput_increment.mpr (by simp)
  have hinput' : increment.readInput (.str "1") = .ok (.ofText "1") := readInput_increment.mpr (by simp)
  have hcourse : increment.Leads _ _ 5 (.start increment (Input.ofText "01").symbols) _ :=
    @leads_increment_of_zero [] 1 (by simp [IsBit])
  have hcourse' : increment.Leads _ _ 4 (.start increment (Input.ofText "1").symbols) _ :=
    leads_increment_of_ones_done 1
  have hstop : IsLeast {n | increment.Stops (Input.ofText "01").symbols {} n} 5 :=
    hcourse.isLeast_stops (rule?_done _ rfl) (by omega) nofun
  have hstop' : IsLeast {n | increment.Stops (Input.ofText "1").symbols {} n} 4 :=
    hcourse'.isLeast_stops (rule?_done _ rfl) (by omega) nofun
  have hrun' := run_eq_resultAt hinput' hstop'
  have hshift (p : Int) : (increment.course ['1'] 4).tape p = (increment.course ['0', '1'] 5).tape (p + 1) := by
    have hmoved : laid 'B' (-1 + 1) ['1', '0', 'B'] (p + 1) = laid 'B' (-1) ['1', '0', 'B'] p := laid_add_offset 1 p
    have htape : (increment.course ['0', '1'] 5).tape = laid 'B' 0 ['1', '0', 'B'] :=
      congrArg Config.tape hcourse.course_eq
    have htape' : (increment.course ['1'] 4).tape = laid 'B' (-1) ['1', '0', 'B'] :=
      congrArg Config.tape hcourse'.course_eq
    rw [htape, htape']
    exact hmoved.symm
  obtain ⟨_, _, r, hr, hcontent, _, hsame⟩ := output_eq_content hinput {}
  obtain rfl := Except.ok.inj (hr.symm.trans (run_eq_resultAt hinput hstop))
  exact ⟨_, _, hinput, hinput', hr, hrun', hcontent, hshift, hsame increment _ _ _ _ 1 hinput' hrun' hshift⟩

end Definition

end TapeMachine
