import Mathlib.Data.List.Chain
import TapeMachine.Pool.Files
import TapeMachine.Proofs.Machine.Loading
/-!
# Pools as they are written

A pool is written line by line, each line with an end of its own choice. Read again it gives the lines back, whatever
characters stand in them: only a carriage return that a line feed happens to follow is read otherwise than it was
written.

* `Text.EndedLine`, `Text.EndedLine.Apart` : lines with their ends, and lines that do not melt into each other;
* `Text.unifyNewlines_line` : **the end of a line is read as one line feed**;
* `Text.linesOf_written` : the lines of a text are those that were written;
* `Pool.readInputs_written` : **reading a pool gives the lines that were written**, also when the last one has no end.
-/

namespace TapeMachine

namespace Text

/-! ## 1. Written lines -/

/-- The ends that a line may have. -/
inductive LineEnd where
  | lineFeed
  | both
  | carriageReturn
  deriving DecidableEq, Repr

/-- How the end of a line is written. -/
def LineEnd.chars : LineEnd → List Char
  | .lineFeed => ['\n']
  | .both => ['\r', '\n']
  | .carriageReturn => ['\r']

/-- Whether no line can end inside a text. -/
def Unbroken (cs : List Char) : Prop :=
  '\r' ∉ cs ∧ '\n' ∉ cs

instance : DecidablePred Unbroken := fun cs => inferInstanceAs (Decidable ('\r' ∉ cs ∧ '\n' ∉ cs))

/-- A line with its end. -/
structure EndedLine where
  line : String
  ending : LineEnd
  deriving DecidableEq, Repr

namespace EndedLine

/-- How a line is written. -/
def chars (l : EndedLine) : List Char :=
  l.line.toList ++ l.ending.chars

/-- **Whether two lines stay apart**: a carriage return and the line feed of an empty line behind it would be one end. -/
def Apart (l next : EndedLine) : Prop :=
  ¬ (l.ending = .carriageReturn ∧ next.line = "" ∧ next.ending = .lineFeed)

instance (l next : EndedLine) : Decidable (l.Apart next) :=
  inferInstanceAs (Decidable (¬ (l.ending = .carriageReturn ∧ next.line = "" ∧ next.ending = .lineFeed)))

end EndedLine

/-- Lines with their ends, one behind the other. -/
def written (lines : List EndedLine) : List Char :=
  lines.flatMap EndedLine.chars

/-! ## 2. Reading them again -/

section Reading

variable {cs rest last : List Char} {l : EndedLine} {lines : List EndedLine}

theorem written_cons : written (l :: lines) = l.chars ++ written lines := rfl

/-- What holds no carriage return stays as it is in front of any text. -/
theorem unifyNewlines_append (h : '\r' ∉ cs) : unifyNewlines (cs ++ rest) = cs ++ unifyNewlines rest := by
  induction cs with
  | nil => rfl
  | cons c cs ih =>
      simp only [List.mem_cons, not_or] at h
      have hc : c ≠ '\r' := Ne.symm h.1
      rw [List.cons_append, unifyNewlines, if_neg hc, ih h.2, List.cons_append]
      intro _ hreturn
      exact absurd hreturn hc

/-- **The end of a line is read as one line feed**, unless it is a carriage return with a line feed behind it. -/
theorem unifyNewlines_ending {ending : LineEnd} (h : ending = .carriageReturn → rest.head? ≠ some '\n') :
    unifyNewlines (ending.chars ++ rest) = '\n' :: unifyNewlines rest := by
  cases ending with
  | lineFeed =>
      have hnone : '\r' ∉ ['\n'] := by decide
      exact unifyNewlines_append hnone
  | both => rfl
  | carriageReturn =>
      -- only here it matters what comes next
      show unifyNewlines ('\r' :: rest) = _
      rw [unifyNewlines, if_pos rfl]
      rintro rest' - rfl
      exact h rfl rfl

/-- **A line is read with its end as one line feed.** -/
theorem unifyNewlines_line (hline : Unbroken l.line.toList)
    (h : l.ending = .carriageReturn → rest.head? ≠ some '\n') :
    unifyNewlines (l.chars ++ rest) = l.line.toList ++ '\n' :: unifyNewlines rest := by
  rw [EndedLine.chars, List.append_assoc, unifyNewlines_append hline.1, unifyNewlines_ending h]

/-- A line starts with a line feed only if it is empty and ended by one. -/
theorem head?_chars (hline : Unbroken l.line.toList) (h : (l.chars ++ rest).head? = some '\n') :
    l.line = "" ∧ l.ending = .lineFeed := by
  cases hchars : l.line.toList with
  | nil =>
      refine ⟨String.toList_eq_nil_iff.mp hchars, ?_⟩
      cases hending : l.ending with
      | lineFeed => rfl
      | both | carriageReturn =>
          rw [EndedLine.chars, hchars, hending] at h
          cases h
  | cons c cs =>
      rw [EndedLine.chars, hchars] at h
      obtain rfl : c = '\n' := Option.some.inj h
      exact absurd (by rw [hchars]; exact List.mem_cons_self) hline.2

/-- Behind a line that stays apart from the next one no line feed follows its carriage return. -/
theorem head?_written (hlast : Unbroken last) (hlines : ∀ l ∈ lines, Unbroken l.line.toList)
    (h : (l :: lines).IsChain EndedLine.Apart) (hreturn : l.ending = .carriageReturn) :
    (written lines ++ last).head? ≠ some '\n' := by
  intro hhead
  cases lines with
  | nil =>
      obtain ⟨cs, rfl⟩ := List.head?_eq_some_iff.mp hhead
      exact hlast.2 List.mem_cons_self
  | cons next lines =>
      rw [written_cons, List.append_assoc] at hhead
      obtain ⟨hempty, hfeed⟩ := head?_chars (hlines next List.mem_cons_self) hhead
      exact (List.isChain_cons_cons.mp h).1 ⟨hreturn, hempty, hfeed⟩

/-- A text in which no line ends is one line, or none if it is empty. -/
theorem linesOf_unbroken (h : Unbroken cs) : linesOf cs = if cs = [] then [] else [cs] := by
  rw [linesOf, pieces_of_not_mem h.2]
  by_cases hempty : cs = []
  · simp [hempty]
  · simp [hempty]

/-- **The lines of a text are those that were written**, and what stands behind the last end is one more line, if
anything does. -/
theorem linesOf_written (hlines : ∀ l ∈ lines, Unbroken l.line.toList) (hlast : Unbroken last)
    (h : lines.IsChain EndedLine.Apart) : linesOf (unifyNewlines (written lines ++ last)) =
      lines.map (·.line.toList) ++ if last = [] then [] else [last] := by
  induction lines with
  | nil =>
      show linesOf (unifyNewlines last) = _
      rw [unifyNewlines_of_not_mem hlast.1, linesOf_unbroken hlast]
      rfl
  | cons l lines ih =>
      have hline : Unbroken l.line.toList := hlines l List.mem_cons_self
      have hrest : ∀ l ∈ lines, Unbroken l.line.toList := fun l hl => hlines l (List.mem_cons_of_mem _ hl)
      have hfollows := head?_written hlast hrest h
      rw [written_cons, List.append_assoc, unifyNewlines_line hline hfollows, linesOf_append hline.2]
      exact congrArg (l.line.toList :: ·) (ih hrest h.tail)

end Reading

end Text

/-! ## 3. Pools -/

namespace Pool

open Text Job

/-- Whether the inputs of a pool with some text are read as some texts, wherever it is. -/
def ReadAs (text : String) (inputs : List String) : Prop :=
  ∀ (files : FileTree) (clock : Timestamp) (path : String) (place : List String), files.Opens path place →
    files.node? place = some (.file text) → (readInputs (.str path)).Ends files clock (.ok inputs) files []

/-- A pool is read line by line once its line ends are unified. -/
theorem readAs_linesOf {text : String} {lines : List (List Char)}
    (h : linesOf (unifyNewlines text.toList) = lines) : ReadAs text (lines.map String.ofList) := by
  intro files clock path place hopens hfile
  have hpath : (pathOrNumber (.str path)).Ends files clock (.ok path) files [] := ends_ofExcept (.ok path)
  unfold readInputs
  refine hpath.andThen ((ends_readText (hopens.readText_of_file hfile)).andThen ?_)
  rw [inputsOf, String.toList_ofList, h]
  exact ends_pure

/-- **Reading a pool gives the lines that were written.** The lines may hold any characters but carriage returns and
line feeds, and have any of the three ends, as long as no carriage return stands in front of an empty line with a line
feed. The last line may lack its end if it is not empty. -/
theorem readInputs_written {lines : List EndedLine} (hlines : ∀ l ∈ lines, Unbroken l.line.toList)
    (hapart : lines.IsChain EndedLine.Apart) :
    ReadAs (String.ofList (written lines)) (lines.map (·.line)) ∧
      ∀ front l, lines = front ++ [l] → l.line ≠ "" →
        ReadAs (String.ofList (written front ++ l.line.toList)) (lines.map (·.line)) := by
  have htexts (front : List EndedLine) : (front.map (·.line.toList)).map String.ofList = front.map (·.line) := by
    rw [List.map_map]
    exact List.map_congr_left fun l _ => String.ofList_toList
  constructor
  · have hnone : Unbroken [] := by decide
    have hread := linesOf_written hlines hnone hapart
    rw [if_pos rfl, List.append_nil, List.append_nil] at hread
    rw [← htexts]
    exact readAs_linesOf (by rw [String.toList_ofList, hread])
  · rintro front l rfl hnonempty
    have hl : Unbroken l.line.toList := hlines l (by simp)
    have hread := linesOf_written (fun l hl => hlines l (List.mem_append_left _ hl)) hl hapart.left_of_append
    rw [if_neg fun hempty => hnonempty (String.toList_eq_nil_iff.mp hempty)] at hread
    rw [← htexts, List.map_append]
    exact readAs_linesOf (by rw [String.toList_ofList, hread]; rfl)

/-- Lines with all three ends: one with a separator of another kind at its end, one of blanks, an empty one, and one with
such separators in it. -/
def mixedLines : List EndedLine :=
  [⟨"0 \x0c", .carriageReturn⟩, ⟨"  ", .both⟩, ⟨"", .lineFeed⟩, ⟨"1\u20280\x85", .lineFeed⟩]

/-- The lines are read again, with the end of the last one and without it. -/
theorem readInputs_written_mixedLines :
    (∀ l ∈ mixedLines, Unbroken l.line.toList) ∧ mixedLines.IsChain EndedLine.Apart ∧
      ReadAs (String.ofList (written mixedLines)) ["0 \x0c", "  ", "", "1\u20280\x85"] ∧
      ReadAs (String.ofList (written mixedLines.dropLast ++ "1\u20280\x85".toList))
        ["0 \x0c", "  ", "", "1\u20280\x85"] := by
  have hlines : ∀ l ∈ mixedLines, Unbroken l.line.toList := by decide +kernel
  have hapart : mixedLines.IsChain EndedLine.Apart := by decide +kernel
  obtain ⟨hended, hopen⟩ := readInputs_written hlines hapart
  exact ⟨hlines, hapart, hended, hopen mixedLines.dropLast ⟨"1\u20280\x85", .lineFeed⟩ rfl (by decide)⟩

end Pool

end TapeMachine
