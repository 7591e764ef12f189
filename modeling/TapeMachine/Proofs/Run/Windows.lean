import TapeMachine.Proofs.Run.Course
/-!
# What a window shows

A moment of a run shows the cells that have been visited. The machine has written nowhere else, so that the whole tape
can be told from them, the symbol under the head in particular; and since each cell is one character, they can be told
from their characters side by side.

* `Config.laid` : a tape with some cells and blanks around them;
* `Definition.leftmost_le_head`, `Definition.head_le_rightmost` : the head has never been outside the window;
* `Definition.tape_eq_blank` : **the tape is blank outside the window**;
* `Snapshot.tape`, `Definition.tape_shown` : **the tape that a moment shows** is the one of the course;
* `toList_joinCells` : cells side by side are cells still.
-/

namespace TapeMachine

/-! ## 1. Written cells -/

namespace Config

variable {blank : Char} {origin : Int} {cells : List Char}

/-- A tape with some cells from a position on, and blanks around them. -/
def laid (blank : Char) (origin : Int) (cells : List Char) (i : Int) : Char :=
  if origin ≤ i then (cells[(i - origin).toNat]?).getD blank else blank

theorem laid_add (n : Nat) : laid blank origin cells (origin + n) = (cells[n]?).getD blank := by
  have hindex : (origin + n - origin).toNat = n := by omega
  rw [laid, if_pos (by omega), hindex]

/-- The cells of a tape one by one. -/
theorem map_range_laid : ((List.range cells.length).map fun (n : Nat) => laid blank origin cells (origin + n)) = cells := by
  refine List.ext_getElem (by simp) fun n _ hn => ?_
  rw [List.getElem_map, List.getElem_range, laid_add, List.getElem?_eq_getElem hn, Option.getD_some]

end Config

/-- The tape of which a moment shows a part: blanks stand outside it. -/
def Snapshot.tape (blank : Char) (s : Snapshot Char) : Int → Char :=
  Config.laid blank s.offset s.cells.get

theorem toList_joinCells (cells : List Char) : (joinCells cells).toList = cells := by
  have hglyph : (fun c : Char => (glyph c).toList) = fun c => [c] := funext String.toList_singleton
  rw [joinCells, String.toList_join, List.flatMap_map, hglyph, List.flatMap_singleton']

/-- Cells with a text between them. -/
theorem toList_intercalate_map_glyph (separator : String) (cells : List Char) :
    (separator.intercalate (cells.map glyph)).toList = separator.toList.intercalate (cells.map fun c => [c]) := by
  rw [String.toList_intercalate, List.map_map]
  exact congrArg _ (List.map_congr_left fun c _ => String.toList_singleton c)

/-! ## 2. The visited window -/

namespace Definition

variable {d : Definition} {symbols : List Char} {p : Int} {i n : Nat}

theorem leftmost_le_head (hi : i ≤ n) : d.leftmost symbols n ≤ (d.course symbols i).head := by
  induction n with
  | zero =>
      rw [Nat.le_zero.mp hi]
      exact Int.le_refl 0
  | succ n ih =>
      rw [leftmost_succ]
      rcases Nat.lt_or_eq_of_le hi with hlt | rfl
      · exact Int.le_trans (Int.min_le_left _ _) (ih (Nat.le_of_lt_succ hlt))
      · exact Int.min_le_right _ _

theorem head_le_rightmost (hi : i ≤ n) : (d.course symbols i).head ≤ d.rightmost symbols n := by
  induction n with
  | zero =>
      rw [Nat.le_zero.mp hi, rightmost_zero]
      exact Int.le_max_right _ _
  | succ n ih =>
      rw [rightmost_succ]
      rcases Nat.lt_or_eq_of_le hi with hlt | rfl
      · exact Int.le_trans (ih (Nat.le_of_lt_succ hlt)) (Int.le_max_left _ _)
      · exact Int.le_max_right _ _

theorem length_le_rightmost : (symbols.length : Int) ≤ d.rightmost symbols n + 1 := by
  induction n with
  | zero =>
      rw [rightmost_zero]
      omega
  | succ n ih =>
      rw [rightmost_succ]
      omega

/-- Nothing is seen further right than the input and the head have been. -/
theorem rightmost_le {right : Int} (hlength : (symbols.length : Int) ≤ right + 1)
    (hhead : ∀ i ≤ n, (d.course symbols i).head ≤ right) : d.rightmost symbols n ≤ right := by
  induction n with
  | zero =>
      have hzero : (0 : Int) ≤ right := hhead 0 (Nat.le_refl 0)
      rw [rightmost_zero]
      omega
  | succ n ih =>
      rw [rightmost_succ]
      exact Int.max_le.mpr ⟨ih fun i hi => hhead i (Nat.le_succ_of_le hi), hhead _ (Nat.le_refl _)⟩

/-- **The tape is blank outside the window**: the input stands in it, and so does all that has been written. -/
theorem tape_eq_blank (h : p < d.leftmost symbols n ∨ d.rightmost symbols n < p) :
    (d.course symbols n).tape p = d.blank := by
  induction n with
  | zero =>
      rw [leftmost_zero, rightmost_zero] at h
      show (if 0 ≤ p then (symbols[p.toNat]?).getD d.blank else d.blank) = d.blank
      split
      · rw [List.getElem?_eq_none (by omega), Option.getD_none]
      · rfl
  | succ n ih =>
      rw [leftmost_succ, rightmost_succ] at h
      have htape : (d.course symbols n).tape p = d.blank := ih (by omega)
      cases hrule : (d.course symbols n).rule? d with
      | none => rw [course_succ_of_stuck hrule, htape]
      | some rule =>
          -- the head writes inside the window, and the window only grows
          have hlow : d.leftmost symbols n ≤ (d.course symbols n).head := leftmost_le_head (Nat.le_refl n)
          have hhigh : (d.course symbols n).head ≤ d.rightmost symbols n := head_le_rightmost (Nat.le_refl n)
          rw [course_succ_of_rule hrule, Config.tape_apply, if_neg (by omega), htape]

/-- The window shows the tape, cell by cell. -/
theorem getElem?_window (hlow : d.leftmost symbols n ≤ p) (hhigh : p ≤ d.rightmost symbols n) :
    (d.window symbols n)[(p - d.leftmost symbols n).toNat]? = some ((d.course symbols n).tape p) := by
  have hindex : (p - d.leftmost symbols n).toNat < (d.rightmost symbols n + 1 - d.leftmost symbols n).toNat := by omega
  have hposition : d.leftmost symbols n + ((p - d.leftmost symbols n).toNat : Int) = p := by omega
  rw [window, List.getElem?_map, List.getElem?_range hindex, Option.map_some, hposition]

/-- **A moment shows the whole tape of the course.** -/
theorem tape_shown : (d.shown symbols n).tape d.blank = (d.course symbols n).tape := by
  funext p
  show Config.laid d.blank (d.leftmost symbols n) (d.window symbols n) p = _
  unfold Config.laid
  split
  · rename_i hlow
    by_cases hhigh : p ≤ d.rightmost symbols n
    · rw [getElem?_window hlow hhigh, Option.getD_some]
    · have hlength : (d.window symbols n).length = (d.rightmost symbols n + 1 - d.leftmost symbols n).toNat := by
        rw [window, List.length_map, List.length_range]
      rw [List.getElem?_eq_none (by omega), Option.getD_none, tape_eq_blank (.inr (Int.not_le.mp hhigh))]
  · rename_i hlow
    rw [tape_eq_blank (.inl (Int.not_le.mp hlow))]

end Definition

end TapeMachine
