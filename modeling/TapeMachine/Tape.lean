import Std.Data.ExtTreeMap
import TapeMachine.Machine.Direction
/-!
# Tapes

A tape is unbounded in both directions. Only the cells that are not blank are stored, and beside the head
the tape keeps the leftmost and the rightmost position it has visited: the window that is shown. A symbol
is blank when it counts as equal to the blank of the tape.

* `Tape.get` : the symbol at any position, the view through which every operation is understood;
* `Tape.ofInput`, `Tape.write`, `Tape.move`, `Tape.rewind` : the operations;
* `Tape.contents` : the symbols of the window;
* `Tape.get_write`, `Tape.get_ofInput` : **writing changes the cell under the head and no other one, and a
  fresh tape holds its input from position 0 on.**
* `Tape.ext_get` : **tapes that look the same at every position are the same.**
-/

namespace TapeMachine

/-- A tape with its head, the window it has visited, and its cells that are not blank. -/
structure Tape (σ : Type) [BEq σ] where
  blank : σ
  cells : Std.ExtTreeMap Int σ
  head : Int
  low : Int
  high : Int
  no_blank : ∀ (i : Int) (s : σ), cells[i]? = some s → (s == blank) = false

namespace Tape

variable {σ : Type} [BEq σ]

/-- A tape of blanks. -/
def ofBlank (blank : σ) : Tape σ :=
  { blank := blank, cells := ∅, head := 0, low := 0, high := 0, no_blank := by simp }

/-- The symbol at a position. -/
def get (tape : Tape σ) (position : Int) : σ :=
  tape.cells[position]?.getD tape.blank

/-- The symbol under the head. -/
def read (tape : Tape σ) : σ :=
  tape.get tape.head

/-- Moves the head and widens the window to it. -/
def move (tape : Tape σ) (direction : Direction) : Tape σ :=
  let head := tape.head + direction.offset
  { tape with head := head, low := min tape.low head, high := max tape.high head }

/-- The symbols of the window, from the leftmost visited position to the rightmost. -/
def contents (tape : Tape σ) : List σ :=
  (List.range (tape.high + 1 - tape.low).toNat).map fun (n : Nat) => tape.get (tape.low + n)

/-- The stored cells by position. -/
def stored (tape : Tape σ) : List (Int × σ) :=
  tape.cells.toList

/-- The text of a tape: where it stands and what it has visited. -/
def text (tape : Tape σ) : String :=
  s!"Tape(head={tape.head}, range=[{tape.low}, {tape.high}], cells={tape.cells.size})"

/-- Puts a symbol at a position; a blank is not stored. -/
def put (tape : Tape σ) (position : Int) (symbol : σ) : Tape σ :=
  if h : symbol == tape.blank then
    { tape with
      cells := tape.cells.erase position
      no_blank := fun i s hs => by
        rw [Std.ExtTreeMap.getElem?_erase] at hs
        split at hs
        · simp at hs
        · exact tape.no_blank i s hs }
  else
    { tape with
      cells := tape.cells.insert position symbol
      no_blank := fun i s hs => by
        rw [Std.ExtTreeMap.getElem?_insert] at hs
        split at hs
        · cases hs
          simpa using h
        · exact tape.no_blank i s hs }

/-- Writes a symbol under the head. -/
def write (tape : Tape σ) (symbol : σ) : Tape σ :=
  tape.put tape.head symbol

/-- Puts symbols at consecutive positions. -/
def putAll (tape : Tape σ) (position : Int) : List σ → Tape σ
  | [] => tape
  | symbol :: symbols => putAll (tape.put position symbol) (position + 1) symbols

/-- A tape that holds an input from position 0 on, with the head on its first symbol. -/
def ofInput (input : List σ) (blank : σ) : Tape σ :=
  { (ofBlank blank).putAll 0 input with high := max ((input.length : Int) - 1) 0 }

/-- Puts the head back, restores the symbol under it and the window. -/
def rewind (tape : Tape σ) (head : Int) (symbol : σ) (low high : Int) : Tape σ :=
  { ({ tape with head := head } : Tape σ).write symbol with low := low, high := high }

/-! ## Laws -/

section Laws

variable {tape : Tape σ} {i j : Int} {symbol : σ}

@[simp] theorem blank_put : (tape.put i symbol).blank = tape.blank := by unfold put; split <;> rfl
@[simp] theorem head_put : (tape.put i symbol).head = tape.head := by unfold put; split <;> rfl
@[simp] theorem low_put : (tape.put i symbol).low = tape.low := by unfold put; split <;> rfl
@[simp] theorem high_put : (tape.put i symbol).high = tape.high := by unfold put; split <;> rfl

@[simp] theorem get_move {d : Direction} : (tape.move d).get j = tape.get j := rfl

@[simp] theorem get_ofBlank {blank : σ} : (ofBlank blank).get j = blank := by
  simp [get, ofBlank]

variable [LawfulBEq σ]

/-- **Putting a symbol changes its own position and no other one.** -/
theorem get_put : (tape.put i symbol).get j = if i = j then symbol else tape.get j := by
  unfold put get
  split
  · rename_i h
    simp only [Std.ExtTreeMap.getElem?_erase, Std.compare_eq_iff_eq]
    split <;> simp_all
  · simp only [Std.ExtTreeMap.getElem?_insert, Std.compare_eq_iff_eq]
    split <;> simp_all

/-- **Writing changes the cell under the head and no other one.** -/
theorem get_write : (tape.write symbol).get j = if tape.head = j then symbol else tape.get j :=
  get_put

theorem get_putAll {symbols : List σ} : (tape.putAll i symbols).get j =
    if i ≤ j then (symbols[(j - i).toNat]?).getD (tape.get j) else tape.get j := by
  induction symbols generalizing tape i with
  | nil => simp [putAll]
  | cons s symbols ih =>
      rw [putAll, ih, get_put]
      by_cases h : i = j
      · subst h
        have hnext : ¬ i + 1 ≤ i := by omega
        simp [hnext]
      · by_cases hlt : i + 1 ≤ j
        · have hidx : (j - i).toNat = (j - (i + 1)).toNat + 1 := by omega
          have hle : i ≤ j := by omega
          simp [h, hlt, hle, hidx]
        · have hle : ¬ i ≤ j := by omega
          simp [h, hlt, hle]

/-- **A fresh tape holds its input from position 0 on, and blanks elsewhere.** -/
theorem get_ofInput {input : List σ} {blank : σ} : (ofInput input blank).get j =
    if 0 ≤ j then (input[j.toNat]?).getD blank else blank := by
  have h : (ofInput input blank).get j = ((ofBlank blank).putAll 0 input).get j := rfl
  rw [h, get_putAll]
  simp

theorem getElem?_cells_eq_some_iff : tape.cells[i]? = some symbol ↔ tape.get i = symbol ∧ symbol ≠ tape.blank := by
  unfold get
  cases h : tape.cells[i]? with
  | none => simp_all [eq_comm]
  | some s =>
      have hs : s ≠ tape.blank := by simpa using tape.no_blank i s h
      constructor
      · rintro ⟨⟩
        exact ⟨rfl, hs⟩
      · rintro ⟨rfl, _⟩
        rfl

/-- **Tapes that look the same at every position are the same.** -/
theorem ext_get {a b : Tape σ} (hblank : a.blank = b.blank) (hhead : a.head = b.head) (hlow : a.low = b.low)
    (hhigh : a.high = b.high) (hget : ∀ i, a.get i = b.get i) : a = b := by
  have hcells : a.cells = b.cells := by
    refine Std.ExtTreeMap.ext_getElem? fun i => ?_
    ext s
    rw [getElem?_cells_eq_some_iff, getElem?_cells_eq_some_iff, hget, hblank]
  cases a
  cases b
  simp_all

end Laws

end Tape

end TapeMachine
