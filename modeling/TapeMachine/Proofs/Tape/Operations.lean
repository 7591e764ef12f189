import TapeMachine.Tape
/-!
# What the operations of a tape change

Each operation is described by what it does to the four things that can be seen of a tape: the symbol at a
position, the head, and the two ends of the visited window.

* `Tape.get_rewind` : rewinding changes the cell it restores and no other one;
* `Tape.rewind_move_write` : **rewinding with what stood on a tape takes back a write and a move**;
* `Tape.contents_eq`, `Tape.getElem?_contents` : the window of a tape that looks like a function is that function on its
  window, and it shows the tape cell by cell.
-/

namespace TapeMachine.Tape

variable {σ : Type} [BEq σ] {tape : Tape σ} {symbol : σ} {d : Direction}

/-! ## 1. The parts that an operation leaves alone -/

@[simp] theorem blank_write : (tape.write symbol).blank = tape.blank := blank_put
@[simp] theorem head_write : (tape.write symbol).head = tape.head := head_put
@[simp] theorem low_write : (tape.write symbol).low = tape.low := low_put
@[simp] theorem high_write : (tape.write symbol).high = tape.high := high_put

@[simp] theorem blank_move : (tape.move d).blank = tape.blank := rfl
@[simp] theorem head_move : (tape.move d).head = tape.head + d.offset := rfl
@[simp] theorem low_move : (tape.move d).low = min tape.low (tape.head + d.offset) := rfl
@[simp] theorem high_move : (tape.move d).high = max tape.high (tape.head + d.offset) := rfl

section Seeding

variable {symbols : List σ} {i : Int}

@[simp] theorem blank_putAll : (tape.putAll i symbols).blank = tape.blank := by
  induction symbols generalizing tape i with
  | nil => rfl
  | cons s symbols ih => rw [putAll, ih, blank_put]

@[simp] theorem head_putAll : (tape.putAll i symbols).head = tape.head := by
  induction symbols generalizing tape i with
  | nil => rfl
  | cons s symbols ih => rw [putAll, ih, head_put]

@[simp] theorem low_putAll : (tape.putAll i symbols).low = tape.low := by
  induction symbols generalizing tape i with
  | nil => rfl
  | cons s symbols ih => rw [putAll, ih, low_put]

end Seeding

section Fresh

variable {input : List σ} {blank : σ}

@[simp] theorem blank_ofInput : (ofInput input blank).blank = blank := by simp [ofInput, ofBlank]
@[simp] theorem head_ofInput : (ofInput input blank).head = 0 := by simp [ofInput, ofBlank]
@[simp] theorem low_ofInput : (ofInput input blank).low = 0 := by simp [ofInput, ofBlank]
@[simp] theorem high_ofInput : (ofInput input blank).high = max ((input.length : Int) - 1) 0 := rfl

end Fresh

/-! ## 2. Taking back a write and a move -/

section Rewind

variable {head low high i : Int}

@[simp] theorem blank_rewind : (tape.rewind head symbol low high).blank = tape.blank := by
  simp [rewind]

@[simp] theorem head_rewind : (tape.rewind head symbol low high).head = head := by
  simp [rewind]

@[simp] theorem low_rewind : (tape.rewind head symbol low high).low = low := rfl
@[simp] theorem high_rewind : (tape.rewind head symbol low high).high = high := rfl

variable [LawfulBEq σ]

/-- Rewinding changes the cell it restores and no other one. -/
theorem get_rewind : (tape.rewind head symbol low high).get i = if head = i then symbol else tape.get i :=
  get_put

/-- **Rewinding with what stood on a tape takes back a write and a move**: the cells, the head and the window
    are those of before. The cell is found blank or not, as it was, since no blank is ever stored. -/
theorem rewind_move_write :
    ((tape.write symbol).move d).rewind tape.head tape.read tape.low tape.high = tape := by
  refine ext_get ?_ ?_ ?_ ?_ fun i => ?_
  · simp
  · simp
  · rfl
  · rfl
  · rw [get_rewind, get_move, get_write]
    by_cases h : tape.head = i
    · rw [if_pos h, ← h]
      rfl
    · rw [if_neg h, if_neg h]

end Rewind

/-! ## 3. The window -/

/-- The window of a tape that looks like a function is that function on its window. -/
theorem contents_eq {f : Int → σ} {low high : Int} (hlow : tape.low = low) (hhigh : tape.high = high)
    (hget : ∀ i, tape.get i = f i) :
    tape.contents = (List.range (high + 1 - low).toNat).map fun (n : Nat) => f (low + n) := by
  unfold contents
  rw [hlow, hhigh]
  exact List.map_congr_left fun n _ => hget (low + n)

/-- The window of a tape shows it cell by cell. -/
theorem getElem?_contents {p : Int} (hlow : tape.low ≤ p) (hhigh : p ≤ tape.high) :
    tape.contents[(p - tape.low).toNat]? = some (tape.get p) := by
  have hindex : (p - tape.low).toNat < (tape.high + 1 - tape.low).toNat := by omega
  have hposition : tape.low + ((p - tape.low).toNat : Int) = p := by omega
  rw [contents, List.getElem?_map, List.getElem?_range hindex, Option.map_some, hposition]

end TapeMachine.Tape
