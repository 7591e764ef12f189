import Mathlib.Algebra.Ring.Int.Defs
import Mathlib.Data.List.Induction
import Mathlib.Order.Bounds.Basic
import TapeMachine.Proofs.Tape.Operations
/-!
# A tape and what was done to it

A tape stores the cells that are not blank and the ends of the window that it has visited. What was done to it since it
was seeded says the same without a tape: where the head stands follows from the movements, and what stands at a position
is what was written there last. Symbols may be anything whose equality is the sameness of two symbols.

* `Tape.Action`, `Tape.actAll` : writing and moving, in any order;
* `Tape.position`, `Tape.Visited`, `Tape.lastWritten`, `Tape.symbolAt` : what a history of actions says of the head and
  of each position, on a tape without ends;
* `Tape.Follows`, `Tape.follows_actAll` : **the invariant**: a tape is at every moment what its history says;
* `Tape.mem_stored_iff` : the stored cells are those that are not blank;
* `Tape.Mark`, `Tape.marks`, `Tape.rewindAll_advance` : **marks that were made on the way lead back**;
* `Tape.implements_history` : **a tape is a tape without ends, seen through the window that was visited.**
-/

namespace TapeMachine.Tape

/-! ## 1. Histories -/

section Histories

variable {σ : Type}

/-- What can be done to a tape. -/
inductive Action (σ : Type) where
  | write (symbol : σ)
  | move (d : Direction)

/-- How far an action moves the head to the right. -/
def Action.offset : Action σ → Int
  | .write _ => 0
  | .move d => d.offset

/-- Where the head stands after some actions. It starts at position 0. -/
def position (actions : List (Action σ)) : Int :=
  (actions.map Action.offset).sum

/-- Whether the head has stood at a position, at the start or after one of the actions. -/
def Visited (actions : List (Action σ)) (i : Int) : Prop :=
  ∃ before, before <+: actions ∧ position before = i

/-- The symbols that some actions write, each with its position, when the head starts at `p`. -/
def writesFrom (p : Int) : List (Action σ) → List (Int × σ)
  | [] => []
  | .write symbol :: actions => (p, symbol) :: writesFrom p actions
  | .move d :: actions => writesFrom (p + d.offset) actions

/-- The symbol that was written last at a position, if any was. -/
def lastWritten (actions : List (Action σ)) (i : Int) : Option σ :=
  ((writesFrom 0 actions).reverse.find? (·.1 = i)).map (·.2)

/-- What stands at a position: the symbol that was written there last, or else the one that the input has there, or else
the blank. -/
def symbolAt (input : List σ) (blank : σ) (actions : List (Action σ)) (i : Int) : σ :=
  (lastWritten actions i).getD (if 0 ≤ i then input[i.toNat]?.getD blank else blank)

variable {actions : List (Action σ)} {a : Action σ} {i p : Int} {symbol : σ} {input : List σ} {blank : σ}

theorem position_concat : position (actions ++ [a]) = position actions + a.offset := by
  simp [position]

theorem visited_position (actions : List (Action σ)) : Visited actions (position actions) :=
  ⟨actions, List.prefix_refl _, rfl⟩

/-- One more action adds the position to which it leads. -/
theorem visited_concat : Visited (actions ++ [a]) i ↔ i = position (actions ++ [a]) ∨ Visited actions i := by
  constructor
  · intro h
    obtain ⟨before, hbefore, hi⟩ := h
    rcases List.prefix_concat_iff.mp hbefore with rfl | hbefore
    · exact .inl hi.symm
    · exact .inr ⟨before, hbefore, hi⟩
  · intro h
    rcases h with rfl | ⟨before, hbefore, hi⟩
    · exact visited_position _
    · exact ⟨before, hbefore.trans (List.prefix_append _ _), hi⟩

theorem visited_nil : Visited ([] : List (Action σ)) i ↔ i = 0 := by
  constructor
  · intro h
    obtain ⟨before, hbefore, rfl⟩ := h
    rw [List.prefix_nil.mp hbefore]
    rfl
  · rintro rfl
    exact visited_position []

theorem writesFrom_append {more : List (Action σ)} :
    writesFrom p (actions ++ more) = writesFrom p actions ++ writesFrom (p + position actions) more := by
  induction actions generalizing p with
  | nil => simp [writesFrom, position]
  | cons a actions ih =>
      cases a with
      | write symbol => simp [writesFrom, ih, position, Action.offset]
      | move d => simp [writesFrom, ih, position, Action.offset, Int.add_assoc]

/-- Writing decides what was written last at the position of the head, and nowhere else. -/
theorem lastWritten_write : lastWritten (actions ++ [.write symbol]) i =
    if position actions = i then some symbol else lastWritten actions i := by
  rw [lastWritten, writesFrom_append, Int.zero_add]
  by_cases h : position actions = i
  · simp [writesFrom, h]
  · simp [writesFrom, h, lastWritten]

theorem lastWritten_move {d : Direction} : lastWritten (actions ++ [.move d]) i = lastWritten actions i := by
  rw [lastWritten, writesFrom_append]
  simp [writesFrom, lastWritten]

theorem symbolAt_write : symbolAt input blank (actions ++ [.write symbol]) i =
    if position actions = i then symbol else symbolAt input blank actions i := by
  rw [symbolAt, lastWritten_write]
  by_cases h : position actions = i
  · rw [if_pos h, if_pos h]
    rfl
  · rw [if_neg h, if_neg h]
    rfl

theorem symbolAt_move {d : Direction} :
    symbolAt input blank (actions ++ [.move d]) i = symbolAt input blank actions i := by
  rw [symbolAt, lastWritten_move]
  rfl

end Histories

/-! ## 2. Tapes with a history -/

variable {σ : Type} [BEq σ] {tape : Tape σ} {input : List σ} {blank symbol : σ} {actions : List (Action σ)}
  {a : Action σ} {i : Int}

/-- The tape after an action. -/
def act (tape : Tape σ) : Action σ → Tape σ
  | .write symbol => tape.write symbol
  | .move d => tape.move d

/-- The tape after some actions, one after the other. -/
def actAll (tape : Tape σ) (actions : List (Action σ)) : Tape σ :=
  actions.foldl act tape

/-- **Whether a tape is what its history says**: its head, what stands at each position, and the ends of the window that
was visited. The positions of the input count as visited. -/
structure Follows (tape : Tape σ) (input : List σ) (blank : σ) (actions : List (Action σ)) : Prop where
  blank_eq : tape.blank = blank
  head : tape.head = position actions
  get : ∀ i, tape.get i = symbolAt input blank actions i
  low : IsLeast {i | Visited actions i} tape.low
  high : IsGreatest {i | Visited actions i ∨ i = (input.length : Int) - 1} tape.high

/-- The head is never outside the window. -/
theorem Follows.head_mem (h : tape.Follows input blank actions) : tape.low ≤ tape.head ∧ tape.head ≤ tape.high := by
  rw [h.head]
  exact ⟨h.low.2 (visited_position actions), h.high.2 (.inl (visited_position actions))⟩

section Run

variable [LawfulBEq σ]

theorem follows_ofInput (input : List σ) (blank : σ) : (ofInput input blank).Follows input blank [] where
  blank_eq := blank_ofInput
  head := head_ofInput
  get _ := get_ofInput
  low := by
    simp only [visited_nil, Set.ofPred_eq_eq_singleton, low_ofInput]
    exact isLeast_singleton
  high := by
    simp only [visited_nil, high_ofInput]
    rw [max_comm]
    exact isGreatest_pair

/-- **Each action keeps a tape in step with its history.** -/
theorem Follows.act (h : tape.Follows input blank actions) (a : Action σ) :
    (tape.act a).Follows input blank (actions ++ [a]) := by
  obtain ⟨hlow, hhigh⟩ := h.head_mem
  cases a with
  | write symbol =>
      have hposition : position (actions ++ [.write symbol]) = position actions := by
        rw [position_concat]
        exact Int.add_zero _
      have hvisited (i : Int) : Visited (actions ++ [.write symbol]) i ↔ Visited actions i := by
        rw [visited_concat, hposition, or_iff_right_iff_imp]
        rintro rfl
        exact visited_position actions
      refine ⟨blank_write.trans h.blank_eq, ?_, fun i => ?_, ?_, ?_⟩
      · rw [hposition]
        exact head_write.trans h.head
      · rw [symbolAt_write, ← h.head, ← h.get]
        exact get_write
      · simp only [hvisited]
        show IsLeast _ (tape.write symbol).low
        rw [low_write]
        exact h.low
      · simp only [hvisited]
        show IsGreatest _ (tape.write symbol).high
        rw [high_write]
        exact h.high
  | move d =>
      have hposition : position (actions ++ [.move d]) = tape.head + d.offset := by
        rw [position_concat, h.head]
        rfl
      refine ⟨h.blank_eq, hposition.symm, fun i => ?_, ?_, ?_⟩
      · rw [symbolAt_move]
        exact h.get i
      · have hinsert := h.low.insert (tape.head + d.offset)
        simp only [visited_concat, hposition]
        rwa [min_comm] at hinsert
      · have hinsert := h.high.insert (tape.head + d.offset)
        simp only [visited_concat, hposition, or_assoc]
        rwa [max_comm] at hinsert

/-- **A tape is at every moment what its history says.** -/
theorem follows_actAll (input : List σ) (blank : σ) (actions : List (Action σ)) :
    ((ofInput input blank).actAll actions).Follows input blank actions := by
  induction actions using List.reverseRecOn with
  | nil => exact follows_ofInput input blank
  | append_singleton actions a ih =>
      rw [actAll, List.foldl_append]
      exact ih.act a

end Run

/-! ## 3. Stored cells -/

section Cells

theorem mem_writesFrom {σ : Type} {actions : List (Action σ)} {p i : Int} {symbol : σ}
    (h : (i, symbol) ∈ writesFrom p actions) : ∃ before, before <+: actions ∧ p + position before = i := by
  induction actions generalizing p with
  | nil => cases h
  | cons a actions ih =>
      have hlater {q : Int} (hq : q = p + a.offset) (h : (i, symbol) ∈ writesFrom q actions) :
          ∃ before, before <+: a :: actions ∧ p + position before = i := by
        obtain ⟨before, hbefore, hi⟩ := ih h
        refine ⟨a :: before, (List.prefix_cons_inj a).mpr hbefore, ?_⟩
        rw [← hi, hq, position, List.map_cons, List.sum_cons, ← Int.add_assoc]
        rfl
      cases a with
      | write written =>
          rw [writesFrom, List.mem_cons] at h
          rcases h with h | h
          · cases h
            exact ⟨[], List.nil_prefix, Int.add_zero _⟩
          · exact hlater (Int.add_zero p).symm h
      | move d => exact hlater rfl h

/-- Where nothing was written and the input has no symbol stands the blank. -/
theorem visited_of_symbolAt_ne {σ : Type} {input : List σ} {blank : σ} {actions : List (Action σ)} {i : Int}
    (h : symbolAt input blank actions i ≠ blank) : Visited actions i ∨ 0 ≤ i ∧ i ≤ (input.length : Int) - 1 := by
  cases hwritten : (writesFrom 0 actions).reverse.find? (·.1 = i) with
  | some cell =>
      obtain ⟨position, symbol⟩ := cell
      have hposition : position = i := by simpa using List.find?_some hwritten
      obtain ⟨before, hbefore, hi⟩ := mem_writesFrom (List.mem_reverse.mp (List.mem_of_find?_eq_some hwritten))
      exact .inl ⟨before, hbefore, by omega⟩
  | none =>
      refine .inr ?_
      by_cases hpos : 0 ≤ i
      · by_cases hlength : i.toNat < input.length
        · omega
        · simp [symbolAt, lastWritten, hwritten, hlength] at h
      · simp [symbolAt, lastWritten, hwritten, hpos] at h

/-- **The stored cells are those that are not blank.** -/
theorem mem_stored_iff [LawfulBEq σ] : (i, symbol) ∈ tape.stored ↔ tape.get i = symbol ∧ symbol ≠ tape.blank :=
  Std.ExtTreeMap.mem_toList_iff_getElem?_eq_some.trans getElem?_cells_eq_some_iff

/-- The stored cells are listed from left to right, each once. -/
theorem pairwise_stored (tape : Tape σ) : tape.stored.Pairwise (·.1 < ·.1) :=
  Std.ExtTreeMap.ordered_keys_toList.imp Std.compare_eq_lt.mp

theorem length_contents (h : tape.low ≤ tape.high) : (tape.contents.length : Int) = tape.high - tape.low + 1 := by
  rw [contents, List.length_map, List.length_range]
  omega

end Cells

/-! ## 4. Marks on the way -/

/-- What is noted of a tape before it changes. -/
structure Mark (σ : Type) where
  head : Int
  symbol : σ
  low : Int
  high : Int

/-- The mark of a tape: its head, the symbol under it, and the ends of the window. -/
def mark (tape : Tape σ) : Mark σ :=
  { head := tape.head, symbol := tape.read, low := tape.low, high := tape.high }

/-- Rewinds a tape to a mark. -/
def rewindTo (tape : Tape σ) (m : Mark σ) : Tape σ :=
  tape.rewind m.head m.symbol m.low m.high

/-- The actions of writing some symbols and moving after each. -/
def Action.ofPairs (pairs : List (σ × Direction)) : List (Action σ) :=
  pairs.flatMap fun pair => [.write pair.1, .move pair.2]

/-- The marks that are made when some symbols are written, each before its writing and the movement behind it. -/
def marks (tape : Tape σ) : List (σ × Direction) → List (Mark σ)
  | [] => []
  | (symbol, d) :: pairs => tape.mark :: marks ((tape.write symbol).move d) pairs

/-- **Marks that were made on the way lead back**, the last one first. -/
theorem rewindAll_advance [LawfulBEq σ] (tape : Tape σ) (pairs : List (σ × Direction)) :
    (tape.marks pairs).reverse.foldl rewindTo (tape.actAll (Action.ofPairs pairs)) = tape := by
  induction pairs generalizing tape with
  | nil => rfl
  | cons pair pairs ih =>
      have hnext : tape.actAll (Action.ofPairs (pair :: pairs)) =
          ((tape.write pair.1).move pair.2).actAll (Action.ofPairs pairs) := rfl
      rw [hnext, marks, List.reverse_cons, List.foldl_append, ih]
      exact rewind_move_write

/-! ## 5. Tapes without ends -/

/-- **Whether a tape is a tape without ends, seen through the window that was visited.** The head starts at position 0,
which so counts as visited; the positions of the input do too. -/
structure Implements (tape : Tape σ) (input : List σ) (blank : σ) (actions : List (Action σ)) : Prop where
  head : tape.head = position actions
  read : tape.read = symbolAt input blank actions (position actions)
  low : IsLeast {i | Visited actions i} tape.low
  high : IsGreatest {i | Visited actions i ∨ i = (input.length : Int) - 1} tape.high
  length : (tape.contents.length : Int) = tape.high - tape.low + 1
  contents : ∀ i, tape.low ≤ i → i ≤ tape.high →
    tape.contents[(i - tape.low).toNat]? = some (symbolAt input blank actions i)
  stored : ∀ i symbol, (i, symbol) ∈ tape.stored ↔ symbolAt input blank actions i = symbol ∧ symbol ≠ blank
  ordered : tape.stored.Pairwise (·.1 < ·.1)
  inside : ∀ cell ∈ tape.stored, tape.low ≤ cell.1 ∧ cell.1 ≤ tape.high

theorem Follows.implements [LawfulBEq σ] (h : tape.Follows input blank actions) :
    tape.Implements input blank actions where
  head := h.head
  read := by
    rw [← h.head]
    exact h.get _
  low := h.low
  high := h.high
  length := length_contents (h.head_mem.1.trans h.head_mem.2)
  contents i hlow hhigh := by
    rw [← h.get]
    exact getElem?_contents hlow hhigh
  stored i symbol := by
    rw [mem_stored_iff, h.get, h.blank_eq]
  ordered := pairwise_stored tape
  inside := by
    intro cell hcell
    obtain ⟨hsymbol, hne⟩ := mem_stored_iff.mp hcell
    rw [← hsymbol, h.get, h.blank_eq] at hne
    rcases visited_of_symbolAt_ne hne with hvisited | ⟨hpos, hlength⟩
    · exact ⟨h.low.2 hvisited, h.high.2 (.inl hvisited)⟩
    · have hlow : tape.low ≤ 0 := h.low.2 ⟨[], List.nil_prefix, rfl⟩
      have hhigh : (input.length : Int) - 1 ≤ tape.high := h.high.2 (.inr rfl)
      omega

/-- **A tape is a tape without ends, seen through the window that was visited**, whatever the symbols are, whatever the
input holds, and whatever is written on it and however its head moves. Rewinding to the marks that were made before each
further writing and movement, the last one first, gives back the tape as it was. -/
theorem implements_history [LawfulBEq σ] (input : List σ) (blank : σ) (actions : List (Action σ)) :
    ((ofInput input blank).actAll actions).Implements input blank actions ∧
    ∀ pairs : List (σ × Direction),
      (((ofInput input blank).actAll actions).marks pairs).reverse.foldl rewindTo
          (((ofInput input blank).actAll actions).actAll (Action.ofPairs pairs)) =
        (ofInput input blank).actAll actions :=
  ⟨(follows_actAll input blank actions).implements, rewindAll_advance _⟩

/-- Words on a tape, the blank among them: one is overwritten on the left of the input, another one erased. -/
theorem implements_history_words :
    let actions : List (Action String) := [.write "", .move .left, .write "ab", .write "c", .move .right]
    let tape := (ofInput ["ab", "_", "cd"] "_").actAll actions
    tape.Implements ["ab", "_", "cd"] "_" actions ∧ tape.contents = ["c", "", "_", "cd"] ∧ tape.low = -1 ∧
      (tape.marks [("_", .right), ("x", .left)]).reverse.foldl rewindTo
        (tape.actAll (Action.ofPairs [("_", .right), ("x", .left)])) = tape := by
  intro actions tape
  obtain ⟨himplements, hback⟩ := implements_history ["ab", "_", "cd"] "_" actions
  exact ⟨himplements, by decide +kernel, by decide +kernel, hback _⟩

end TapeMachine.Tape
