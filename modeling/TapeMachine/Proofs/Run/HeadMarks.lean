import TapeMachine.Proofs.Run.Invariant
import TapeMachine.Proofs.Run.Windows
/-!
# Where the head is shown

A tape is shown with its head marked, by a caret in the line below it or by brackets around a cell. Each cell is one
character, whatever the symbols are, and the head is never outside the cells that are shown: so the mark is always at
the symbol that the executor reads.

* `Snapshot.Reads` : a moment whose head is at a symbol of its cells, and `Executor.Intact.reads` : **every executor
  shows the symbol that it reads**;
* `toList_render` : the cells with brackets around one of them;
* `toList_caretLine` : blanks up to the head, and a caret;
* `Executor.mem_trace_iterate_step` : **the trace consists of the moments of the run**;
* `Executor.head_marked` : **the marks are at the symbol under the head**, behind any calls.
-/

namespace TapeMachine

/-! ## 1. The symbol under the head -/

/-- Whether the head of a moment is at a symbol, the one of some number among its cells. -/
structure Snapshot.Reads (s : Snapshot Char) (index : Nat) (symbol : Char) : Prop where
  headIndex : s.headIndex = index
  cell : s.cells.get[index]? = some symbol

/-- **Every executor shows the symbol that it reads.** -/
theorem Executor.Intact.reads {d : Definition} {input : Input} {limits : Limits} {e : Executor}
    (h : e.Intact d input limits) : ∃ index, e.snapshot.Reads index e.tape.read := by
  have hlow := h.tape.low_le_head
  have hindex : e.snapshot.headIndex = (e.tape.head - e.tape.low).toNat := by
    show e.tape.head - e.tape.low = _
    omega
  exact ⟨_, hindex, Tape.getElem?_contents hlow h.tape.head_le_high⟩

/-! ## 2. Marked cells -/

section Marked

variable {σ : Type} {front back : List Char} {c : Char}

/-- Cells of which one is marked, as those in front of it, the marked one, and those behind it. -/
theorem mapIdx_mark (mark other : Char → σ) : ((front ++ c :: back).mapIdx fun i x =>
    if (i : Int) = front.length then mark x else other x) = front.map other ++ mark c :: back.map other := by
  rw [List.mapIdx_eq_iff]
  intro i
  rcases lt_trichotomy i front.length with hlt | rfl | hgt
  · have hne : ¬ (i : Int) = front.length := by omega
    rw [List.getElem?_append_left (by simpa using hlt), List.getElem?_append_left hlt, List.getElem?_map]
    simp only [if_neg hne]
  · simp
  · obtain ⟨j, rfl⟩ : ∃ j, i = front.length + (j + 1) := ⟨i - front.length - 1, by omega⟩
    have hne : ¬ ((front.length + (j + 1) : Nat) : Int) = front.length := by omega
    rw [List.getElem?_append_right (by simp), List.getElem?_append_right (by omega)]
    simp only [List.length_map, Nat.add_sub_cancel_left, List.getElem?_cons_succ, List.getElem?_map, if_neg hne]

variable {s : Snapshot Char} {index : Nat}

/-- **A moment is shown as its cells with brackets around the one under the head.** -/
theorem toList_render (h : s.Reads front.length c) (hcells : s.cells.get = front ++ c :: back) :
    s.render.toList = front ++ '[' :: c :: ']' :: back := by
  have hglyph : (fun x : Char => (glyph x).toList) = fun x => [x] := funext String.toList_singleton
  rw [Snapshot.render, hcells, h.headIndex, mapIdx_mark (fun x => "[" ++ glyph x ++ "]") glyph, String.toList_join,
    List.flatMap_append, List.flatMap_cons, List.flatMap_map, List.flatMap_map, hglyph, List.flatMap_singleton',
    List.flatMap_singleton']
  simp [glyph]

/-- Characters with a separator between them. -/
theorem toList_intercalate_glyph (separator : Char) (cells : List Char) :
    ((glyph separator).intercalate (cells.map glyph)).toList = cells.intersperse separator := by
  have hseparator : (glyph separator).toList = [separator] := String.toList_singleton separator
  rw [toList_intercalate_map_glyph, hseparator]
  induction cells with
  | nil => rfl
  | cons a cells ih =>
      cases cells with
      | nil => rfl
      | cons b cells =>
          have hlist : [separator].intercalate ((a :: b :: cells).map fun c => [c]) =
              [a] ++ [separator] ++ [separator].intercalate ((b :: cells).map fun c => [c]) :=
            List.intercalate_cons_cons
          rw [hlist, ih]
          rfl

/-- Equal characters with one among them, and the same character between all of them. -/
theorem intersperse_mark (a : Char) (m n : Nat) : (List.replicate m a ++ c :: List.replicate n a).intersperse a =
    List.replicate (2 * m) a ++ c :: List.replicate (2 * n) a := by
  have hcons (x : Char) {l : List Char} (hl : l ≠ []) : (x :: l).intersperse a = x :: a :: l.intersperse a := by
    cases l with
    | nil => exact absurd rfl hl
    | cons y l => exact List.intersperse_cons_cons
  induction m with
  | zero =>
      induction n generalizing c with
      | zero => rfl
      | succ n ih =>
          have htail : (a :: List.replicate n a).intersperse a = a :: List.replicate (2 * n) a := ih
          show (c :: a :: List.replicate n a).intersperse a = c :: List.replicate (2 * n + 1 + 1) a
          rw [hcons c (by simp), htail, List.replicate_succ, List.replicate_succ]
  | succ m ih =>
      have hcells : List.replicate m a ++ c :: List.replicate n a ≠ [] := by simp
      rw [List.replicate_succ, List.cons_append, hcons a hcells, ih]
      rfl

/-- Blanks behind a character that is none are dropped. -/
theorem Text.dropEndBlanks_append {cs : List Char} (hc : isBlank c = false) (n : Nat) :
    dropEndBlanks (cs ++ c :: List.replicate n ' ') = cs ++ [c] := by
  have hblanks : ∀ x ∈ List.replicate n ' ', isBlank x = true := fun x hx => by
    rw [(List.mem_replicate.mp hx).2]
    rfl
  rw [dropEndBlanks, List.reverse_append, List.reverse_cons, List.reverse_replicate, List.append_assoc,
    List.dropWhile_append_of_pos hblanks, List.singleton_append, List.dropWhile_cons_of_neg (by simp [hc]),
    List.reverse_cons, List.reverse_reverse]

/-- **The line below the cells has a caret under the one of the head**, with blanks in front of it. -/
theorem toList_caretLine (front : List Char) (c : Char) (back : List Char) :
    (Text.trimEnd (" ".intercalate ((front ++ c :: back).mapIdx fun i _ =>
      if (i : Int) = front.length then "^" else " "))).toList = List.replicate (2 * front.length) ' ' ++ ['^'] := by
  have hmarks : ((front ++ c :: back).mapIdx fun i _ => if (i : Int) = front.length then "^" else " ") =
      (List.replicate front.length ' ' ++ '^' :: List.replicate back.length ' ').map glyph := by
    rw [mapIdx_mark (fun _ => "^") fun _ => " ", List.map_const', List.map_const', List.map_append, List.map_cons,
      List.map_replicate, List.map_replicate]
    rfl
  have hline := toList_intercalate_glyph ' ' (List.replicate front.length ' ' ++ '^' :: List.replicate back.length ' ')
  rw [intersperse_mark] at hline
  rw [hmarks, Text.trimEnd, String.toList_ofList]
  show Text.dropEndBlanks ((glyph ' ').intercalate _).toList = _
  rw [hline, Text.dropEndBlanks_append rfl]

/-! ## 3. Shown moments -/

/-- A cell divides the cells into those in front of it and those behind it. -/
theorem Snapshot.Reads.exists_split (h : s.Reads index c) :
    ∃ front back, s.cells.get = front ++ c :: back ∧ front.length = index := by
  obtain ⟨hlt, hcell⟩ := List.getElem?_eq_some_iff.mp h.cell
  refine ⟨s.cells.get.take index, s.cells.get.drop (index + 1), ?_, List.length_take_of_le (Nat.le_of_lt hlt)⟩
  rw [← hcell, ← List.drop_eq_getElem_cons hlt, List.take_append_drop]

/-- **What is shown of a moment whose head is at a symbol**: the cells, with brackets around that symbol. -/
structure Snapshot.Bracketed (s : Snapshot Char) (index : Nat) (symbol : Char) : Prop where
  reads : s.Reads index symbol
  length : s.render.length = s.cells.get.length + 2
  opened : s.render.toList[index]? = some '['
  symbol : s.render.toList[index + 1]? = some symbol
  closed : s.render.toList[index + 2]? = some ']'
  cells : String.ofList ((s.render.toList.eraseIdx (index + 2)).eraseIdx index) = joinCells s.cells.get

/-- **The brackets are around the symbol of the head.** -/
theorem Snapshot.Reads.bracketed (h : s.Reads index c) : s.Bracketed index c := by
  obtain ⟨front, back, hcells, rfl⟩ := h.exists_split
  have hrender := toList_render h hcells
  have herase : (s.render.toList.eraseIdx (front.length + 2)).eraseIdx front.length = s.cells.get := by
    rw [hrender, hcells, List.eraseIdx_append_of_length_le (by omega), List.eraseIdx_append_of_length_le (by omega)]
    simp
  refine ⟨h, ?_, ?_, ?_, ?_, ?_⟩
  · rw [← String.length_toList, hrender, hcells]
    simp only [List.length_append, List.length_cons]
    omega
  · rw [hrender]
    simp
  · rw [hrender, List.getElem?_append_right (by omega)]
    simp
  · rw [hrender, List.getElem?_append_right (by omega)]
    simp
  · rw [herase, ← String.toList_inj, String.toList_ofList, toList_joinCells]

end Marked

/-! ## 4. Behind any calls -/

namespace Executor

variable {fresh e : Executor} {s : Snapshot Char}

/-- **The trace consists of the moments of the run**: each is the one after as many steps as it counts. -/
theorem mem_trace_iterate_step (hfresh : fresh.reset = fresh) (n : Nat) (hs : s ∈ (step^[n] fresh).trace) :
    s = (step^[s.step] fresh).snapshot := by
  have hstart := running_of_reset hfresh
  induction n with
  | zero =>
      have htrace : fresh.trace = [fresh.snapshot] := by
        rw [← hfresh]
        rfl
      obtain rfl : s = fresh.snapshot := List.mem_singleton.mp (htrace ▸ hs)
      show _ = (step^[fresh.steps] fresh).snapshot
      rw [steps_of_reset hfresh]
      rfl
  | succ n ih =>
      obtain hrunning | hhalted := running_or_halted_iterate_step hstart n
      · rw [Function.iterate_succ_apply'] at hs
        -- a rule adds the moment behind it; a run that ends here adds none
        obtain ⟨rule, happly⟩ | ⟨outcome, reason, hend⟩ := apply_or_ended hrunning
        · have hnext : (step^[n] fresh).apply rule = step^[n + 1] fresh := by
            rw [Function.iterate_succ_apply', happly]
          have hsteps : (step^[n + 1] fresh).steps = n + 1 :=
            steps_iterate_of_reset hfresh (hnext ▸ hrunning.apply)
          rw [happly] at hs
          obtain hs | hs := List.mem_cons.mp hs
          · have hmoment : s = (step^[n + 1] fresh).snapshot := by
              rw [← hnext]
              exact hs
            rw [hmoment]
            show _ = (step^[(step^[n + 1] fresh).steps] fresh).snapshot
            rw [hsteps]
          · exact ih hs
        · rw [hend] at hs
          exact ih hs
      · rw [Function.iterate_succ_apply', step_of_halted hhalted] at hs
        exact ih hs

/-- **The marks are at the symbol under the head**, behind any calls. The line below the cells has a caret under the
symbol that the executor reads; and each moment of the trace, which is the one of the fresh executor after as many steps
as it counts, is shown with brackets around the symbol that was read then. -/
theorem head_marked {d : Definition} {given : Json} {limits : Limits} {calls : List Call}
    (hfresh : create d given limits = .ok fresh) (he : fresh.callAll calls = e) :
    (∃ (index : Nat) (cells caret line : String), e.latest.headIndex = index ∧ e.visualize = [cells, caret, line] ∧
      cells.toList[2 * index]? = some e.tape.read ∧ caret.toList = List.replicate (2 * index) ' ' ++ ['^']) ∧
    ∀ s ∈ e.trace, s = (step^[s.step] fresh).snapshot ∧
      ∃ index, s.Bracketed index (step^[s.step] fresh).tape.read := by
  have hreset := (fresh_of_create hfresh).1
  obtain ⟨input, hinput, hstart⟩ := exists_start_of_create hfresh
  have hintact (n : Nat) : (step^[n] fresh).Intact d input limits := by
    rw [hstart]
    exact (intact_start (Definition.mem_of_readInput hinput)).iterate_step running_start n
  obtain ⟨n, hn⟩ := ((fromStart_self hreset).callAll hreset calls).exists_iterate_step
  rw [he] at hn
  constructor
  · have hlatest : e.latest = e.snapshot := by
      rw [latest, List.headD_eq_head?_getD, hn, (hintact n).latest, Option.getD_some]
    obtain ⟨index, hreads⟩ := (hn ▸ hintact n).reads
    rw [← hlatest] at hreads
    obtain ⟨front, back, hcells, rfl⟩ := hreads.exists_split
    refine ⟨front.length, _, _, _, hreads.headIndex, rfl, ?_, ?_⟩
    · show ((glyph ' ').intercalate _).toList[_]? = _
      rw [toList_intercalate_glyph, List.getElem?_intersperse_two_mul]
      exact hreads.cell
    · rw [hcells, hreads.headIndex]
      exact toList_caretLine front _ back
  · intro s hs
    rw [hn] at hs
    have hmoment := mem_trace_iterate_step hreset n hs
    obtain ⟨index, hreads⟩ := (hintact s.step).reads
    rw [← hmoment] at hreads
    exact ⟨hmoment, index, hreads.bracketed⟩

/-- The machine that adds one to a number of ones only, when the carry has come to the left of the input, and taken back
from there. -/
theorem head_marked_increment : ∃ fresh e, create Definition.increment (.str "11") {} = .ok fresh ∧
    fresh.callAll [.run, .undo, .undo, .step] = e ∧
    (∃ (index : Nat) (cells caret line : String), e.latest.headIndex = index ∧ e.visualize = [cells, caret, line] ∧
      cells.toList[2 * index]? = some e.tape.read ∧ caret.toList = List.replicate (2 * index) ' ' ++ ['^']) ∧
    ∀ s ∈ e.trace, ∃ index, s.Bracketed index (step^[s.step] fresh).tape.read := by
  have hinput : Definition.increment.readInput (.str "11") = .ok (.ofText "11") :=
    Definition.readInput_increment.mpr (by simp)
  have hcreate : create Definition.increment (.str "11") {} = .ok (start Definition.increment (.ofText "11") {}) := by
    rw [create, hinput]
    rfl
  refine ⟨_, _, hcreate, rfl, ?_⟩
  obtain ⟨hcaret, hbrackets⟩ := head_marked hcreate rfl
  exact ⟨hcaret, fun s hs => (hbrackets s hs).2⟩

end Executor

end TapeMachine
