import TapeMachine.Proofs.Run.Batch
import TapeMachine.Proofs.Run.Renaming
import TapeMachine.Proofs.Run.Windows
import TapeMachine.Run.Record
/-!
# Written results tell all about a run

A result is written with its cells side by side in one text. Each cell is one character, whatever the run has put on the
tape, so that the text can be taken apart again, and no two results of machines with one blank are written alike.

* `joinCells_inj`, `Snapshot.toJson_inj`, `Result.fields_inj` : **cells, moments and results that are written alike are
  equal**;
* `Result.Alike`, `Result.same_fields_iff` : the same for results that are compared by value;
* `Snapshot.ToldBy` : what an object tells of a moment;
* `Definition.fields_lossless` : **written results lose nothing.**
-/

namespace TapeMachine

/-! ## 1. What is written alike -/

theorem joinCells_inj {cells cells' : List Char} : joinCells cells = joinCells cells' ↔ cells = cells' := by
  rw [← String.toList_inj, toList_joinCells, toList_joinCells]

theorem Outcome.word_inj {o o' : Outcome} : o.word = o'.word ↔ o = o' := by
  cases o <;> cases o' <;> decide

theorem HaltReason.toJson_inj {reason reason' : Option HaltReason} :
    HaltReason.toJson reason = HaltReason.toJson reason' ↔ reason = reason' := by
  constructor
  · intro h
    rcases reason with _ | _ | _ <;> rcases reason' with _ | _ | _ <;> first | rfl | exact absurd h (by decide)
  · exact congrArg _

theorem HaltReason.same_toJson {reason reason' : Option HaltReason} :
    Json.same (HaltReason.toJson reason) (HaltReason.toJson reason') = true ↔ reason = reason' := by
  rcases reason with _ | _ | _ <;> rcases reason' with _ | _ | _ <;>
    simp [HaltReason.toJson, HaltReason.word, Json.same]

namespace Snapshot

variable {s s' : Snapshot Char}

/-- Moments with the same parts are equal. -/
theorem eq_of_parts (hstep : s.step = s'.step) (hstate : s.state = s'.state) (hcells : s.cells.get = s'.cells.get)
    (hhead : s.head = s'.head) (hoffset : s.offset = s'.offset) : s = s' := by
  cases s
  cases s'
  simp only [Snapshot.mk.injEq, thunk_eq_iff]
  exact ⟨hstep, hstate, hcells, hhead, hoffset⟩

/-- **Moments that are written alike are equal.** -/
theorem toJson_inj : s.toJson = s'.toJson ↔ s = s' := by
  constructor
  · intro h
    simp only [toJson, Json.obj.injEq, List.cons.injEq, Prod.mk.injEq, true_and, and_true, Json.int.injEq,
      Int.natCast_inj, Json.str.injEq, joinCells_inj] at h
    obtain ⟨hstep, hstate, hcells, hhead, hoffset⟩ := h
    exact eq_of_parts hstep hstate hcells hhead hoffset
  · exact congrArg _

/-- Moments that are written as the same value are equal. -/
theorem same_toJson : Json.same s.toJson s'.toJson = true ↔ s = s' := by
  constructor
  · intro h
    have hparts : (s.step : Int) = s'.step ∧ s'.state = s.state ∧ s'.cells.get = s.cells.get ∧ s.head = s'.head ∧
        s.offset = s'.offset := by
      simpa [toJson, Json.same, Json.sameFields, Fields.get?, Json.number?, sameNumber_ofInt, joinCells_inj] using h
    obtain ⟨hstep, hstate, hcells, hhead, hoffset⟩ := hparts
    exact eq_of_parts (Int.ofNat_inj.mp hstep) hstate.symm hcells.symm hhead hoffset
  · rintro rfl
    simp [toJson, Json.same, Json.sameFields, Fields.get?, Json.number?, sameNumber_ofInt]

theorem sameItems_toJson {trace trace' : List (Snapshot Char)} :
    Json.sameItems (trace.map toJson) (trace'.map toJson) = true ↔ trace = trace' := by
  induction trace generalizing trace' with
  | nil => cases trace' <;> simp [Json.sameItems]
  | cons s trace ih =>
      cases trace' with
      | nil => simp [Json.sameItems]
      | cons s' trace' =>
          simp only [List.map_cons, Json.sameItems, Bool.and_eq_true, same_toJson, ih, List.cons.injEq]

end Snapshot

namespace Result

variable {r r' : Result Char}

/-- Results with the same parts are equal. -/
theorem eq_of_parts (houtcome : r.outcome = r'.outcome) (hstate : r.finalState = r'.finalState)
    (htape : r.tape = r'.tape) (htrace : r.trace = r'.trace) (hsteps : r.steps = r'.steps) (hblank : r.blank = r'.blank)
    (hreason : r.reason = r'.reason) (hinput : r.input = r'.input) : r = r' := by
  cases r
  cases r'
  simp only [Result.mk.injEq]
  exact ⟨houtcome, hstate, htape, htrace, hsteps, hblank, hreason, hinput⟩

/-- **Results that are written alike are equal**, if they have the same blank. -/
theorem fields_inj (hblank : r.blank = r'.blank) : r.fields = r'.fields ↔ r = r' := by
  constructor
  · intro h
    simp only [fields, summaryFields, List.cons_append, List.nil_append, List.cons.injEq, Prod.mk.injEq, true_and,
      and_true, Json.str.injEq, Json.int.injEq, Json.arr.injEq, Outcome.word_inj, HaltReason.toJson_inj,
      joinCells_inj] at h
    obtain ⟨hinput, houtcome, hreason, hstate, hsteps, htape, _, htrace⟩ := h
    have hmoments : r.trace = r'.trace := List.map_inj_right (fun _ _ => Snapshot.toJson_inj.mp) |>.mp htrace
    exact eq_of_parts houtcome hstate htape hmoments (Int.ofNat_inj.mp hsteps) hblank hreason hinput
  · exact congrArg _

/-- Whether two results are equal by value: so are their inputs, and all else is the same. -/
structure Alike (r r' : Result Char) : Prop where
  input : Json.same r.input r'.input = true
  rest : r = { r' with input := r.input }

/-- **Results that are written as the same value are equal by value**, if they have the same blank. -/
theorem same_fields_iff (hblank : r.blank = r'.blank) :
    Json.same (.obj r.fields) (.obj r'.fields) = true ↔ r.Alike r' := by
  constructor
  · intro h
    have hparts : Json.same r.input r'.input = true ∧ r'.outcome = r.outcome ∧ r.reason = r'.reason ∧
        r'.finalState = r.finalState ∧ (r.steps : Int) = r'.steps ∧ r'.tape = r.tape ∧ r'.output = r.output ∧
        r.trace = r'.trace := by
      simpa [fields, summaryFields, Json.same, Json.sameFields, Fields.get?, Json.number?, sameNumber_ofInt,
        joinCells_inj, HaltReason.same_toJson, Outcome.word_inj, Snapshot.sameItems_toJson] using h
    obtain ⟨hinput, houtcome, hreason, hstate, hsteps, htape, _, htrace⟩ := hparts
    exact ⟨hinput, eq_of_parts houtcome.symm hstate.symm htape.symm htrace (Int.ofNat_inj.mp hsteps) hblank hreason rfl⟩
  · rintro ⟨hinput, hrest⟩
    rw [hrest]
    simp [fields, summaryFields, Json.same, Json.sameFields, Fields.get?, Json.number?, sameNumber_ofInt,
      HaltReason.same_toJson, Snapshot.sameItems_toJson, output, hinput]

end Result

/-! ## 2. What is told -/

/-- Whether an object tells a moment at which a symbol is under the head: its text consists of the cells, and the symbol
is found in it by the numbers. -/
def Snapshot.ToldBy (s : Snapshot Char) (symbol : Char) (entry : Json) : Prop :=
  ∃ fields text, entry = .obj fields ∧ Fields.get? fields "tape" = some (.str text) ∧
    Fields.get? fields "head" = some (.int s.head) ∧ Fields.get? fields "offset" = some (.int s.offset) ∧
    text.toList = s.cells.get ∧ s.offset ≤ s.head ∧ text.toList[(s.head - s.offset).toNat]? = some symbol

namespace Definition

variable {d : Definition} {input : Input} {limits : Limits} {symbols : List Char} {i k n : Nat}

/-- A machine shows symbols of its alphabet only. -/
theorem mem_window (h : ∀ a ∈ symbols, a ∈ d.inputSymbols) : ∀ a ∈ d.window symbols n, a ∈ d.alphabet := by
  intro a ha
  obtain ⟨j, _, rfl⟩ := List.mem_map.mp ha
  exact (known_course h n).symbols _

/-- **What is written of a moment tells it**, with the symbol that the executor reads then. -/
theorem toldBy_shown (hk : IsLeast {n | d.Stops input.symbols limits n} k) (hi : i ≤ k) :
    (d.shown input.symbols i).ToldBy (Executor.step^[i] (.start d input limits)).tape.read
      (d.shown input.symbols i).toJson := by
  have hshows := Executor.shows_iterate_step hk hi
  have hread : (Executor.step^[i] (.start d input limits)).tape.read =
      (d.course input.symbols i).tape (d.course input.symbols i).head := by
    rw [Tape.read, hshows.get, hshows.head]
  have hlow : d.leftmost input.symbols i ≤ (d.course input.symbols i).head := leftmost_le_head (Nat.le_refl i)
  have hhigh : (d.course input.symbols i).head ≤ d.rightmost input.symbols i := head_le_rightmost (Nat.le_refl i)
  refine ⟨_, _, rfl, rfl, rfl, rfl, toList_joinCells _, hlow, ?_⟩
  rw [toList_joinCells, hread]
  exact getElem?_window hlow hhigh

theorem blank_of_run {given : Json} {r : Result Char} (h : d.run given limits = .ok r) : r.blank = d.blank := by
  cases hinput : d.readInput given with
  | error e =>
      rw [run_of_refused hinput] at h
      cases h
  | ok input =>
      obtain ⟨k, hk⟩ := d.exists_isLeast_stops input.symbols limits
      rw [run_eq_resultAt hinput hk] at h
      cases h
      rfl

/-- **Written results lose nothing.** The text of the tape consists of the cells, which are symbols of the alphabet. So
does the text of each moment of the trace, where the symbol that is read next is found by the head and the offset. Two
results of machines with the same blank are written alike exactly when they are equal, and a result that is written
without its trace lacks nothing else. -/
theorem fields_lossless {given : Json} (h : d.readInput given = .ok input) (limits : Limits) :
    ∃ r, d.run given limits = .ok r ∧
      (∃ text, Fields.get? r.fields "tape" = some (.str text) ∧ text.toList = r.tape) ∧
      (∀ a ∈ r.tape, a ∈ d.alphabet) ∧
      (∃ entries, Fields.get? r.fields "trace" = some (.arr entries) ∧ entries.length = r.trace.length ∧
        ∀ (i : Nat) (s : Snapshot Char) entry, r.trace[i]? = some s → entries[i]? = some entry →
          s.ToldBy (Executor.step^[i] (.start d input limits)).tape.read entry ∧ ∀ a ∈ s.cells.get, a ∈ d.alphabet) ∧
      (∀ (d' : Definition) given' limits' r', d'.run given' limits' = .ok r' → d.blank = d'.blank →
        (Json.obj r.fields = .obj r'.fields ↔ r = r') ∧
        (Json.same (.obj r.fields) (.obj r'.fields) = true ↔ r.Alike r')) ∧
      r.summaryFields = r.fields.filter (·.1 ≠ "trace") := by
  have hmem := mem_of_readInput h
  obtain ⟨k, hk⟩ := d.exists_isLeast_stops input.symbols limits
  refine ⟨_, run_eq_resultAt h hk, ⟨_, rfl, toList_joinCells _⟩, mem_window hmem,
    ⟨_, rfl, List.length_map .., fun i s entry hs hentry => ?moment⟩,
    fun d' given' limits' r' hr' hblank => ?alike, rfl⟩
  case moment =>
    obtain ⟨hi, rfl⟩ := getElem?_trace_resultAt.mp hs
    rw [List.getElem?_map, hs] at hentry
    obtain rfl := Option.some.inj hentry
    exact ⟨toldBy_shown hk hi, mem_window hmem⟩
  case alike =>
    have hblank' : (d.resultAt limits input k).blank = r'.blank := hblank.trans (blank_of_run hr').symm
    rw [Json.obj.injEq]
    exact ⟨Result.fields_inj hblank', Result.same_fields_iff hblank'⟩

/-- The machine that adds one, on two numbers. -/
theorem fields_lossless_increment :
    increment.readInput (.str "11") = .ok (.ofText "11") ∧
      ∃ r r' : Result Char, increment.run (.str "11") {} = .ok r ∧ increment.run (.str "1") {} = .ok r' ∧
        (∃ text, Fields.get? r.fields "tape" = some (.str text) ∧ text.toList = r.tape) ∧
        (Json.obj r.fields = .obj r'.fields ↔ r = r') ∧ r.summaryFields = r.fields.filter (·.1 ≠ "trace") := by
  have hinput : increment.readInput (.str "11") = .ok (.ofText "11") := readInput_increment.mpr (by simp)
  have hinput' : increment.readInput (.str "1") = .ok (.ofText "1") := readInput_increment.mpr (by simp)
  obtain ⟨r', hr'⟩ := exists_run hinput' {}
  obtain ⟨r, hr, htape, _, _, halike, hsummary⟩ := fields_lossless hinput {}
  exact ⟨hinput, r, r', hr, hr', htape, (halike _ _ _ _ hr' rfl).1, hsummary⟩

end Definition

end TapeMachine
