import TapeMachine.Json.Compare
import TapeMachine.Run.Result
/-!
# Records of runs

A snapshot or a result can be written down without a run: then its parts are values of any shape. It answers
the same questions, and a use that a shape does not allow is an error.

* `SnapshotRecord`, `ResultRecord` : what is written down, with `render`, `output` and `toJson`;
* `SnapshotRecord.render_ofSnapshot`, `ResultRecord.output_ofResult` : **the record of a snapshot or a result
  answers as the snapshot or the result does**, so that what is proved of the one holds of the other.
-/

namespace TapeMachine

open Json (AnySymbol)

/-! ## 1. Snapshots -/

/-- A snapshot as it is written down. -/
structure SnapshotRecord where
  step : Json
  state : Json
  cells : List Json
  head : Json
  offset : Json
  deriving DecidableEq, Repr

namespace SnapshotRecord

variable (s : SnapshotRecord)

/-- The index of the head among the cells. -/
def headIndex : Except ShapeError Json :=
  s.head.minus s.offset

/-- A cell as it is shown: the one under the head in brackets. -/
def renderCell (cell : Json) (i : Nat) : Except ShapeError Json := do
  return if Json.same (.int i) (← s.headIndex) then .str ("[" ++ cell.display ++ "]") else cell

/-- The cells side by side, the one under the head in brackets. -/
def render : Except ShapeError String := do
  Json.joinTexts (← s.cells.zipIdx.mapM fun (cell, i) => s.renderCell cell i)

/-- The snapshot as an object. -/
def toJson : Except ShapeError Json := do
  return .obj [("step", s.step), ("state", s.state), ("tape", .str (← Json.joinTexts s.cells)),
    ("head", s.head), ("offset", s.offset)]

/-- The record of a snapshot. -/
def ofSnapshot {σ : Type} [Glyph σ] (s : Snapshot σ) : SnapshotRecord :=
  { step := .int s.step, state := .str s.state, cells := s.cells.get.map fun cell => .str (glyph cell)
    head := .int s.head, offset := .int s.offset }

end SnapshotRecord

/-! ## 2. Results -/

/-- A result as it is written down; its outcome and its reason are known words. -/
structure ResultRecord where
  outcome : Outcome
  finalState : Json
  tape : List Json
  trace : List SnapshotRecord
  steps : Json
  blank : Json
  reason : Option HaltReason
  input : Json
  deriving DecidableEq, Repr

namespace ResultRecord

variable (r : ResultRecord)

/-- Whether the run accepted its input. -/
def accepted : Bool :=
  r.outcome = .accepted

/-- The outcome in words; a stopped run must have a reason. -/
def label : Except ShapeError String :=
  r.outcome.label r.reason

/-- The final tape without the blanks at either end. -/
def output : Except ShapeError String :=
  Json.joinTexts ((dropBlanks ⟨r.blank⟩ (r.tape.map AnySymbol.mk)).map AnySymbol.value)

/-- The result as fields, without its trace. -/
def summaryFields : Except ShapeError Fields := do
  return [("input", r.input), ("outcome", .str r.outcome.word), ("reason", HaltReason.toJson r.reason),
    ("final_state", r.finalState), ("steps", r.steps), ("tape", .str (← Json.joinTexts r.tape)),
    ("output", .str (← r.output))]

/-- The result as fields, the trace last. -/
def fields : Except ShapeError Fields := do
  return (← r.summaryFields) ++ [("trace", .arr (← r.trace.mapM SnapshotRecord.toJson))]

/-- The record of a result. -/
def ofResult {σ : Type} [Glyph σ] (r : Result σ) : ResultRecord :=
  { outcome := r.outcome, finalState := .str r.finalState, tape := r.tape.map fun cell => .str (glyph cell)
    trace := r.trace.map .ofSnapshot, steps := .int r.steps, blank := .str (glyph r.blank)
    reason := r.reason, input := r.input }

end ResultRecord

/-! ## 3. Laws -/

section Laws

variable {σ : Type} [Glyph σ]

theorem joinTexts_map_glyph (cells : List σ) :
    Json.joinTexts (cells.map fun cell => .str (glyph cell)) = .ok (joinCells cells) := by
  have h := Json.joinTexts_map_str (cells.map glyph)
  rwa [List.map_map] at h

theorem sameNumber_ofInt (m n : Int) : Json.sameNumber (.ofInt m) (.ofInt n) = decide (m = n) := by
  rw [Json.sameNumber, Number.compare_ofInt]
  simp [Number.ofInt]

namespace SnapshotRecord

theorem renderCell_ofSnapshot (s : Snapshot σ) (cell : σ) (i : Nat) :
    (ofSnapshot s).renderCell (.str (glyph cell)) i =
      .ok (.str (if (i : Int) = s.headIndex then "[" ++ glyph cell ++ "]" else glyph cell)) := by
  have hindex : (ofSnapshot s).headIndex = .ok (.int s.headIndex) := rfl
  rw [renderCell, hindex]
  simp only [bind, Except.bind, pure, Except.pure, Json.same, Json.number?, sameNumber_ofInt,
    Json.display_str, decide_eq_true_eq, Except.ok.injEq]
  split <;> rfl

/-- **The record of a snapshot is shown as the snapshot is.** -/
theorem render_ofSnapshot (s : Snapshot σ) : (ofSnapshot s).render = .ok s.render := by
  have hcells : (ofSnapshot s).cells.zipIdx =
      s.cells.get.zipIdx.map fun p => (Json.str (glyph p.1), p.2) := by
    simp [ofSnapshot, List.zipIdx_map, Prod.map]
  have hmap : ((ofSnapshot s).cells.zipIdx.mapM fun (cell, i) => (ofSnapshot s).renderCell cell i) =
      .ok ((s.cells.get.mapIdx fun i cell =>
        if (i : Int) = s.headIndex then "[" ++ glyph cell ++ "]" else glyph cell).map .str) := by
    rw [hcells, List.mapM_map]
    simp only [renderCell_ofSnapshot, Function.comp_def, List.mapIdx_eq_zipIdx_map, List.map_map]
    exact List.mapM_pure
  rw [render, hmap, Snapshot.render]
  exact Json.joinTexts_map_str _

/-- **The record of a snapshot is the same object.** -/
theorem toJson_ofSnapshot (s : Snapshot σ) : (ofSnapshot s).toJson = .ok s.toJson := by
  have hjoin : Json.joinTexts (ofSnapshot s).cells = .ok (joinCells s.cells.get) := joinTexts_map_glyph s.cells.get
  rw [toJson, hjoin]
  rfl

end SnapshotRecord

namespace ResultRecord

theorem dropBlanks_map {τ υ : Type} [BEq τ] [BEq υ] (f : τ → υ) (blank : τ) (cells : List τ)
    (h : ∀ a, (f a == f blank) = (a == blank)) :
    dropBlanks (f blank) (cells.map f) = (dropBlanks blank cells).map f := by
  have hp : ((fun u => u == f blank) ∘ f) = fun a => a == blank := funext h
  simp only [dropBlanks, List.dropWhile_map, ← List.map_reverse, hp]

/-- **The record of a result has the same output.** -/
theorem output_ofResult (r : Result Char) : (ofResult r).output = .ok r.output := by
  have hdrop := dropBlanks_map (fun c : Char => AnySymbol.mk (.str (glyph c))) r.blank r.tape
    (fun a => by
      simp only [Json.beq_mk, Json.equals_str]
      by_cases h : a = r.blank <;> simp [h, glyph, String.singleton_inj])
  have hcells : (ofResult r).tape.map AnySymbol.mk =
      r.tape.map fun c => AnySymbol.mk (.str (glyph c)) := by
    simp [ofResult, List.map_map, Function.comp_def]
  rw [output, hcells]
  show Json.joinTexts ((dropBlanks (AnySymbol.mk (.str (glyph r.blank))) _).map AnySymbol.value) = _
  rw [hdrop, List.map_map]
  exact joinTexts_map_glyph _

end ResultRecord

end Laws

end TapeMachine
