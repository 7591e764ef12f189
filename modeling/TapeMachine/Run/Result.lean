import TapeMachine.Error
import TapeMachine.Machine.Rule
/-!
# Snapshots and results

What a run shows: the machine before each step, and how the run ended.

* `Snapshot`, `Snapshot.render` : the visited part of the tape at one moment, with the head in brackets; its
  cells are looked up when they are asked for;
* `Outcome`, `HaltReason` : how a run ends;
* `Result`, `Result.output`, `Result.label` : a finished run, its final tape without the outer blanks, and
  its outcome in words;
* `dropBlanks_append` : **the output is the middle of the tape between runs of blanks.**
-/

namespace TapeMachine

/-! ## 1. Snapshots -/

/-- Delayed values are equal when their values are. -/
theorem thunk_eq_iff {α : Type} {a b : Thunk α} : a = b ↔ a.get = b.get := by
  refine ⟨fun h => h ▸ rfl, fun h => ?_⟩
  cases a
  cases b
  exact congrArg Thunk.mk (funext fun _ => h)

instance instDecidableEqThunk {α : Type} [DecidableEq α] : DecidableEq (Thunk α) := fun _ _ => decidable_of_iff _ thunk_eq_iff.symm

/-- A moment of a run: the state, the visited cells, the head and the position of the first cell. A long run
has many moments whose cells nobody asks for. -/
structure Snapshot (σ : Type) where
  step : Nat
  state : String
  cells : Thunk (List σ)
  head : Int
  offset : Int
  deriving DecidableEq

/-- The texts of some cells side by side. -/
def joinCells {σ : Type} [Glyph σ] (cells : List σ) : String :=
  String.join (cells.map glyph)

namespace Snapshot

variable {σ : Type}

/-- The index of the head among the cells. -/
def headIndex (s : Snapshot σ) : Int :=
  s.head - s.offset

variable [Glyph σ]

/-- The cells side by side, the one under the head in brackets. -/
def render (s : Snapshot σ) : String :=
  String.join (s.cells.get.mapIdx fun i cell =>
    if (i : Int) = s.headIndex then "[" ++ glyph cell ++ "]" else glyph cell)

/-- The snapshot as an object. -/
def toJson (s : Snapshot σ) : Json :=
  .obj [("step", .int s.step), ("state", .str s.state), ("tape", .str (joinCells s.cells.get)),
    ("head", .int s.head), ("offset", .int s.offset)]

end Snapshot

/-! ## 2. Outcomes -/

/-- How a run ends: in a final state, in another state, or stopped from outside. -/
inductive Outcome where
  | accepted
  | rejected
  | halted
  deriving DecidableEq, Repr

/-- Why a run is stopped from outside. -/
inductive HaltReason where
  | stepLimit
  | leftBoundary
  deriving DecidableEq, Repr

/-- The word for an outcome. -/
def Outcome.word : Outcome → String
  | .accepted => "accepted"
  | .rejected => "rejected"
  | .halted => "halted"

/-- The word for a reason. -/
def HaltReason.word : HaltReason → String
  | .stepLimit => "step_limit_exceeded"
  | .leftBoundary => "left_boundary"

/-- The outcome that a value names. -/
def Outcome.ofJson (value : Json) : Except RunError Outcome :=
  match [Outcome.accepted, .rejected, .halted].find? (Json.str ·.word = value) with
  | some outcome => .ok outcome
  | none => .error (.unknownOutcome value)

/-- The reason that a value names. -/
def HaltReason.ofJson (value : Json) : Except RunError HaltReason :=
  match [HaltReason.stepLimit, .leftBoundary].find? (Json.str ·.word = value) with
  | some reason => .ok reason
  | none => .error (.unknownReason value)

/-- An outcome in words; a stopped run must have a reason. -/
def Outcome.label : Outcome → Option HaltReason → Except ShapeError String
  | .accepted, _ => .ok "ACCEPTED"
  | .rejected, _ => .ok "REJECTED"
  | .halted, some reason => .ok s!"HALTED ({reason.word})"
  | .halted, none => .error (.lacks .null "value")

/-- The reason of a run as a value: `null` without one. -/
def HaltReason.toJson (reason : Option HaltReason) : Json :=
  (reason.map fun reason => Json.str reason.word).getD .null

/-! ## 3. Results -/

/-- A finished run, with its input as it was given. -/
structure Result (σ : Type) where
  outcome : Outcome
  finalState : String
  tape : List σ
  trace : List (Snapshot σ)
  steps : Nat
  blank : σ
  reason : Option HaltReason
  input : Json
  deriving DecidableEq

/-- The cells without the blanks at either end. -/
def dropBlanks {σ : Type} [BEq σ] (blank : σ) (cells : List σ) : List σ :=
  let front := cells.dropWhile (· == blank)
  (front.reverse.dropWhile (· == blank)).reverse

namespace Result

variable {σ : Type}

/-- Whether the run accepted its input. -/
def accepted (r : Result σ) : Bool :=
  r.outcome = .accepted

/-- The outcome in words; a stopped run must have a reason. -/
def label (r : Result σ) : Except ShapeError String :=
  r.outcome.label r.reason

variable [BEq σ] [Glyph σ]

/-- The final tape without the blanks at either end. -/
def output (r : Result σ) : String :=
  joinCells (dropBlanks r.blank r.tape)

/-- The result as fields, without its trace. -/
def summaryFields (r : Result σ) : Fields :=
  [("input", r.input), ("outcome", .str r.outcome.word), ("reason", HaltReason.toJson r.reason),
    ("final_state", .str r.finalState), ("steps", .int r.steps), ("tape", .str (joinCells r.tape)),
    ("output", .str r.output)]

/-- The result as fields, the trace last. -/
def fields (r : Result σ) : Fields :=
  r.summaryFields ++ [("trace", .arr (r.trace.map Snapshot.toJson))]

end Result

/-! ## 4. Laws -/

section Laws

variable {σ : Type} [BEq σ] [LawfulBEq σ] {blank : σ}

theorem dropWhile_replicate_append {n : Nat} {cells : List σ} (h : ∀ c ∈ cells.head?, c ≠ blank) :
    (List.replicate n blank ++ cells).dropWhile (· == blank) = cells := by
  induction n with
  | zero =>
      cases cells with
      | nil => rfl
      | cons c cells => simp [h c (by simp)]
  | succ n ih => simp [List.replicate_succ, ih]

/-- **The output is the middle of the tape**: what stands between runs of blanks, when it neither starts nor
ends with one. -/
theorem dropBlanks_append {i j : Nat} {middle : List σ} (hstart : ∀ c ∈ middle.head?, c ≠ blank)
    (hend : ∀ c ∈ middle.getLast?, c ≠ blank) :
    dropBlanks blank (List.replicate i blank ++ middle ++ List.replicate j blank) = middle := by
  cases middle with
  | nil =>
      have hfront : (List.replicate i blank ++ [] ++ List.replicate j blank).dropWhile (· == blank) = [] := by
        have hsplit : List.replicate i blank ++ [] ++ List.replicate j blank =
            List.replicate (i + j) blank ++ [] := by simp [List.replicate_append_replicate]
        rw [hsplit]
        exact dropWhile_replicate_append (by simp)
      rw [dropBlanks, hfront]
      rfl
  | cons c middle =>
      have hfront : (List.replicate i blank ++ (c :: middle) ++ List.replicate j blank).dropWhile (· == blank) =
          (c :: middle) ++ List.replicate j blank := by
        rw [List.append_assoc]
        exact dropWhile_replicate_append (by simpa using hstart)
      rw [dropBlanks, hfront, List.reverse_append, List.reverse_replicate,
        dropWhile_replicate_append (by rw [List.head?_reverse]; exact hend), List.reverse_reverse]

end Laws

end TapeMachine
