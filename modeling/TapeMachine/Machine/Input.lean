import TapeMachine.Json.Compare
import TapeMachine.Machine.Definition
/-!
# Inputs

An input is a sequence of input symbols. It is mostly given as a text and consists of its characters, but any
value with items will do, as long as each item is an input symbol.

* `Input`, `Input.ofText` : an input with the value as which it was given;
* `Definition.readInput` : the input in a value, or its items that are no input symbols;
* `Definition.readInput_text` : **a text is an input exactly when all its characters are input symbols.**
-/

namespace TapeMachine

/-- A sequence of symbols, and the value as which it was given. -/
structure Input where
  given : Json
  symbols : List Char
  deriving DecidableEq, Repr

/-- The characters of a text. -/
def Input.ofText (s : String) : Input :=
  { given := .str s, symbols := s.toList }

namespace Definition

variable (d : Definition)

/-- The input symbol that a value is. -/
def inputSymbol? : Json → Option Char
  | .str s => symbol? d.inputSymbols s
  | _ => none

/-- The items of a value that are no input symbols, in increasing order. -/
def foreignItems (items : List Json) : Except ShapeError (List Json) :=
  Json.sortedDistinct (items.filter fun item => (d.inputSymbol? item).isNone)

/-- Why a value is refused some of whose items are no input symbols. -/
def refusal (given : Json) (items : List Json) : Error :=
  match d.foreignItems items with
  | .ok symbols => .input { input := given, symbols }
  | .error e => .shape e

/-- The input in a value: its items, each of which must be an input symbol. -/
def readInput (given : Json) : Except Error Input :=
  match given.items with
  | .error e => .error (.shape e)
  | .ok items =>
      match items.mapM Json.asKey with
      | .error e => .error (.shape e)
      | .ok keys =>
          match keys.mapM d.inputSymbol? with
          | some symbols => .ok { given, symbols }
          | none => .error (d.refusal given keys)

/-! ## Laws -/

section Laws

variable {d}

theorem symbol?_singleton {symbols : SymbolSet} {c : Char} :
    symbol? symbols (String.singleton c) = if symbols.contains c then some c else none := by
  simp [symbol?]

theorem mapM_asKey_chars (cs : List Char) :
    (cs.map fun c => Json.str (String.singleton c)).mapM Json.asKey =
      .ok (cs.map fun c => Json.str (String.singleton c)) := by
  induction cs with
  | nil => rfl
  | cons c cs ih =>
      rw [List.map_cons, List.mapM_cons, ih]
      rfl

theorem mapM_inputSymbol?_chars (cs : List Char) :
    (cs.map fun c => Json.str (String.singleton c)).mapM d.inputSymbol? =
      if cs.all d.inputSymbols.contains then some cs else none := by
  induction cs with
  | nil => rfl
  | cons c cs ih =>
      rw [List.map_cons, List.mapM_cons, ih, inputSymbol?, symbol?_singleton]
      cases hc : d.inputSymbols.contains c <;> cases hcs : cs.all d.inputSymbols.contains <;>
        simp [hc, hcs, bind, pure]

/-- What becomes of a text. -/
theorem readInput_str (s : String) : d.readInput (.str s) =
    if s.toList.all d.inputSymbols.contains then .ok (.ofText s)
    else .error (d.refusal (.str s) (s.toList.map fun c => .str (String.singleton c))) := by
  unfold readInput
  simp only [Json.items, mapM_asKey_chars, mapM_inputSymbol?_chars]
  split <;> rename_i h
  · split at h
    · simp_all [Input.ofText]
    · simp at h
  · split at h
    · simp at h
    · simp_all

/-- **A text is an input exactly when all its characters are input symbols.** -/
theorem readInput_text {s : String} {input : Input} :
    d.readInput (.str s) = .ok input ↔ input = .ofText s ∧ ∀ c ∈ s.toList, c ∈ d.inputSymbols := by
  rw [readInput_str]
  split <;> rename_i h
  · simp only [List.all_eq_true] at h
    simp only [Except.ok.injEq, eq_comm (a := Input.ofText s), iff_self_and]
    exact fun _ c hc => Std.ExtTreeSet.mem_iff_contains.2 (h c hc)
  · simp only [List.all_eq_true] at h
    simp only [reduceCtorEq, false_iff, not_and]
    exact fun _ hall => h fun c hc => Std.ExtTreeSet.mem_iff_contains.1 (hall c hc)

/-- A text that is no input is refused as one. -/
theorem exists_refusal_chars (given : Json) (cs : List Char) : ∃ symbols,
    d.refusal given (cs.map fun c => .str (String.singleton c)) = .input { input := given, symbols } := by
  have texts : ∀ v ∈ (cs.map fun c => Json.str (String.singleton c)).filter fun item =>
      (d.inputSymbol? item).isNone, v.isText := by
    intro v hv
    obtain ⟨c, _, rfl⟩ := List.mem_map.1 (List.mem_filter.1 hv).1
    rfl
  obtain ⟨symbols, h⟩ := Json.sortedDistinct_of_isText texts
  exact ⟨symbols, by rw [refusal, foreignItems, h]⟩

end Laws

end Definition

end TapeMachine
