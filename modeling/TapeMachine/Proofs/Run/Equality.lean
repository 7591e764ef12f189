import TapeMachine.Proofs.Machine.RoundTrip
import TapeMachine.Proofs.Run.Batch
import TapeMachine.Proofs.Run.Refinement
/-!
# Equal machines run alike

Two definitions are equal when their parts are, whatever order their rules are in. Their courses are the same then, and
so is every run. In particular, a machine in a document can be followed on any definition that is equal to it.

* `Definition.Equal.lookup_eq`, `Definition.Equal.course_eq` : equal machines find the same rules and go the same course;
* `Definition.Equal.run_eq` : **they have the same results**, or refuse an input for the same reason;
* `Definition.exists_equal_ofText` : a machine in a document that is equal to a given one.
-/

namespace TapeMachine.Definition

variable {d d' : Definition}

namespace Equal

variable (h : d.Equal d')
include h

/-- Equal machines find the same rules. -/
theorem lookup_eq (q : String) (a : Char) : d.rules.lookup q a = d'.rules.lookup q a := by
  refine Option.ext fun rule => ?_
  rw [RuleTable.lookup_eq_some_iff, RuleTable.lookup_eq_some_iff, h.rules.mem_iff]

theorem readInput_eq (given : Json) : d.readInput given = d'.readInput given := by
  have hsymbol : d.inputSymbol? = d'.inputSymbol? := funext fun v => by
    unfold inputSymbol?
    rw [h.inputSymbols]
  simp only [readInput, refusal, foreignItems, hsymbol]

theorem rule?_eq (c : Config) : c.rule? d = c.rule? d' :=
  h.lookup_eq _ _

/-- **Equal machines go the same course.** -/
theorem course_eq (symbols : List Char) (n : Nat) : d.course symbols n = d'.course symbols n := by
  induction n with
  | zero => rw [course, course, Config.start, Config.start, h.initial, h.blank]
  | succ n ih => rw [course, course, ih, Config.next, Config.next, h.rule?_eq]

theorem stops_eq (symbols : List Char) (limits : Limits) : d.Stops symbols limits = d'.Stops symbols limits := by
  funext n
  simp only [Stops, Crosses, h.course_eq, h.rule?_eq]

theorem window_eq (symbols : List Char) (n : Nat) : d.window symbols n = d'.window symbols n := by
  simp only [window, rightmost, leftmost, heads, h.course_eq]

theorem shown_eq (symbols : List Char) (n : Nat) : d.shown symbols n = d'.shown symbols n := by
  simp only [shown, leftmost, heads, h.course_eq, h.window_eq]

theorem verdict_eq (symbols : List Char) (limits : Limits) (n : Nat) :
    d.verdict symbols limits n = d'.verdict symbols limits n := by
  rw [verdict, verdict, h.course_eq, h.rule?_eq, isFinal, h.finals]
  rfl

theorem resultAt_eq (limits : Limits) (input : Input) (n : Nat) :
    d.resultAt limits input n = d'.resultAt limits input n := by
  have hshown : d.shown input.symbols = d'.shown input.symbols := funext (h.shown_eq _)
  simp only [resultAt, h.verdict_eq, h.course_eq, h.window_eq, hshown, h.blank]

/-- **Equal machines have the same results**, or refuse an input for the same reason. -/
theorem run_eq (given : Json) (limits : Limits) : d.run given limits = d'.run given limits := by
  have hread := h.readInput_eq given
  cases hinput : d'.readInput given with
  | error e => rw [run_of_refused (hread.trans hinput), run_of_refused hinput]
  | ok input =>
      obtain ⟨k, hk⟩ := d'.exists_isLeast_stops input.symbols limits
      rw [run_eq_resultAt hinput hk, ← h.resultAt_eq]
      exact run_eq_resultAt (hread.trans hinput) (h.stops_eq input.symbols limits ▸ hk)

end Equal

/-- The machine in a document is equal to a given one when it is so once the characters of the document are read. -/
theorem exists_equal_ofText {text : String} {cs : List Char} {name : Json} (hcs : text.toList = cs)
    (hsame : ((Json.Reader.run cs).toOption.bind fun value => (ofJson value name).toOption).any (·.same d) = true) :
    ∃ d', ofText text name = .ok d' ∧ d'.Equal d := by
  obtain ⟨d', hd', hsame⟩ := (Option.any_eq_true _ _).mp hsame
  obtain ⟨value, hvalue, hd'⟩ := Option.bind_eq_some_iff.mp hd'
  rw [toOption_eq_some] at hvalue hd'
  have hvalue : Json.read text = .ok value := by rw [Json.read, hcs, hvalue]
  refine ⟨d', ?_, same_iff_equal.mp hsame⟩
  rw [ofText, hvalue]
  exact hd'

end TapeMachine.Definition
