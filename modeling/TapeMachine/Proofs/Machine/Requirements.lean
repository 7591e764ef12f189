import TapeMachine.Proofs.Machine.Reading
/-!
# What a document must meet

The requirements on a document, in one list and in the order in which they are looked at: those on its parts, then
those on each entry, and only when all entries are read those on the names that the rules use.

* `Document`, `Document.In` : the parts of a document whose sets and rules are lists;
* `Requirement`, `Requirement.Met`, `Document.requirements` : the requirements, as conditions on texts;
* `Fault`, `DefinitionError.fault`, `Requirement.fault` : the kinds of errors, and the one of each requirement;
* `Document.Settles` : results that go by requirements;
* `Document.Settles.bind` : **what is done one after the other settles the requirements one after the other**;
* `Document.Settles.isOk_iff`, `Document.Settles.error_of_unmet` : there is a value when all requirements are met, and
  otherwise the error of the first one that is not.
-/

namespace TapeMachine

/-! ## 1. Documents -/

/-- The parts of a document whose sets and rules are lists of any values. -/
structure Document where
  alphabet : List Json
  inputSymbols : List Json
  blank : Json
  states : List Json
  initial : Json
  finals : List Json
  entries : List Json

/-- The value of a field of an entry; what is missing counts as `null`. -/
def Rule.field (entry : Json) (name : String) : Json :=
  match entry with
  | .obj fields => Draft.part fields name
  | _ => .null

/-- Whether an entry has a field. -/
def Rule.hasField (entry : Json) (name : String) : Bool :=
  match entry with
  | .obj fields => Fields.has fields name
  | _ => false

namespace Document

variable (doc : Document)

/-- An object has all seven fields, and they are the parts of the document. It may have more. -/
structure In (fields : Fields) : Prop where
  alphabet : fields.get? "alphabet" = some (.arr doc.alphabet)
  inputSymbols : fields.get? "input_symbols" = some (.arr doc.inputSymbols)
  blank : fields.get? "blank_symbol" = some doc.blank
  states : fields.get? "states" = some (.arr doc.states)
  initial : fields.get? "initial_state" = some doc.initial
  finals : fields.get? "final_states" = some (.arr doc.finals)
  entries : fields.get? "transitions" = some (.arr doc.entries)

/-- The symbols and states of a document as texts. -/
def sheet : Sheet :=
  { alphabet := doc.alphabet.map Json.display, inputSymbols := doc.inputSymbols.map Json.display
    blank := doc.blank.display, states := doc.states.map Json.display, initial := doc.initial.display
    finals := doc.finals.map Json.display }

/-- The entry of a number. -/
def entry (i : Nat) : Json :=
  doc.entries.getD i .null

/-- The text of a field of an entry. -/
def text (i : Nat) (field : String) : String :=
  (Rule.field (doc.entry i) field).display

end Document

/-! ## 2. Requirements -/

/-- The letters that name a movement; a long s counts as an s. -/
def Direction.letters : List Char :=
  ['L', 'l', 'R', 'r', 'S', 's', '\u017f', 'N', 'n']

/-- Whether a value names a movement: `null` does, and every text that is one of the letters between blanks. -/
def Direction.Named (value : Json) : Prop :=
  value = .null ∨ ∃ letter ∈ letters, Text.trimChars value.display.toList = [letter]

/-- The kinds of definition errors. -/
inductive Fault where
  | malformed
  | missingField
  | wideSymbol
  | blankNotInAlphabet
  | unknownSymbol
  | blankInInput
  | initialNotInStates
  | finalNotInStates
  | unknownDirection
  | duplicateRule
  | unknownState
  deriving DecidableEq, Repr

/-- The kind of a definition error. -/
def DefinitionError.fault : DefinitionError → Fault
  | .missingFields _ | .ruleMissingFields _ _ => .missingField
  | .rulesNotList | .ruleNotObject _ _ => .malformed
  | .wideSymbols _ => .wideSymbol
  | .blankNotInAlphabet _ => .blankNotInAlphabet
  | .inputNotInAlphabet _ | .unknownSymbol _ _ => .unknownSymbol
  | .blankInInput _ => .blankInInput
  | .initialNotInStates _ => .initialNotInStates
  | .finalsNotInStates _ => .finalNotInStates
  | .unknownDirection _ => .unknownDirection
  | .duplicateRule _ _ => .duplicateRule
  | .unknownState _ _ => .unknownState

/-- What a document must meet: in its parts, in each of its entries, and in the names that each rule uses. -/
inductive Requirement where
  | oneCharacter
  | blankInAlphabet
  | inputInAlphabet
  | blankNotInput
  | initialInStates
  | finalsInStates
  | object (i : Nat)
  | complete (i : Nat)
  | movement (i : Nat)
  | newKey (i : Nat)
  | knownStates (i : Nat)
  | knownSymbols (i : Nat)
  deriving DecidableEq, Repr

namespace Requirement

/-- **When a document meets a requirement.** -/
def Met (doc : Document) : Requirement → Prop
  | oneCharacter => ∀ t ∈ doc.sheet.alphabet ++ doc.sheet.inputSymbols ++ [doc.sheet.blank], t.length = 1
  | blankInAlphabet => doc.sheet.blank ∈ doc.sheet.alphabet
  | inputInAlphabet => ∀ t ∈ doc.sheet.inputSymbols, t ∈ doc.sheet.alphabet
  | blankNotInput => doc.sheet.blank ∉ doc.sheet.inputSymbols
  | initialInStates => doc.sheet.initial ∈ doc.sheet.states
  | finalsInStates => ∀ q ∈ doc.sheet.finals, q ∈ doc.sheet.states
  | object i => (doc.entry i).shape = .obj
  | complete i => ∀ field ∈ ["from_state", "read_symbol", "write_symbol", "next_state"],
      Rule.hasField (doc.entry i) field = true
  | movement i => Direction.Named (Rule.field (doc.entry i) "move_to")
  | newKey i => ∀ j < i,
      ¬ (doc.text j "from_state" = doc.text i "from_state" ∧ doc.text j "read_symbol" = doc.text i "read_symbol")
  | knownStates i => doc.text i "from_state" ∈ doc.sheet.states ∧ doc.text i "next_state" ∈ doc.sheet.states
  | knownSymbols i => doc.text i "read_symbol" ∈ doc.sheet.alphabet ∧ doc.text i "write_symbol" ∈ doc.sheet.alphabet

instance instDecidableNamed (value : Json) : Decidable (Direction.Named value) :=
  -- the letters are gone through, not all characters
  have : Decidable (∃ letter ∈ Direction.letters, Text.trimChars value.display.toList = [letter]) :=
    List.decidableBEx _ _
  inferInstanceAs (Decidable (_ ∨ _))

instance instDecidableMet (doc : Document) : (r : Requirement) → Decidable (r.Met doc)
  | oneCharacter => inferInstanceAs (Decidable (∀ t ∈ _, _))
  | blankInAlphabet => inferInstanceAs (Decidable (_ ∈ _))
  | inputInAlphabet => inferInstanceAs (Decidable (∀ t ∈ _, _))
  | blankNotInput => inferInstanceAs (Decidable (¬ _))
  | initialInStates => inferInstanceAs (Decidable (_ ∈ _))
  | finalsInStates => inferInstanceAs (Decidable (∀ t ∈ _, _))
  | object _ => inferInstanceAs (Decidable (_ = _))
  | complete _ => inferInstanceAs (Decidable (∀ field ∈ _, _))
  | movement _ => inferInstanceAs (Decidable (Direction.Named _))
  | newKey i => inferInstanceAs (Decidable (∀ j < i, _))
  | knownStates _ => inferInstanceAs (Decidable (_ ∧ _))
  | knownSymbols _ => inferInstanceAs (Decidable (_ ∧ _))

/-- The kind of error that a document is refused with when it does not meet a requirement. -/
def fault : Requirement → Fault
  | oneCharacter => .wideSymbol
  | blankInAlphabet => .blankNotInAlphabet
  | inputInAlphabet => .unknownSymbol
  | blankNotInput => .blankInInput
  | initialInStates => .initialNotInStates
  | finalsInStates => .finalNotInStates
  | object _ => .malformed
  | complete _ => .missingField
  | movement _ => .unknownDirection
  | newKey _ => .duplicateRule
  | knownStates _ => .unknownState
  | knownSymbols _ => .unknownSymbol

/-- The requirements on an entry, as far as it is looked at when it is read. -/
def ofEntry (i : Nat) : List Requirement :=
  [object i, complete i, movement i, newKey i]

/-- The requirements on the names that a rule uses. -/
def ofRule (i : Nat) : List Requirement :=
  [knownStates i, knownSymbols i]

end Requirement

/-- **The requirements on a document**, in their order: an entry is looked at in full before the next one, and no
    rule is asked for the names it uses before all entries are read. -/
def Document.requirements (doc : Document) : List Requirement :=
  [.oneCharacter, .blankInAlphabet, .inputInAlphabet, .blankNotInput, .initialInStates, .finalsInStates] ++
    ((List.range doc.entries.length).flatMap Requirement.ofEntry ++
      (List.range doc.entries.length).flatMap Requirement.ofRule)

/-! ## 3. Results that go by requirements -/

/-- **A result settles requirements**: it is a value with a property when the document meets them all, and otherwise
    an error of the kind of the first one that is not met. -/
inductive Document.Settles {α : Type} (doc : Document) (P : α → Prop) :
    List Requirement → Except DefinitionError α → Prop where
  | accepted {x : α} (hx : P x) : Settles doc P [] (.ok x)
  | met {r : Requirement} {rest : List Requirement} {result : Except DefinitionError α} (h : r.Met doc)
      (hrest : Settles doc P rest result) : Settles doc P (r :: rest) result
  | unmet {r : Requirement} {rest : List Requirement} {e : DefinitionError} (h : ¬ r.Met doc)
      (hfault : e.fault = r.fault) : Settles doc P (r :: rest) (.error e)

namespace Document.Settles

variable {α β : Type} {doc : Document} {P : α → Prop} {Q : β → Prop} {before after : List Requirement}

/-- **What is done one after the other settles the requirements one after the other.** -/
theorem bind {x : Except DefinitionError α} {f : α → Except DefinitionError β} (hx : doc.Settles P before x)
    (hf : ∀ a, P a → doc.Settles Q after (f a)) : doc.Settles Q (before ++ after) (x >>= f) := by
  induction hx with
  | accepted hx => exact hf _ hx
  | met h _ ih => exact .met h ih
  | unmet h hfault => exact .unmet h hfault

/-- A value has the property. -/
theorem property {x : α} (hx : doc.Settles P before (.ok x)) : P x := by
  generalize hresult : (.ok x : Except DefinitionError α) = result at hx
  induction hx with
  | accepted hx =>
      cases hresult
      exact hx
  | met _ _ ih => exact ih hresult
  | unmet => cases hresult

/-- An error stays one, of whatever type the value would have been. -/
theorem of_error {e : DefinitionError} (hx : doc.Settles P before (.error e)) : doc.Settles Q before (.error e) := by
  generalize hresult : (.error e : Except DefinitionError α) = result at hx
  induction hx with
  | accepted => cases hresult
  | met h _ ih => exact .met h (ih hresult)
  | unmet h hfault =>
      cases hresult
      exact .unmet h hfault

/-- An error stays one, whatever else is required. -/
theorem append_error {e : DefinitionError} (hx : doc.Settles P before (.error e)) :
    doc.Settles P (before ++ after) (.error e) :=
  (hx.of_error (Q := fun _ : α => False)).bind (f := fun _ => .error e) fun _ hfalse => hfalse.elim

/-- There is a value exactly when all requirements are met. -/
theorem isOk_iff {x : Except DefinitionError α} (hx : doc.Settles P before x) :
    (∃ a, x = .ok a ∧ P a) ↔ ∀ r ∈ before, r.Met doc := by
  induction hx with
  | accepted hx => simpa using hx
  | met h _ ih => simp [ih, h]
  | unmet h => simp [h]

/-- **The error is the one of the first requirement that is not met.** -/
theorem error_of_unmet {x : Except DefinitionError α} {r : Requirement}
    (hx : doc.Settles P (before ++ r :: after) x) (hbefore : ∀ q ∈ before, q.Met doc) (hr : ¬ r.Met doc) :
    ∃ e, x = .error e ∧ e.fault = r.fault := by
  induction before with
  | nil =>
      cases hx with
      | met h => exact absurd h hr
      | unmet _ hfault => exact ⟨_, rfl, hfault⟩
  | cons q before ih =>
      cases hx with
      | met _ hrest => exact ih hrest fun q hq => hbefore q (List.mem_cons_of_mem _ hq)
      | unmet h => exact absurd (hbefore q List.mem_cons_self) h

end Document.Settles

end TapeMachine
