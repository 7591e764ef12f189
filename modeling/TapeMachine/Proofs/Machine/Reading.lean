import TapeMachine.Proofs.Machine.Creation
/-!
# How a document is read

A document may be any value at all. It is asked for its fields, and its sets for their items, before anything is
known of their shapes; so two kinds of errors can come of it, and this is where they part.

* `ReadTo`, `readTo_ofJson` : **everything that can come of a value that is read as a document**;
* `Draft.Unusable` : the values that are used in a way that their shapes do not allow;
* `Definition.refused_unless_unusable` : **a value that is not unusable gives a definition or a definition error**,
  and every unusable one gives an error of another kind.
-/

namespace TapeMachine

/-! ## 1. Values that hold nothing -/

/-- Whether a value is neither a text nor a list nor an object: it has no items and holds no names. -/
def Json.IsScalar (value : Json) : Prop :=
  value.shape ∈ [Shape.null, .bool, .int, .float]

section Scalars

variable {value : Json}

/-- A value has items exactly when it is no scalar. -/
theorem Json.items_cases (value : Json) :
    (value.IsScalar ∧ value.items = .error (.noItems value.shape)) ∨
      ∃ items, ¬ value.IsScalar ∧ value.items = .ok items := by
  cases value <;> simp [IsScalar, shape, items]

/-- Asking for a name is an error exactly on scalars. -/
theorem Json.has_cases (value : Json) :
    (value.IsScalar ∧ ∀ name, value.has name = .error (.holdsNothing value.shape)) ∨
      ¬ value.IsScalar ∧ ∃ holds : String → Bool, ∀ name, value.has name = .ok (holds name) := by
  cases value with
  | str s => exact .inr ⟨by simp [IsScalar, shape], _, fun _ => rfl⟩
  | arr items => exact .inr ⟨by simp [IsScalar, shape], _, fun _ => rfl⟩
  | obj fields => exact .inr ⟨by simp [IsScalar, shape], _, fun _ => rfl⟩
  | _ => exact .inl ⟨by simp [IsScalar, shape], fun _ => rfl⟩

theorem Json.exists_arr_of_shape (h : value.shape = .arr) : ∃ items, value = .arr items := by
  cases value <;> simp [shape] at h ⊢

/-- The texts of a value are those of its items, and a scalar has none. -/
theorem Definition.texts_cases (value : Json) :
    (value.IsScalar ∧ texts value = .error (.noItems value.shape)) ∨
      ∃ items, ¬ value.IsScalar ∧ value.items = .ok items ∧ texts value = .ok (items.map Json.display) := by
  obtain ⟨hscalar, hitems⟩ | ⟨items, hscalar, hitems⟩ := value.items_cases
  · exact .inl ⟨hscalar, by rw [texts, hitems]; rfl⟩
  · exact .inr ⟨items, hscalar, hitems, by rw [texts, hitems]; rfl⟩

end Scalars

/-! ## 2. Documents -/

namespace Draft

/-- The value of a field; a field that is missing counts as `null`. -/
def part (fields : Fields) (name : String) : Json :=
  (fields.get? name).getD .null

/-- The draft in the fields of an object. -/
def ofFields (fields : Fields) (name : Json) : Draft :=
  { alphabet := part fields "alphabet", inputSymbols := part fields "input_symbols"
    blank := part fields "blank_symbol", states := part fields "states"
    initial := part fields "initial_state", finals := part fields "final_states"
    rules := .entries (part fields "transitions"), name := (fields.get? "name").getD name }

/-- **What can come of a value that is read as a document.** Names are looked for before the value is known to be
    an object: in a list and in a text they may be found as well. -/
inductive ReadTo (value name : Json) : Except Error Draft → Prop where
  | holdsNothing (h : value.IsScalar) : ReadTo value name (.error (.shape (.holdsNothing value.shape)))
  | incomplete (missing : List String)
      (hmissing : ∀ field, field ∈ missing ↔ field ∈ requiredFields ∧ value.has field = .ok false)
      (h : missing ≠ []) : ReadTo value name (.error (.definition (.missingFields missing)))
  | nameless (h : value.shape = .arr ∨ value.shape = .str)
      (hall : ∀ field ∈ requiredFields, value.has field = .ok true) :
      ReadTo value name (.error (.shape (.noNames value.shape)))
  | rulesNotList (fields : Fields) (hvalue : value = .obj fields)
      (hall : ∀ field ∈ requiredFields, fields.has field = true) (h : (part fields "transitions").shape ≠ .arr) :
      ReadTo value name (.error (.definition .rulesNotList))
  | read (fields : Fields) (hvalue : value = .obj fields)
      (hall : ∀ field ∈ requiredFields, fields.has field = true) (entries : List Json)
      (h : part fields "transitions" = .arr entries) : ReadTo value name (.ok (ofFields fields name))

/-- Filtering by a test that cannot fail. -/
theorem filterAuxM_ok {test : String → Except Error Bool} {holds : String → Bool}
    (h : ∀ name, test name = .ok (holds name)) (names found : List String) :
    names.filterAuxM test found = .ok ((names.filter holds).reverse ++ found) := by
  induction names generalizing found with
  | nil => rfl
  | cons name names ih =>
      rw [List.filterAuxM, h]
      show names.filterAuxM test (cond (holds name) (name :: found) found) = _
      rw [ih]
      cases hname : holds name <;> simp [hname]

/-- The names that a value lacks. -/
theorem missing_eq {value : Json} {holds : String → Bool} (h : ∀ name, value.has name = .ok (holds name)) :
    (requiredFields.filterM fun field => do return !(← (value.has field : Except ShapeError Bool)) :
      Except Error (List String)) = .ok (requiredFields.filter fun field => !holds field) := by
  have htest : ∀ field, (do return !(← (value.has field : Except ShapeError Bool)) : Except Error Bool) =
      .ok (!holds field) := fun field => by rw [h]; rfl
  rw [List.filterM, filterAuxM_ok htest]
  simp [bind, Except.bind, pure, Except.pure]

/-- **What reading a document does.** -/
theorem readTo_ofJson (value name : Json) : ReadTo value name (ofJson value name) := by
  obtain ⟨hscalar, hhas⟩ | ⟨hscalar, holds, hhas⟩ := value.has_cases
  · have hfirst : ofJson value name = .error (.shape (.holdsNothing value.shape)) := by
      unfold ofJson requiredFields
      rw [List.filterM, List.filterAuxM, hhas]
      rfl
    rw [hfirst]
    exact .holdsNothing hscalar
  · unfold ofJson
    rw [missing_eq hhas]
    simp only [bind, Except.bind]
    split
    · rename_i hmissing
      refine .incomplete _ (fun field => ?_) (by simpa using hmissing)
      rw [List.mem_filter, hhas, Except.ok.injEq, Bool.not_eq_true']
    · rename_i hmissing
      have hall : ∀ field ∈ requiredFields, value.has field = .ok true := by
        simpa [hhas] using hmissing
      cases value with
      | obj fields =>
          have hfields : ∀ field ∈ requiredFields, Fields.has fields field = true := fun field hfield =>
            Except.ok.inj (hall field hfield)
          split
          · rename_i h
            cases h
          · rename_i rules h
            cases h
            split
            · rename_i hlist
              exact .rulesNotList fields rfl hfields hlist
            · rename_i hlist
              obtain ⟨entries, hentries⟩ := Json.exists_arr_of_shape (not_not.mp hlist)
              exact .read fields rfl hfields entries hentries
      | arr items => exact .nameless (.inl rfl) hall
      | str text => exact .nameless (.inr rfl) hall
      | null => simp [Json.IsScalar, Json.shape] at hscalar
      | bool b => simp [Json.IsScalar, Json.shape] at hscalar
      | int n => simp [Json.IsScalar, Json.shape] at hscalar
      | float x => simp [Json.IsScalar, Json.shape] at hscalar

/-! ## 3. Unusable values -/

/-- **The values that are used as their shapes do not allow**: a scalar, which cannot be asked for names; a list or
    a text in which all the names of fields are found; an object whose rules are a list and one of whose sets is a
    scalar. -/
inductive Unusable : Json → Prop where
  | scalar {value : Json} (h : value.IsScalar) : Unusable value
  | nameless {value : Json} (h : value.shape = .arr ∨ value.shape = .str)
      (hall : ∀ field ∈ requiredFields, value.has field = .ok true) : Unusable value
  | scalarSet (fields : Fields) (hall : ∀ field ∈ requiredFields, fields.has field = true)
      (hrules : (part fields "transitions").shape = .arr) (set : String)
      (hset : set ∈ ["alphabet", "input_symbols", "states", "final_states"])
      (h : (part fields set).IsScalar) : Unusable (.obj fields)

section Unusable

variable {value : Json} {fields : Fields} {field : String}

theorem unusable_obj_iff : Unusable (.obj fields) ↔ (∀ field ∈ requiredFields, fields.has field = true) ∧
    (part fields "transitions").shape = .arr ∧
      ∃ set ∈ ["alphabet", "input_symbols", "states", "final_states"], (part fields set).IsScalar := by
  constructor
  · intro h
    cases h with
    | scalar h => simp [Json.IsScalar, Json.shape] at h
    | nameless h => simp [Json.shape] at h
    | scalarSet _ hall hrules set hset h => exact ⟨hall, hrules, set, hset, h⟩
  · rintro ⟨hall, hrules, set, hset, h⟩
    exact .scalarSet fields hall hrules set hset h

/-- A value that is asked for its fields and lacks one is refused before it is used any further. -/
theorem not_unusable_of_lacks (hfield : field ∈ requiredFields) (h : value.has field = .ok false) :
    ¬ Unusable value := by
  intro hunusable
  cases hunusable with
  | scalar hscalar =>
      obtain ⟨_, hhas⟩ | ⟨hno, _⟩ := value.has_cases
      · rw [hhas] at h
        cases h
      · exact hno hscalar
  | nameless _ hall =>
      rw [hall field hfield] at h
      cases h
  | scalarSet fields hall =>
      have hhas : Json.has (.obj fields) field = .ok (fields.has field) := rfl
      rw [hhas, hall field hfield] at h
      cases h

/-- The parts of an object are read exactly when none of its sets is a scalar. -/
theorem reads_ofFields_iff {name : Json} : (∃ s, (ofFields fields name).Reads s) ↔
    ∀ set ∈ ["alphabet", "input_symbols", "states", "final_states"], ¬ (part fields set).IsScalar := by
  have hset (value : Json) : (∃ texts, Definition.texts value = .ok texts) ↔ ¬ value.IsScalar := by
    obtain ⟨hscalar, htexts⟩ | ⟨items, hscalar, _, htexts⟩ := Definition.texts_cases value
    · simp [hscalar, htexts]
    · simp [hscalar, htexts]
  simp only [List.mem_cons, List.not_mem_nil, or_false, forall_eq_or_imp, forall_eq, ← hset]
  constructor
  · rintro ⟨s, hs⟩
    exact ⟨⟨_, hs.alphabet⟩, ⟨_, hs.inputSymbols⟩, ⟨_, hs.states⟩, ⟨_, hs.finals⟩⟩
  · rintro ⟨⟨alphabet, halphabet⟩, ⟨inputSymbols, hinput⟩, ⟨states, hstates⟩, ⟨finals, hfinals⟩⟩
    exact ⟨⟨alphabet, inputSymbols, _, states, _, finals⟩, halphabet, hinput, rfl, hstates, rfl, hfinals⟩

end Unusable

end Draft

namespace Definition

open Draft

/-- The definition in a document is the one of its draft. -/
theorem ofJson_of_error {value name : Json} {e : Error} (h : Draft.ofJson value name = .error e) :
    ofJson value name = .error e := by
  rw [ofJson, h]
  rfl

theorem ofJson_of_ok {value name : Json} {draft : Draft} (h : Draft.ofJson value name = .ok draft) :
    ofJson value name = create draft := by
  rw [ofJson, h]
  rfl

/-- A table that is read from entries is refused by definition errors only. -/
theorem table?_entries_error {entries : List Json} {e : Error}
    (h : (RuleSource.entries (.arr entries)).table? = .error e) : ∃ f, e = .definition f := by
  have hfill : (RuleSource.entries (.arr entries)).table? =
      (RuleTable.fill (Rule.ofItems entries)).mapError .definition := rfl
  rw [hfill, mapError_eq_error_iff] at h
  obtain ⟨f, _, hf⟩ := h
  exact ⟨f, hf.symm⟩

/-- Once its parts are read, a document with a list of rules is refused by definition errors only. -/
theorem create_of_reads {draft : Draft} {s : Sheet} {entries : List Json} (hs : draft.Reads s)
    (hrules : draft.rules = .entries (.arr entries)) :
    (∃ d, create draft = .ok d) ∨ ∃ f, create draft = .error (.definition f) := by
  have hto := createTo_create hs
  generalize create draft = result at hto ⊢
  cases hto with
  | tableRefused e _ h =>
      rw [hrules] at h
      obtain ⟨f, rfl⟩ := table?_entries_error h
      exact .inr ⟨f, rfl⟩
  | created table d => exact .inl ⟨d, rfl⟩
  | wide => exact .inr ⟨_, rfl⟩
  | blankUnknown => exact .inr ⟨_, rfl⟩
  | inputUnknown => exact .inr ⟨_, rfl⟩
  | blankInput => exact .inr ⟨_, rfl⟩
  | initialUnknown => exact .inr ⟨_, rfl⟩
  | finalsUnknown => exact .inr ⟨_, rfl⟩
  | ruleRefused => exact .inr ⟨_, rfl⟩

/-- **A value that is not unusable gives a definition or a definition error**, and every unusable one gives an error
    of another kind: it is a value of the wrong shape that no check has looked at. -/
theorem refused_unless_unusable (value name : Json) :
    (¬ Unusable value → (∃ d, ofJson value name = .ok d) ∨ ∃ f, ofJson value name = .error (.definition f)) ∧
      (Unusable value → ∃ f, ofJson value name = .error (.shape f)) := by
  have hto := readTo_ofJson value name
  generalize hresult : Draft.ofJson value name = result at hto
  cases hto with
  | holdsNothing h =>
      exact ⟨fun husable => absurd (.scalar h) husable, fun _ => ⟨_, ofJson_of_error hresult⟩⟩
  | incomplete missing hmissing h =>
      obtain ⟨field, hfield⟩ := List.exists_mem_of_ne_nil missing h
      obtain ⟨hrequired, hlacks⟩ := (hmissing field).mp hfield
      exact ⟨fun _ => .inr ⟨_, ofJson_of_error hresult⟩, fun hunusable =>
        absurd hunusable (not_unusable_of_lacks hrequired hlacks)⟩
  | nameless h hall =>
      exact ⟨fun husable => absurd (.nameless h hall) husable, fun _ => ⟨_, ofJson_of_error hresult⟩⟩
  | rulesNotList fields hvalue hall h =>
      subst hvalue
      exact ⟨fun _ => .inr ⟨_, ofJson_of_error hresult⟩, fun hunusable =>
        absurd (unusable_obj_iff.mp hunusable).2.1 h⟩
  | read fields hvalue hall entries h =>
      subst hvalue
      rw [ofJson_of_ok hresult]
      have hrules : (ofFields fields name).rules = .entries (.arr entries) := congrArg _ h
      constructor
      · intro husable
        have hs : ∃ s, (ofFields fields name).Reads s := reads_ofFields_iff.mpr fun set hset hscalar =>
          husable (unusable_obj_iff.mpr ⟨hall, by rw [h]; rfl, set, hset, hscalar⟩)
        obtain ⟨s, hs⟩ := hs
        exact create_of_reads hs hrules
      · intro hunusable
        obtain ⟨_, _, set, hset, hscalar⟩ := unusable_obj_iff.mp hunusable
        obtain hs | ⟨_, _, e, _, he⟩ := reads_or_refused (ofFields fields name)
        · exact absurd hscalar (reads_ofFields_iff.mp hs set hset)
        · exact ⟨e, he⟩

/-- **Not every value gives a definition or a definition error**: an object with all fields whose alphabet is `null`
    is asked for the items of its alphabet. -/
theorem exists_refused_otherwise :
    ¬ ∀ value name : Json, (∃ d, ofJson value name = .ok d) ∨ ∃ f, ofJson value name = .error (.definition f) := by
  intro hall
  have hnull : ofJson (.obj [("alphabet", .null), ("blank_symbol", .str "B"), ("input_symbols", .arr [.str "0"]),
      ("states", .arr [.str "q"]), ("initial_state", .str "q"), ("final_states", .arr []),
      ("transitions", .arr [])]) .null = .error (.shape (.noItems .null)) := rfl
  obtain ⟨d, hd⟩ | ⟨f, hf⟩ := hall _ .null
  · rw [hnull] at hd
    cases hd
  · rw [hnull] at hf
    cases hf

end Definition

end TapeMachine
