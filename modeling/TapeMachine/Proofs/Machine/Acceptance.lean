import TapeMachine.Proofs.Machine.Requirements
/-!
# Which documents are accepted

Every stage of the reading of a document settles its own requirements: a movement, an entry, a table, the names of its
rules, the parts. Put together, a document gives a definition when it meets all requirements, and otherwise it is
refused for the first one that it does not meet.

* `Document.settles_ofJson_entry`, `Document.settles_add`, `Document.settles_fill` : **a table is filled entry by
  entry**: a repeated key is found before the next entry is looked at;
* `Document.settles_refusals` : the names that the rules use, rule by rule;
* `Definition.settles_ofJson` : **the definition in a document**: its parts, then its entries, then its names;
* `Definition.refused_for_first_unmet` : **a document is accepted exactly when it meets all requirements, and
  refused for the first one that it does not meet.**
-/

namespace TapeMachine

/-! ## 1. Movements and entries -/

/-- A letter names a movement exactly when it is one of the letters. -/
theorem Direction.ofLetter?_eq_none_iff {c : Char} : ofLetter? c = none ↔ c ∉ letters := by
  unfold ofLetter?
  split <;> simp_all [letters]

/-- A word names a movement exactly when it is one of the letters. -/
theorem Direction.ofWord?_eq_none_iff {word : List Char} :
    ofWord? word = none ↔ ∀ letter ∈ letters, word ≠ [letter] := by
  unfold ofWord?
  split
  · rename_i c
    rw [ofLetter?_eq_none_iff]
    constructor
    · rintro hc letter hletter hword
      cases hword
      exact hc hletter
    · exact fun h hc => h c hc rfl
  · rename_i hword
    exact iff_of_true rfl fun letter _ => hword letter

/-- **A movement is read exactly when it is named.** -/
theorem Direction.ofJson_cases (value : Json) :
    (Named value ∧ ∃ d, ofJson value = .ok d) ∨
      ¬ Named value ∧ ofJson value = .error (.unknownDirection value) := by
  unfold ofJson
  split
  · exact .inl ⟨.inl rfl, .stay, rfl⟩
  · rename_i hnull
    split
    · rename_i d hword
      have hsome : ofWord? (Text.trimChars value.display.toList) ≠ none := by simp [hword]
      simp only [ne_eq, ofWord?_eq_none_iff, not_forall, not_not] at hsome
      obtain ⟨letter, hletter, h⟩ := hsome
      exact .inl ⟨.inr ⟨letter, hletter, h⟩, d, rfl⟩
    · rename_i hword
      refine .inr ⟨?_, rfl⟩
      rintro (h | ⟨letter, hletter, h⟩)
      · exact hnull h
      · exact ofWord?_eq_none_iff.mp hword letter hletter h

/-- The rule that an entry describes; its movement is read from the entry, and none counts as staying. -/
def Rule.described (entry : Json) : Rule String :=
  { state := (field entry "from_state").display, read := (field entry "read_symbol").display
    write := (field entry "write_symbol").display
    move := (Direction.ofJson (field entry "move_to")).toOption.getD .stay
    next := (field entry "next_state").display }

/-- An object with all fields of a rule is read as the rule that it describes, if its movement can be read. -/
theorem Rule.ofJson_obj (index : Option Json) (fields : Fields) : ofJson index (.obj fields) =
    let missing := requiredFields.filter fun name => !Fields.has fields name
    if missing.isEmpty then do
      let move ← Direction.ofJson (field (.obj fields) "move_to")
      return { described (.obj fields) with move := move }
    else .error (.ruleMissingFields index missing) := rfl

namespace Document

variable (doc : Document) (i : Nat)

/-- **The reading of a movement.** -/
theorem settles_direction : doc.Settles (fun move => move = (Rule.described (doc.entry i)).move) [.movement i]
    (Direction.ofJson (Rule.field (doc.entry i) "move_to")) := by
  unfold Rule.described
  obtain ⟨hnamed, d, hd⟩ | ⟨hnamed, hd⟩ := Direction.ofJson_cases (Rule.field (doc.entry i) "move_to")
  · rw [hd]
    exact .met hnamed (.accepted rfl)
  · rw [hd]
    exact .unmet hnamed rfl

/-- **The reading of an entry.** -/
theorem settles_ofJson_entry (index : Option Json) :
    doc.Settles (fun rule => rule = Rule.described (doc.entry i)) [.object i, .complete i, .movement i]
      (Rule.ofJson index (doc.entry i)) := by
  have hmove := doc.settles_direction i
  cases hentry : doc.entry i with
  | obj fields =>
      refine .met (by rw [Requirement.Met, hentry]; rfl) ?_
      have hcomplete : (Requirement.complete i).Met doc ↔
          (Rule.requiredFields.filter fun name => !Fields.has fields name).isEmpty = true := by
        simp [Requirement.Met, hentry, Rule.hasField, Rule.requiredFields]
      rw [hentry] at hmove
      simp only [Rule.ofJson_obj]
      split
      · rename_i hmissing
        exact .met (hcomplete.mpr hmissing) (hmove.bind fun move h => .accepted (by rw [h]))
      · rename_i hmissing
        exact .unmet (mt hcomplete.mp hmissing) rfl
  | _ =>
      refine .unmet ?_ rfl
      rw [Requirement.Met, hentry]
      simp [Json.shape]

/-- **The adding of a rule**, once the entries before it are read. -/
theorem settles_add {table : RuleTable String}
    (htable : table.rules = (List.range i).map fun j => Rule.described (doc.entry j)) :
    doc.Settles (fun more : RuleTable String =>
        more.rules = (List.range (i + 1)).map fun j => Rule.described (doc.entry j))
      [.newKey i] (table.add (Rule.described (doc.entry i))) := by
  have hfree : (Requirement.newKey i).Met doc ↔
      (Rule.described (doc.entry i)).key ∉ table.rules.map Rule.key := by
    simp [Requirement.Met, htable, Rule.key, Rule.described, text]
  unfold RuleTable.add RuleTable.insert?
  by_cases hkey : (Rule.described (doc.entry i)).key ∈ table.rules.map Rule.key
  · rw [dif_pos hkey]
    exact .unmet (fun h => hfree.mp h hkey) rfl
  · rw [dif_neg hkey]
    refine .met (hfree.mpr hkey) (.accepted ?_)
    simp [List.range_succ, htable]

/-- **A table is filled entry by entry.** -/
theorem settles_fill (k : Nat) :
    doc.Settles (fun table : RuleTable String =>
        table.rules = (List.range k).map fun i => Rule.described (doc.entry i))
      ((List.range k).flatMap Requirement.ofEntry)
      (RuleTable.fill ((List.range k).map fun (i : Nat) => Rule.ofJson (some (.int i)) (doc.entry i))) := by
  induction k with
  | zero => exact .accepted rfl
  | succ k ih =>
      have hfill : RuleTable.fill ((List.range (k + 1)).map fun (i : Nat) =>
          Rule.ofJson (some (.int i)) (doc.entry i)) =
          RuleTable.fill ((List.range k).map fun (i : Nat) => Rule.ofJson (some (.int i)) (doc.entry i)) >>=
            fun table => table.addRead (Rule.ofJson (some (.int k)) (doc.entry k)) := by
        simp [RuleTable.fill, List.range_succ]
      rw [hfill, List.range_succ, List.flatMap_append]
      refine ih.bind fun table htable => ?_
      have hnext : doc.Settles _ [.object k, .complete k, .movement k, .newKey k] _ :=
        (doc.settles_ofJson_entry k (some (.int k))).bind fun rule hrule => hrule ▸ doc.settles_add k htable
      simpa [RuleTable.addRead, Requirement.ofEntry, List.range_succ] using hnext

/-- The entries of a document are those of its numbers. -/
theorem map_range_entry {α : Type} (f : Json → α) :
    (List.range doc.entries.length).map (fun i => f (doc.entry i)) = doc.entries.map f := by
  refine List.ext_getElem (by simp) fun i hi _ => ?_
  have hlt : i < doc.entries.length := by simpa using hi
  simp [entry, hlt]

/-- The entries of a document are read by their numbers. -/
theorem ofItems_entries : Rule.ofItems doc.entries =
    (List.range doc.entries.length).map fun (i : Nat) => Rule.ofJson (some (.int i)) (doc.entry i) := by
  refine List.ext_getElem (by simp [Rule.ofItems]) fun i hi _ => ?_
  have hlt : i < doc.entries.length := by simpa [Rule.ofItems] using hi
  simp [Rule.ofItems, entry, hlt]

/-! ## 2. Names and parts -/

/-- A value, unless there is a reason to refuse it. -/
def unlessRefused {α : Type} (x : α) : Option DefinitionError → Except DefinitionError α
  | some e => .error e
  | none => .ok x

section Names

variable {α : Type} {P : α → Prop} {x : α}

/-- **The names that a rule uses.** -/
theorem settles_refusal (hx : P x) :
    doc.Settles P (Requirement.ofRule i) (unlessRefused x (doc.sheet.refusal? (Rule.described (doc.entry i)))) := by
  unfold Sheet.refusal?
  split
  · rename_i hstate
    exact .unmet (fun h => hstate h.1) rfl
  · rename_i hstate
    split
    · rename_i hnext
      exact .unmet (fun h => hnext h.2) rfl
    · rename_i hnext
      refine .met ⟨not_not.mp hstate, not_not.mp hnext⟩ ?_
      split
      · rename_i hread
        exact .unmet (fun h => hread h.1) rfl
      · rename_i hread
        split
        · rename_i hwrite
          exact .unmet (fun h => hwrite h.2) rfl
        · rename_i hwrite
          exact .met ⟨not_not.mp hread, not_not.mp hwrite⟩ (.accepted hx)

/-- **The names that rules use**, rule by rule. -/
theorem settles_refusals (hx : P x) (numbers : List Nat) :
    doc.Settles P (numbers.flatMap Requirement.ofRule)
      (unlessRefused x ((numbers.map fun i => Rule.described (doc.entry i)).findSome? doc.sheet.refusal?)) := by
  induction numbers with
  | nil => exact .accepted hx
  | cons i numbers ih =>
      rw [List.flatMap_cons, List.map_cons, List.findSome?_cons]
      have hfirst := doc.settles_refusal i (P := fun _ : Unit => True) (x := ()) trivial
      have hboth := hfirst.bind fun _ _ => ih
      cases hrefusal : doc.sheet.refusal? (Rule.described (doc.entry i)) with
      | some e => rwa [hrefusal] at hboth
      | none => rwa [hrefusal] at hboth

end Names

/-- **The parts**, whatever is required after them. -/
theorem settles_of_fits {α : Type} {P : α → Prop} {rest : List Requirement} {result : Except DefinitionError α}
    (h : doc.sheet.Fits) (hrest : doc.Settles P rest result) :
    doc.Settles P ([.oneCharacter, .blankInAlphabet, .inputInAlphabet, .blankNotInput, .initialInStates,
      .finalsInStates] ++ rest) result :=
  .met h.narrow <| .met h.blank_mem <| .met h.input_subset <| .met h.blank_not_input <| .met h.initial_mem <|
    .met h.finals_subset hrest

/-- The draft in the fields of an object. -/
theorem reads_ofFields {doc : Document} {fields : Fields} {name : Json} (h : doc.In fields) :
    (Draft.ofFields fields name).Reads doc.sheet :=
  { alphabet := by simp [Draft.ofFields, Draft.part, h.alphabet]; rfl
    inputSymbols := by simp [Draft.ofFields, Draft.part, h.inputSymbols]; rfl
    blank := by simp [Draft.ofFields, Draft.part, h.blank]; rfl
    states := by simp [Draft.ofFields, Draft.part, h.states]; rfl
    initial := by simp [Draft.ofFields, Draft.part, h.initial]; rfl
    finals := by simp [Draft.ofFields, Draft.part, h.finals]; rfl }

end Document

namespace Definition

open Document

variable {doc : Document} {fields : Fields}

/-- An object with the parts of a document is read as the draft in its fields. -/
theorem ofJson_of_in (h : doc.In fields) (name : Json) :
    ofJson (.obj fields) name = create (Draft.ofFields fields name) := by
  refine ofJson_of_ok ?_
  have hentries : Draft.part fields "transitions" = .arr doc.entries := by simp [Draft.part, h.entries]
  have hall : ∀ field ∈ Draft.requiredFields, Fields.has fields field = true := by
    simp [Draft.requiredFields, Fields.has_iff_isSome_get?, h.alphabet, h.inputSymbols, h.blank, h.states,
      h.initial, h.finals, h.entries]
  have hto := Draft.readTo_ofJson (.obj fields) name
  generalize Draft.ofJson (.obj fields) name = result at hto ⊢
  cases hto with
  | holdsNothing hscalar => simp [Json.IsScalar, Json.shape] at hscalar
  | incomplete missing hmissing hne =>
      obtain ⟨field, hfield⟩ := List.exists_mem_of_ne_nil missing hne
      obtain ⟨hrequired, hlacks⟩ := (hmissing field).mp hfield
      simp [Json.has, hall field hrequired] at hlacks
  | nameless hshape => simp [Json.shape] at hshape
  | rulesNotList _ hvalue _ hlist =>
      cases hvalue
      rw [hentries] at hlist
      exact absurd rfl hlist
  | read _ hvalue =>
      cases hvalue
      rfl

/-- The table of a document is filled with its entries. -/
theorem table?_of_in (h : doc.In fields) (name : Json) : (Draft.ofFields fields name).rules.table? =
    (RuleTable.fill (Rule.ofItems doc.entries)).mapError .definition := by
  have hentries : (Draft.ofFields fields name).rules = .entries (.arr doc.entries) := by
    simp [Draft.ofFields, Draft.part, h.entries]
  rw [hentries]
  rfl

section Filled

variable {name : Json} {table : RuleTable String} (h : doc.In fields)
  (htable : (Draft.ofFields fields name).rules.table? = .ok table)
include h htable

theorem fill_of_table? : RuleTable.fill (Rule.ofItems doc.entries) = .ok table := by
  rwa [table?_of_in h, mapError_eq_ok_iff] at htable

/-- Once all entries are read, their rules are those that the entries describe. -/
theorem rules_of_table? : table.rules = doc.entries.map Rule.described := by
  have hfill := doc.settles_fill doc.entries.length
  rw [← doc.ofItems_entries, fill_of_table? h htable] at hfill
  rw [hfill.property, doc.map_range_entry]

/-- Once all entries are read, what is left to look at are the names that their rules use. -/
theorem settles_names {α : Type} {P : α → Prop} {x : α} (hx : P x) : doc.Settles P
    ((List.range doc.entries.length).flatMap Requirement.ofEntry ++
      (List.range doc.entries.length).flatMap Requirement.ofRule)
    (unlessRefused x (table.rules.findSome? doc.sheet.refusal?)) := by
  have hfill := doc.settles_fill doc.entries.length
  rw [← doc.ofItems_entries, fill_of_table? h htable] at hfill
  rw [hfill.property]
  exact hfill.bind fun _ _ => doc.settles_refusals hx _

end Filled

/-- What the definition of a document holds: its parts, and one rule for each entry. -/
def Matches (d : Definition) (doc : Document) (name : Json) : Prop :=
  ∃ table : RuleTable String, table.rules = doc.entries.map Rule.described ∧ d.Holds doc.sheet table name

/-- **The definition in a document.** -/
theorem settles_ofJson (h : doc.In fields) (name : Json) :
    ∃ result : Except DefinitionError Definition, ofJson (.obj fields) name = result.mapError .definition ∧
      doc.Settles (fun d => d.Matches doc ((fields.get? "name").getD name)) doc.requirements result := by
  have hfill := doc.settles_fill doc.entries.length
  rw [← doc.ofItems_entries] at hfill
  rw [ofJson_of_in h]
  have hreads : (Draft.ofFields fields name).Reads doc.sheet := reads_ofFields h
  have hto := createTo_create hreads
  generalize create (Draft.ofFields fields name) = result at hto ⊢
  cases hto with
  | wide _ _ hnarrow => exact ⟨.error _, rfl, .unmet hnarrow rfl⟩
  | blankUnknown hnarrow hblank => exact ⟨.error _, rfl, .met hnarrow (.unmet hblank rfl)⟩
  | inputUnknown _ _ hnarrow hblank hinput =>
      exact ⟨.error _, rfl, .met hnarrow <| .met hblank (.unmet hinput rfl)⟩
  | blankInput hnarrow hblank hinput hfree =>
      exact ⟨.error _, rfl, .met hnarrow <| .met hblank <| .met hinput (.unmet (not_not_intro hfree) rfl)⟩
  | initialUnknown hnarrow hblank hinput hfree hinitial =>
      exact ⟨.error _, rfl, .met hnarrow <| .met hblank <| .met hinput <| .met hfree (.unmet hinitial rfl)⟩
  | finalsUnknown _ _ hnarrow hblank hinput hfree hinitial hfinals =>
      exact ⟨.error _, rfl, .met hnarrow <| .met hblank <| .met hinput <| .met hfree <| .met hinitial
        (.unmet hfinals rfl)⟩
  | tableRefused e hfits htable =>
      rw [table?_of_in h, mapError_eq_error_iff] at htable
      obtain ⟨f, hf, rfl⟩ := htable
      rw [hf] at hfill
      exact ⟨.error f, rfl, doc.settles_of_fits hfits hfill.append_error.of_error⟩
  | ruleRefused table e hfits htable hrefusal =>
      have hsettles := settles_names h htable (x := ()) (P := fun _ => True) trivial
      rw [hrefusal] at hsettles
      exact ⟨.error e, rfl, doc.settles_of_fits hfits hsettles.of_error⟩
  | created table d hfits htable hrefusal hd =>
      have hsettles := settles_names h htable (x := d) (P := fun d => d.Matches doc ((fields.get? "name").getD name))
        ⟨table, rules_of_table? h htable, hd⟩
      rw [hrefusal] at hsettles
      exact ⟨.ok d, rfl, doc.settles_of_fits hfits hsettles⟩

/-- A document that meets all requirements gives a definition of its parts and rules. -/
theorem exists_matches_of_met (h : doc.In fields) (name : Json) (hall : ∀ r ∈ doc.requirements, r.Met doc) :
    ∃ d, ofJson (.obj fields) name = .ok d ∧ d.Matches doc ((fields.get? "name").getD name) := by
  obtain ⟨result, hresult, hsettles⟩ := settles_ofJson h name
  obtain ⟨d, rfl, hd⟩ := hsettles.isOk_iff.mpr hall
  exact ⟨d, hresult, hd⟩

/-- **A document is accepted exactly when it meets all requirements, and otherwise it is refused for the first one
    that it does not meet.** -/
theorem refused_for_first_unmet (h : doc.In fields) (name : Json) :
    ((∃ d, ofJson (.obj fields) name = .ok d) ↔ ∀ r ∈ doc.requirements, r.Met doc) ∧
      ∀ before r after, doc.requirements = before ++ r :: after → (∀ q ∈ before, q.Met doc) → ¬ r.Met doc →
        ∃ e, ofJson (.obj fields) name = .error (.definition e) ∧ e.fault = r.fault := by
  obtain ⟨result, hresult, hsettles⟩ := settles_ofJson h name
  refine ⟨⟨?_, fun hall => ?_⟩, fun before r after hrequirements hbefore hr => ?_⟩
  · rintro ⟨d, hd⟩
    rw [hresult, mapError_eq_ok_iff] at hd
    subst hd
    exact hsettles.isOk_iff.mp ⟨d, rfl, hsettles.property⟩
  · obtain ⟨d, hd, _⟩ := exists_matches_of_met h name hall
    exact ⟨d, hd⟩
  · rw [hrequirements] at hsettles
    obtain ⟨e, rfl, he⟩ := hsettles.error_of_unmet hbefore hr
    exact ⟨e, hresult, he⟩

/-- A document whose second entry is for the same state and symbol as its first one, and whose third is no object. -/
def doubled : Document :=
  let entry : Json := .obj [("from_state", .str "q"), ("read_symbol", .str "0"), ("write_symbol", .str "1"),
    ("move_to", .str "r "), ("next_state", .str "q")]
  { alphabet := [.int 0, .str "1", .str "B"], inputSymbols := [.str "0"], blank := .str "B", states := [.str "q"]
    initial := .str "q", finals := [], entries := [entry, entry, .null] }

/-- An entry is looked at in full before the next one. -/
theorem refused_for_first_unmet_doubled :
    ∃ fields, doubled.In fields ∧
      ∃ e, ofJson (.obj fields) .null = .error (.definition e) ∧ e.fault = .duplicateRule := by
  have h : doubled.In [("alphabet", .arr doubled.alphabet), ("input_symbols", .arr doubled.inputSymbols),
      ("blank_symbol", doubled.blank), ("states", .arr doubled.states), ("initial_state", doubled.initial),
      ("final_states", .arr doubled.finals), ("transitions", .arr doubled.entries)] :=
    ⟨rfl, rfl, rfl, rfl, rfl, rfl, rfl⟩
  refine ⟨_, h, (refused_for_first_unmet h .null).2
    [.oneCharacter, .blankInAlphabet, .inputInAlphabet, .blankNotInput, .initialInStates, .finalsInStates,
      .object 0, .complete 0, .movement 0, .newKey 0, .object 1, .complete 1, .movement 1] (.newKey 1)
    _ rfl ?_ ?_⟩
  · decide +kernel
  · exact fun hnew => hnew 0 Nat.zero_lt_one ⟨rfl, rfl⟩

end Definition

end TapeMachine
