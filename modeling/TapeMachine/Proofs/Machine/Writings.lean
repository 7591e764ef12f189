import TapeMachine.Proofs.Run.Equality
import Mathlib.Data.List.Perm.Basic
/-!
# A machine does not depend on how it is written down

A draft can be written in many ways: its sets list their items in any order, and an item more than once, symbols and
states stand as values of any shape or as their texts, the rules are in any order, each movement has several spellings,
and the rules may be there as entries, as rules or as a table. All this makes no difference.

* `Draft.Rewritten` : what may be different in another writing of a draft;
* `Rule.ofJson_eq_ok_iff` : when an entry is read, and as which rule;
* `RuleSource.Rewritten.exists_perm` : **the rules of another writing are the same rules**;
* `Definition.holds_of_reads`, `Definition.exists_holds` : when a definition is made of a draft, and what it holds;
* `Definition.create_rewritten` : **another writing gives an equal machine, which runs alike, or none as well.**
-/

namespace TapeMachine

/-! ## 1. Other writings -/

/-- Whether a value stands for another one: it is the same, or its text. -/
def Json.Retold (v w : Json) : Prop :=
  w = v ∨ w = .str v.display

/-- Whether two lists have the same items, in whatever order and how often, up to being retold. -/
def Json.SameItems (v w : Json) : Prop :=
  ∃ items items', v = .arr items ∧ w = .arr items' ∧ (∀ x ∈ items, ∃ y ∈ items', x.Retold y) ∧
    ∀ y ∈ items', ∃ x ∈ items, x.Retold y

namespace Direction

/-- The letters that name a movement. -/
def spellings : Direction → List Char
  | .left => ['L', 'l']
  | .right => ['R', 'r']
  | .stay => ['S', 's', '\u017f', 'N', 'n']

/-- The ways to write a movement: its letters with blanks around them, and for none also `null` or nothing at all. -/
inductive Spelled : Direction → Option Json → Prop where
  | absent : Spelled .stay none
  | null : Spelled .stay (some .null)
  | letter {move : Direction} {c : Char} {before after : List Char} (hc : c ∈ move.spellings)
      (hbefore : ∀ b ∈ before, Text.isBlank b = true) (hafter : ∀ b ∈ after, Text.isBlank b = true) :
      Spelled move (some (.str (String.ofList (before ++ c :: after))))

/-- Whether a movement is left as it is or spelled in another way. -/
def Respelled (v w : Option Json) : Prop :=
  w = v ∨ ∃ move, Spelled move v ∧ Spelled move w

end Direction

/-- What may be different in another writing of an entry: its states and symbols, and the spelling of its movement. -/
inductive Rule.Rewritten : Json → Json → Prop where
  | refl (entry : Json) : Rewritten entry entry
  | obj {fields fields' : Fields}
      (htexts : ∀ name ∈ requiredFields, Option.Rel Json.Retold (Fields.get? fields name) (Fields.get? fields' name))
      (hmove : Direction.Respelled (Fields.get? fields "move_to") (Fields.get? fields' "move_to")) :
      Rewritten (.obj fields) (.obj fields')

/-- Whether entries are read as rules, one by one. -/
def Rule.Read (items : List Json) (rules : List (Rule String)) : Prop :=
  List.Forall₂ (fun entry rule => Rule.ofJson none entry = .ok rule) items rules

/-- What may be different in another writing of the rules: the entries and their order, or the rules that are read from
the entries stand there instead of them, as a list or as a table. -/
inductive RuleSource.Rewritten : RuleSource → RuleSource → Prop where
  | entries {items items' items'' : List Json} (hitems : List.Forall₂ Rule.Rewritten items items')
      (hperm : items'.Perm items'') : Rewritten (.entries (.arr items)) (.entries (.arr items''))
  | rules {items : List Json} {rules : List (Rule String)} (h : Rule.Read items rules) :
      Rewritten (.entries (.arr items)) (.rules rules)
  | table {items : List Json} {table : RuleTable String} (h : Rule.Read items table.rules) :
      Rewritten (.entries (.arr items)) (.table table)

/-- **What may be different in another writing of a draft.** -/
structure Draft.Rewritten (a b : Draft) : Prop where
  alphabet : a.alphabet.SameItems b.alphabet
  inputSymbols : a.inputSymbols.SameItems b.inputSymbols
  blank : a.blank.Retold b.blank
  states : a.states.SameItems b.states
  initial : a.initial.Retold b.initial
  finals : a.finals.SameItems b.finals
  rules : a.rules.Rewritten b.rules
  name : b.name = a.name

/-! ## 2. Texts and movements -/

theorem Json.Retold.display_eq {v w : Json} (h : v.Retold w) : w.display = v.display := by
  rcases h with rfl | rfl <;> rfl

section Fields

variable {v w : Option Json} (h : Option.Rel Json.Retold v w)
include h

theorem Json.isSome_eq_of_retold : v.isSome = w.isSome := by
  cases h <;> rfl

theorem Json.display_eq_of_retold : (w.getD .null).display = (v.getD .null).display := by
  cases h with
  | none => rfl
  | some h => exact h.display_eq

end Fields

/-- The texts of the items are the same. -/
theorem Json.SameItems.texts {v w : Json} (h : v.SameItems w) : ∃ texts texts', Definition.texts v = .ok texts ∧
    Definition.texts w = .ok texts' ∧ ∀ t, t ∈ texts ↔ t ∈ texts' := by
  obtain ⟨items, items', rfl, rfl, hforth, hback⟩ := h
  refine ⟨_, _, rfl, rfl, fun t => ?_⟩
  simp only [List.mem_map]
  constructor
  · rintro ⟨x, hx, rfl⟩
    obtain ⟨y, hy, hretold⟩ := hforth x hx
    exact ⟨y, hy, hretold.display_eq⟩
  · rintro ⟨y, hy, rfl⟩
    obtain ⟨x, hx, hretold⟩ := hback y hy
    exact ⟨x, hx, hretold.display_eq.symm⟩

/-- Of a character between blanks only the character is left. -/
theorem Text.trimChars_between {c : Char} {before after : List Char} (hc : isBlank c = false)
    (hbefore : ∀ b ∈ before, isBlank b = true) (hafter : ∀ b ∈ after, isBlank b = true) :
    trimChars (before ++ c :: after) = [c] := by
  have hfront : (before ++ c :: after).dropWhile isBlank = c :: after := by
    rw [List.dropWhile_append_of_pos hbefore, List.dropWhile_cons_of_neg (by simp [hc])]
  have hend : ((c :: after).reverse).dropWhile isBlank = [c] := by
    rw [List.reverse_cons, List.dropWhile_append_of_pos (by simpa using hafter), List.dropWhile_cons_of_neg (by simp [hc])]
  rw [trimChars, hfront, dropEndBlanks, hend]
  rfl

namespace Direction

/-- Each spelling of a movement is read as this movement. -/
theorem Spelled.ofJson_eq {move : Direction} {v : Option Json} (h : Spelled move v) :
    ofJson (v.getD .null) = .ok move := by
  cases h with
  | absent => rfl
  | null => rfl
  | @letter _ c before after hc hbefore hafter =>
      have hletter : Text.isBlank c = false ∧ ofLetter? c = some move := by
        cases move <;> simp only [spellings, List.mem_cons, List.not_mem_nil, or_false] at hc
        · rcases hc with rfl | rfl <;> decide
        · rcases hc with rfl | rfl <;> decide
        · rcases hc with rfl | rfl | rfl | rfl | rfl <;> decide
      have htrim : Text.trimChars (String.ofList (before ++ c :: after)).toList = [c] := by
        rw [String.toList_ofList, Text.trimChars_between hletter.1 hbefore hafter]
      have hword : ofWord? (Text.trimChars (String.ofList (before ++ c :: after)).toList) = some move := by
        rw [htrim, ofWord?, hletter.2]
      rw [Option.getD_some, ofJson, Json.display_str, hword]
      rintro ⟨⟩

/-- Each letter of a movement alone is a spelling of it. -/
theorem Spelled.single {move : Direction} {c : Char} (hc : c ∈ move.spellings) :
    Spelled move (some (.str (String.ofList [c]))) :=
  .letter hc (List.forall_mem_nil _) (List.forall_mem_nil _)

theorem Respelled.ofJson_eq_ok_iff {move : Direction} {v w : Option Json} (h : Respelled v w) :
    ofJson (v.getD .null) = .ok move ↔ ofJson (w.getD .null) = .ok move := by
  rcases h with rfl | ⟨move', hv, hw⟩
  · exact Iff.rfl
  · rw [hv.ofJson_eq, hw.ofJson_eq]

end Direction

/-! ## 3. Entries -/

namespace Rule

/-- The text of a field of an entry. -/
def fieldText (fields : Fields) (name : String) : String :=
  ((Fields.get? fields name).getD .null).display

/-- **When an entry is read, and as which rule**: it is an object with all fields of a rule, and its movement can be
read. What messages call it by does not matter. -/
theorem ofJson_eq_ok_iff {index : Option Json} {entry : Json} {rule : Rule String} :
    ofJson index entry = .ok rule ↔
      ∃ fields, entry = .obj fields ∧ (∀ name ∈ requiredFields, Fields.has fields name = true) ∧
      ∃ move, Direction.ofJson ((Fields.get? fields "move_to").getD .null) = .ok move ∧
        rule = { state := fieldText fields "from_state", read := fieldText fields "read_symbol",
                 write := fieldText fields "write_symbol", move, next := fieldText fields "next_state" } := by
  constructor
  · intro h
    cases entry with
    | obj fields =>
        rw [ofJson_obj] at h
        dsimp only at h
        split at h
        · rename_i hmissing
          obtain ⟨move, hmove, hrule⟩ := exists_of_bind_eq_ok h
          cases hrule
          refine ⟨fields, rfl, ?_, move, hmove, rfl⟩
          simpa [List.filter_eq_nil_iff] using hmissing
        · cases h
    | _ => cases h
  · rintro ⟨fields, rfl, hhas, move, hmove, rfl⟩
    have hmissing : (requiredFields.filter fun name => !Fields.has fields name).isEmpty = true := by
      rw [List.isEmpty_iff, List.filter_eq_nil_iff]
      exact fun name hname => by simp [hhas name hname]
    have hmove : Direction.ofJson (field (.obj fields) "move_to") = .ok move := hmove
    rw [ofJson_obj]
    dsimp only
    rw [if_pos hmissing, hmove]
    rfl

/-- **Another writing of an entry is read as the same rule.** -/
theorem Rewritten.ofJson_eq_ok_iff {entry entry' : Json} {rule : Rule String} (h : Rewritten entry entry') :
    ofJson none entry = .ok rule ↔ ofJson none entry' = .ok rule := by
  cases h with
  | refl => exact Iff.rfl
  | @obj fields fields' htexts hmove =>
      have hhas : (∀ name ∈ requiredFields, Fields.has fields name = true) ↔
          ∀ name ∈ requiredFields, Fields.has fields' name = true :=
        forall₂_congr fun name hname => by
          rw [Fields.has_iff_isSome_get?, Fields.has_iff_isSome_get?, Json.isSome_eq_of_retold (htexts name hname)]
      have htext (name : String) (hname : name ∈ requiredFields) : fieldText fields' name = fieldText fields name :=
        Json.display_eq_of_retold (htexts name hname)
      rw [Rule.ofJson_eq_ok_iff, Rule.ofJson_eq_ok_iff]
      simp only [Json.obj.injEq, exists_eq_left', hhas, hmove.ofJson_eq_ok_iff,
        htext _ (by decide : "from_state" ∈ requiredFields), htext _ (by decide : "read_symbol" ∈ requiredFields),
        htext _ (by decide : "write_symbol" ∈ requiredFields), htext _ (by decide : "next_state" ∈ requiredFields)]

section Lists

variable {items items' : List Json} {rules rules' : List (Rule String)}

/-- Entries in another writing are read as the same rules. -/
theorem read_iff_of_rewritten (h : List.Forall₂ Rewritten items items') : Read items rules ↔ Read items' rules := by
  unfold Read
  induction h generalizing rules with
  | nil => exact Iff.rfl
  | cons hentry _ ih =>
      cases rules with
      | nil => simp
      | cons rule rules => rw [List.forall₂_cons, List.forall₂_cons, hentry.ofJson_eq_ok_iff, ih]

/-- Entries are read as one list of rules only. -/
theorem eq_of_read (h : Read items rules) (h' : Read items rules') : rules = rules' :=
  Relator.RightUnique.forall₂ (fun _ _ _ h h' => Except.ok.inj (h.symm.trans h')) h h'

end Lists

end Rule

/-! ## 4. Sources of rules -/

namespace RuleSource

/-- The rules of a source, in their order. -/
inductive Gives : RuleSource → List (Rule String) → Prop where
  | entries {value : Json} {items : List Json} {rules : List (Rule String)} (hitems : value.items = .ok items)
      (h : Rule.Read items rules) : Gives (.entries value) rules
  | rules (rules : List (Rule String)) : Gives (.rules rules) rules
  | table (table : RuleTable String) : Gives (.table table) table.rules

/-- The entries of a list are read one by one. -/
theorem map_ok_eq_mapIdx_iff {items : List Json} {rules : List (Rule String)} (index : Nat → Option Json) :
    (items.mapIdx fun i entry => Rule.ofJson (index i) entry) = rules.map .ok ↔ Rule.Read items rules := by
  unfold Rule.Read
  induction items generalizing index rules with
  | nil => cases rules <;> simp
  | cons entry items ih =>
      cases rules with
      | nil => simp
      | cons rule rules =>
          rw [List.mapIdx_cons, List.map_cons, List.cons.injEq, List.forall₂_cons, ih fun i => index (i + 1),
            Rule.ofJson_eq_ok_iff, Rule.ofJson_eq_ok_iff]

/-- A table is filled from entries that are read as its rules. -/
theorem fill_ofItems_eq_ok_iff {items : List Json} {table : RuleTable String} :
    RuleTable.fill (Rule.ofItems items) = .ok table ↔ Rule.Read items table.rules := by
  rw [RuleTable.fill_eq_ok_iff, Rule.ofItems]
  exact map_ok_eq_mapIdx_iff _

/-- **The table of a source has its rules.** -/
theorem table?_eq_ok_iff {source : RuleSource} {table : RuleTable String} :
    source.table? = .ok table ↔ source.Gives table.rules := by
  cases source with
  | entries value =>
      have htable : (entries value).table? = (value.items.mapError .shape >>= fun items =>
          (RuleTable.fill (Rule.ofItems items)).mapError .definition) := rfl
      rw [htable]
      constructor
      · intro h
        obtain ⟨items, hitems, h⟩ := exists_of_bind_eq_ok h
        exact .entries (mapError_eq_ok_iff.mp hitems) (fill_ofItems_eq_ok_iff.mp (mapError_eq_ok_iff.mp h))
      · intro h
        cases h with
        | entries hitems h =>
            rw [hitems]
            exact mapError_eq_ok_iff.mpr (fill_ofItems_eq_ok_iff.mpr h)
  | rules list =>
      have htable : (rules list).table? = (RuleTable.fill (list.map .ok)).mapError .definition := rfl
      rw [htable, mapError_eq_ok_iff, RuleTable.fill_eq_ok_iff, List.map_inj_right fun _ _ => Except.ok.inj]
      constructor
      · rintro rfl
        exact .rules _
      · intro h
        cases h
        rfl
  | table finished =>
      constructor
      · intro h
        cases h
        exact .table _
      · intro h
        generalize hrules : table.rules = rules at h
        cases h
        exact congrArg Except.ok (RuleTable.ext_rules hrules.symm)

/-- **The rules of another writing are the same rules**, perhaps in another order. -/
theorem Rewritten.exists_perm {source source' : RuleSource} (h : Rewritten source source') :
    (∀ rules, source.Gives rules → ∃ rules', source'.Gives rules' ∧ rules.Perm rules') ∧
      ∀ rules', source'.Gives rules' → ∃ rules, source.Gives rules ∧ rules.Perm rules' := by
  cases h with
  | entries hitems hperm =>
      constructor
      · rintro rules ⟨⟨⟩, h⟩
        obtain ⟨rules', hread, hrules⟩ := List.perm_comp_forall₂ hperm.symm ((Rule.read_iff_of_rewritten hitems).mp h)
        exact ⟨rules', .entries rfl hread, hrules.symm⟩
      · rintro rules' ⟨⟨⟩, h⟩
        obtain ⟨rules, hread, hrules⟩ := List.perm_comp_forall₂ hperm h
        exact ⟨rules, .entries rfl ((Rule.read_iff_of_rewritten hitems).mpr hread), hrules⟩
  | rules hread =>
      constructor
      · rintro rules ⟨⟨⟩, h⟩
        rw [Rule.eq_of_read h hread]
        exact ⟨_, .rules _, .refl _⟩
      · rintro rules' ⟨⟩
        exact ⟨_, .entries rfl hread, .refl _⟩
  | table hread =>
      constructor
      · rintro rules ⟨⟨⟩, h⟩
        rw [Rule.eq_of_read h hread]
        exact ⟨_, .table _, .refl _⟩
      · rintro rules' ⟨⟩
        exact ⟨_, .entries rfl hread, .refl _⟩

end RuleSource

/-! ## 5. Definitions -/

/-- Whether two sheets have the same texts, in whatever order and how often. -/
structure Sheet.Same (s s' : Sheet) : Prop where
  alphabet : ∀ t, t ∈ s.alphabet ↔ t ∈ s'.alphabet
  inputSymbols : ∀ t, t ∈ s.inputSymbols ↔ t ∈ s'.inputSymbols
  blank : s.blank = s'.blank
  states : ∀ q, q ∈ s.states ↔ q ∈ s'.states
  initial : s.initial = s'.initial
  finals : ∀ q, q ∈ s.finals ↔ q ∈ s'.finals

namespace Sheet.Same

variable {s s' : Sheet} (h : s.Same s')
include h

theorem symm : s'.Same s :=
  ⟨fun t => (h.alphabet t).symm, fun t => (h.inputSymbols t).symm, h.blank.symm, fun q => (h.states q).symm,
    h.initial.symm, fun q => (h.finals q).symm⟩

/-- Sheets with the same texts meet the conditions on the parts together. -/
theorem fits (hfits : s.Fits) : s'.Fits where
  narrow := fun t ht => hfits.narrow t (by
    simp only [Sheet.symbols, List.mem_append, List.mem_singleton] at ht ⊢
    rwa [h.alphabet, h.inputSymbols, h.blank])
  blank_mem := h.blank ▸ (h.alphabet _).mp hfits.blank_mem
  input_subset := fun t ht => (h.alphabet t).mp (hfits.input_subset ((h.inputSymbols t).mpr ht))
  blank_not_input := fun hinput => hfits.blank_not_input (h.blank ▸ (h.inputSymbols _).mpr hinput)
  initial_mem := h.initial ▸ (h.states _).mp hfits.initial_mem
  finals_subset := fun q hq => (h.states q).mp (hfits.finals_subset ((h.finals q).mpr hq))

/-- Sheets with the same texts refuse the same rules. -/
theorem refusal?_eq (rule : Rule String) : s.refusal? rule = s'.refusal? rule := by
  simp only [Sheet.refusal?, h.alphabet, h.states]

end Sheet.Same

/-- Another writing of a draft has the same texts. -/
theorem Draft.Rewritten.exists_same {a b : Draft} (h : a.Rewritten b) :
    ∃ s s', a.Reads s ∧ b.Reads s' ∧ s.Same s' := by
  obtain ⟨alphabet, alphabet', ha, ha', halphabet⟩ := h.alphabet.texts
  obtain ⟨inputs, inputs', hi, hi', hinputs⟩ := h.inputSymbols.texts
  obtain ⟨states, states', hs, hs', hstates⟩ := h.states.texts
  obtain ⟨finals, finals', hf, hf', hfinals⟩ := h.finals.texts
  exact ⟨⟨alphabet, inputs, _, states, _, finals⟩, ⟨alphabet', inputs', _, states', _, finals'⟩,
    ⟨ha, hi, rfl, hs, rfl, hf⟩, ⟨ha', hi', rfl, hs', rfl, hf'⟩,
    ⟨halphabet, hinputs, h.blank.display_eq.symm, hstates, h.initial.display_eq.symm, hfinals⟩⟩

namespace Definition

variable {draft a b : Draft} {s s' : Sheet} {d : Definition}

/-- What a definition that was made says about the texts and the rules of its draft. -/
theorem holds_of_reads (hs : draft.Reads s) (hd : create draft = .ok d) :
    s.Fits ∧ ∃ table : RuleTable String, draft.rules.Gives table.rules ∧
      (∀ rule ∈ table.rules, s.refusal? rule = none) ∧ d.Holds s table draft.name := by
  have hto := createTo_create hs
  rw [hd] at hto
  cases hto with
  | created table _ hfits htable hnone hd =>
      exact ⟨hfits, table, RuleSource.table?_eq_ok_iff.mp htable, List.findSome?_eq_none_iff.mp hnone, hd⟩

/-- **A definition is made** of texts that fit together and rules of a table with which nothing is wrong. -/
theorem exists_holds (hs : draft.Reads s) (hfits : s.Fits) {table : RuleTable String}
    (htable : draft.rules.Gives table.rules) (hnone : ∀ rule ∈ table.rules, s.refusal? rule = none) :
    ∃ d, create draft = .ok d ∧ d.Holds s table draft.name := by
  rw [← RuleSource.table?_eq_ok_iff] at htable
  rw [← List.findSome?_eq_none_iff] at hnone
  have hto := createTo_create hs
  generalize create draft = result at hto
  cases hto with
  | created table' d _ htable' _ hd =>
      rw [htable] at htable'
      cases htable'
      exact ⟨d, rfl, hd⟩
  | wide _ _ h => exact absurd hfits.narrow h
  | blankUnknown _ h => exact absurd hfits.blank_mem h
  | inputUnknown _ _ _ _ h => exact absurd hfits.input_subset h
  | blankInput _ _ _ h => exact absurd h hfits.blank_not_input
  | initialUnknown _ _ _ _ h => exact absurd hfits.initial_mem h
  | finalsUnknown _ _ _ _ _ _ _ h => exact absurd hfits.finals_subset h
  | tableRefused e _ h =>
      rw [htable] at h
      cases h
  | ruleRefused table' e _ htable' h =>
      rw [htable] at htable'
      cases htable'
      rw [hnone] at h
      cases h

/-- Definitions of the same texts and the same rules are equal. -/
theorem equal_of_holds {d' : Definition} {table table' : RuleTable String} {name : Json} (hd : d.Holds s table name)
    (hd' : d'.Holds s' table' name) (hs : s.Same s') (hrules : table.rules.Perm table'.rules) : d.Equal d' where
  alphabet := Std.ExtTreeSet.ext_mem fun c => by rw [hd.alphabet, hd'.alphabet, hs.alphabet]
  inputSymbols := Std.ExtTreeSet.ext_mem fun c => by rw [hd.inputSymbols, hd'.inputSymbols, hs.inputSymbols]
  blank := String.singleton_inj.mp (by rw [hd.blank, hd'.blank, hs.blank])
  states := Std.ExtTreeSet.ext_mem fun q => by rw [hd.states, hd'.states, hs.states]
  initial := by rw [hd.initial, hd'.initial, hs.initial]
  finals := Std.ExtTreeSet.ext_mem fun q => by rw [hd.finals, hd'.finals, hs.finals]
  rules := by
    rw [← hd.rules, ← hd'.rules] at hrules
    exact (List.map_perm_map_iff fun _ _ => mapSymbols_glyph_inj).mp hrules
  name := hd.name.trans hd'.name.symm

/-- Where a definition is made of one draft, an equal one is made of another draft of the same texts and rules. -/
theorem exists_equal_create (ha : a.Reads s) (hb : b.Reads s') (hs : s.Same s') (hname : b.name = a.name)
    (hrules : ∀ rules, a.rules.Gives rules → ∃ rules', b.rules.Gives rules' ∧ rules.Perm rules')
    (hd : create a = .ok d) : ∃ d', create b = .ok d' ∧ d.Equal d' := by
  obtain ⟨hfits, table, htable, hnone, hholds⟩ := holds_of_reads ha hd
  obtain ⟨rules', hrules', hperm⟩ := hrules table.rules htable
  let table' : RuleTable String := ⟨rules', (hperm.map Rule.key).nodup_iff.mp table.nodup⟩
  have htable' : b.rules.Gives table'.rules := hrules'
  have hnone' : ∀ rule ∈ table'.rules, s'.refusal? rule = none := fun rule hrule =>
    hs.refusal?_eq rule ▸ hnone rule (hperm.mem_iff.mpr hrule)
  obtain ⟨d', hd', hholds'⟩ := exists_holds hb (hs.fits hfits) htable' hnone'
  exact ⟨d', hd', equal_of_holds hholds (hname ▸ hholds') hs hperm⟩

/-- **A definition does not depend on how it is written down.** Of another writing of a draft a definition is made
exactly when one is made of the draft itself; both are equal then, and give the same results on every input within any
limits, or refuse it for the same reason. -/
theorem create_rewritten (h : a.Rewritten b) :
    ((∃ d, create a = .ok d) ↔ ∃ d', create b = .ok d') ∧
      ∀ d d', create a = .ok d → create b = .ok d' →
        d.same d' = true ∧ ∀ given limits, d.run given limits = d'.run given limits := by
  obtain ⟨s, s', ha, hb, hs⟩ := h.exists_same
  obtain ⟨hforth, hback⟩ := h.rules.exists_perm
  have hto (d : Definition) (hd : create a = .ok d) : ∃ d', create b = .ok d' ∧ d.Equal d' :=
    exists_equal_create ha hb hs h.name hforth hd
  have hfrom (d' : Definition) (hd' : create b = .ok d') : ∃ d, create a = .ok d ∧ d'.Equal d :=
    exists_equal_create hb ha hs.symm h.name.symm (fun rules' hrules' => by
      obtain ⟨rules, hrules, hperm⟩ := hback rules' hrules'
      exact ⟨rules, hrules, hperm.symm⟩) hd'
  refine ⟨⟨fun ⟨d, hd⟩ => ?_, fun ⟨d', hd'⟩ => ?_⟩, fun d d' hd hd' => ?_⟩
  · obtain ⟨d', hd', _⟩ := hto d hd
    exact ⟨d', hd'⟩
  · obtain ⟨d, hd, _⟩ := hfrom d' hd'
    exact ⟨d, hd⟩
  · obtain ⟨d'', hd'', hequal⟩ := hto d hd
    rw [hd'] at hd''
    cases hd''
    exact ⟨same_iff_equal.mpr hequal, hequal.run_eq⟩

/-- An entry of a machine that erases zeros; its movement is in the other fields. -/
def eraserEntry (read : Json) (others : Fields) (next : String) : Json :=
  .obj ([("from_state", .str "erase"), ("read_symbol", read), ("write_symbol", .str "B"), ("next_state", .str next)] ++
    others)

/-- A machine that erases a number of zeros, with the zero written as a number. -/
def eraser : Draft where
  alphabet := .arr [.int 0, .str "B"]
  inputSymbols := .arr [.int 0]
  blank := .str "B"
  states := .arr [.str "erase", .str "done"]
  initial := .str "erase"
  finals := .arr [.str "done"]
  rules := .entries (.arr [eraserEntry (.int 0) [("move_to", .str " r")] "erase", eraserEntry (.str "B") [] "done"])
  name := .str "eraser"

/-- The same machine in another writing. -/
def eraserRewritten : Draft where
  alphabet := .arr [.str "B", .str "0", .str "B"]
  inputSymbols := .arr [.str "0"]
  blank := .str "B"
  states := .arr [.str "done", .str "erase"]
  initial := .str "erase"
  finals := .arr [.str "done", .str "done"]
  rules := .entries (.arr [eraserEntry (.str "B") [("move_to", .str "N")] "done",
    eraserEntry (.str "0") [("move_to", .str "R")] "erase"])
  name := .str "eraser"

theorem rewritten_eraserEntry {read read' : Json} {others others' : Fields} (next : String) (hread : read.Retold read')
    (hmove : Direction.Respelled (Fields.get? others "move_to") (Fields.get? others' "move_to")) :
    Rule.Rewritten (eraserEntry read others next) (eraserEntry read' others' next) := by
  refine .obj ?_ hmove
  simp [Rule.requiredFields, Fields.get?, hread]
  simp [Json.Retold]

/-- The two writings of the machine that erases zeros. -/
theorem eraser_rewritten : eraser.Rewritten eraserRewritten where
  alphabet := ⟨_, _, rfl, rfl, by simp [Json.Retold]; decide, by simp [Json.Retold]; decide⟩
  inputSymbols := ⟨_, _, rfl, rfl, by simp [Json.Retold]; decide, by simp [Json.Retold]; decide⟩
  blank := .inl rfl
  states := ⟨_, _, rfl, rfl, by simp [Json.Retold], by simp [Json.Retold]⟩
  initial := .inl rfl
  finals := ⟨_, _, rfl, rfl, by simp [Json.Retold], by simp [Json.Retold]⟩
  rules := by
    have hright : Direction.Respelled (Fields.get? [("move_to", .str " r")] "move_to")
        (Fields.get? [("move_to", .str "R")] "move_to") :=
      .inr ⟨.right,
        (.letter (by decide) (List.forall_mem_singleton.mpr rfl) (List.forall_mem_nil _) :
          Direction.Spelled .right (some (.str (String.ofList ([' '] ++ 'r' :: []))))),
        .single (by decide)⟩
    have hstay : Direction.Respelled (Fields.get? [] "move_to") (Fields.get? [("move_to", .str "N")] "move_to") :=
      .inr ⟨.stay, .absent, .single (by decide)⟩
    have hzero : (Json.int 0).Retold (.str "0") := .inr (by decide)
    exact .entries (.cons (rewritten_eraserEntry "erase" hzero hright)
      (.cons (rewritten_eraserEntry "done" (.inl rfl) hstay) .nil)) (.swap ..)
  name := rfl

/-- A number of zeros is erased alike by both writings of the machine. -/
theorem create_rewritten_eraser : eraser.Rewritten eraserRewritten ∧
    ∃ d d', create eraser = .ok d ∧ create eraserRewritten = .ok d' ∧ d.same d' = true ∧
      d.run (.str "00") {} = d'.run (.str "00") {} := by
  obtain ⟨hiff, hsame⟩ := create_rewritten eraser_rewritten
  have hcreate : (create eraser).toOption.isSome = true := by decide +kernel
  obtain ⟨d, hd⟩ := Option.isSome_iff_exists.mp hcreate
  rw [toOption_eq_some] at hd
  obtain ⟨d', hd'⟩ := hiff.mp ⟨d, hd⟩
  obtain ⟨hequal, hrun⟩ := hsame d d' hd hd'
  exact ⟨eraser_rewritten, d, d', hd, hd', hequal, hrun _ _⟩

end Definition

end TapeMachine
