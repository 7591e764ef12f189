import TapeMachine.Proofs.Machine.Acceptance
import TapeMachine.Proofs.Machine.RuleTables
/-!
# Documents that are written and read back

A definition is written with its sets and rules in order. What is written meets all requirements on documents, so it
is read back, and to the same definition; and since the keys of its rules differ, there is only one order for them.

* `Definition.sortedRules_eq_of_perm` : rules with different keys have only one order;
* `Definition.document`, `Definition.met_document` : the document of a definition meets all requirements;
* `Definition.Equal`, `Definition.same_iff_equal` : when two definitions are equal;
* `Definition.equal_of_matches` : a definition with the parts and rules of the document of another one equals it;
* `Definition.toJson_lossless_canonical` : **what is written is read back as an equal definition, and equal
  definitions are those that are written alike.**
-/

namespace TapeMachine.Definition

/-! ## 1. The order of rules -/

section Order

variable {a b c : Rule Char}

theorem ruleLe_iff : ruleLe a b = true ↔ a.state < b.state ∨ a.state = b.state ∧ a.read ≤ b.read := by
  simp [ruleLe]

theorem ruleLe_trans (hab : ruleLe a b = true) (hbc : ruleLe b c = true) : ruleLe a c = true := by
  rw [ruleLe_iff] at *
  obtain hab | ⟨hab, hle⟩ := hab
  · obtain hbc | ⟨hbc, _⟩ := hbc
    · exact .inl (String.lt_trans hab hbc)
    · exact .inl (hbc ▸ hab)
  · obtain hbc | ⟨hbc, hle'⟩ := hbc
    · exact .inl (hab ▸ hbc)
    · exact .inr ⟨hab.trans hbc, Char.le_trans hle hle'⟩

theorem ruleLe_total (a b : Rule Char) : (ruleLe a b || ruleLe b a) = true := by
  rw [Bool.or_eq_true, ruleLe_iff, ruleLe_iff]
  by_cases hab : a.state < b.state
  · exact .inl (.inl hab)
  · by_cases hba : b.state < a.state
    · exact .inr (.inl hba)
    · have hstate : a.state = b.state := String.le_antisymm hba hab
      exact (Char.le_total a.read b.read).imp (fun h => .inr ⟨hstate, h⟩) fun h => .inr ⟨hstate.symm, h⟩

/-- Rules that stand before each other have the same key. -/
theorem key_eq_of_ruleLe (hab : ruleLe a b = true) (hba : ruleLe b a = true) : a.key = b.key := by
  rw [ruleLe_iff] at *
  obtain hab | ⟨hab, hle⟩ := hab
  · obtain hba | ⟨hba, _⟩ := hba
    · exact absurd hba (String.lt_asymm hab)
    · exact absurd hab (hba ▸ String.lt_irrefl _)
  · obtain hba | ⟨_, hle'⟩ := hba
    · exact absurd hba (hab ▸ String.lt_irrefl _)
    · rw [Rule.key, Rule.key, hab, Char.le_antisymm hle hle']

end Order

variable {d d₁ d₂ : Definition}

theorem sortedRules_perm (d : Definition) : d.sortedRules.Perm d.rules.rules :=
  List.mergeSort_perm _ _

theorem sortedRules_pairwise (d : Definition) : d.sortedRules.Pairwise fun a b => ruleLe a b = true := by
  have htrans : ∀ a b c, ruleLe a b = true → ruleLe b c = true → ruleLe a c = true := fun _ _ _ => ruleLe_trans
  have htotal : ∀ a b, (ruleLe a b || ruleLe b a) = true := ruleLe_total
  exact List.pairwise_mergeSort htrans htotal d.rules.rules

theorem mem_sortedRules {rule : Rule Char} : rule ∈ d.sortedRules ↔ rule ∈ d.rules.rules :=
  d.sortedRules_perm.mem_iff

/-- **Rules with different keys have only one order.** -/
theorem sortedRules_eq_of_perm (h : d₁.rules.rules.Perm d₂.rules.rules) : d₁.sortedRules = d₂.sortedRules := by
  have hperm : d₁.sortedRules.Perm d₂.sortedRules :=
    (d₁.sortedRules_perm.trans h).trans d₂.sortedRules_perm.symm
  refine hperm.eq_of_pairwise (fun a b ha hb hab hba => ?_) d₁.sortedRules_pairwise d₂.sortedRules_pairwise
  exact RuleTable.eq_of_key_eq_of_nodup d₁.rules.nodup (mem_sortedRules.mp ha)
    (h.mem_iff.mpr (mem_sortedRules.mp hb)) (key_eq_of_ruleLe hab hba)

/-! ## 2. Equal definitions -/

/-- **Two definitions are equal** when their parts are, and their rules in some order. -/
structure Equal (d₁ d₂ : Definition) : Prop where
  alphabet : d₁.alphabet = d₂.alphabet
  inputSymbols : d₁.inputSymbols = d₂.inputSymbols
  blank : d₁.blank = d₂.blank
  states : d₁.states = d₂.states
  initial : d₁.initial = d₂.initial
  finals : d₁.finals = d₂.finals
  rules : d₁.rules.rules.Perm d₂.rules.rules
  name : d₁.name = d₂.name

theorem same_iff_equal : d₁.same d₂ = true ↔ d₁.Equal d₂ := by
  simp only [same, RuleTable.same_iff_perm, Bool.and_eq_true, decide_eq_true_eq, and_assoc]
  constructor
  · rintro ⟨halphabet, hinput, hblank, hstates, hinitial, hfinals, hrules, hname⟩
    exact ⟨halphabet, hinput, hblank, hstates, hinitial, hfinals, hrules, hname⟩
  · exact fun h => ⟨h.alphabet, h.inputSymbols, h.blank, h.states, h.initial, h.finals, h.rules, h.name⟩

theorem Equal.symm (h : d₁.Equal d₂) : d₂.Equal d₁ :=
  ⟨h.alphabet.symm, h.inputSymbols.symm, h.blank.symm, h.states.symm, h.initial.symm, h.finals.symm, h.rules.symm,
    h.name.symm⟩

theorem Equal.trans {d₃ : Definition} (h : d₁.Equal d₂) (h' : d₂.Equal d₃) : d₁.Equal d₃ :=
  ⟨h.alphabet.trans h'.alphabet, h.inputSymbols.trans h'.inputSymbols, h.blank.trans h'.blank,
    h.states.trans h'.states, h.initial.trans h'.initial, h.finals.trans h'.finals, h.rules.trans h'.rules,
    h.name.trans h'.name⟩

/-- Equal definitions are written alike. -/
theorem Equal.toJson_eq (h : d₁.Equal d₂) : d₁.toJson = d₂.toJson := by
  rw [toJson, toJson, h.alphabet, h.inputSymbols, h.blank, h.states, h.initial, h.finals,
    sortedRules_eq_of_perm h.rules, h.name]

/-! ## 3. The document of a definition -/

/-- The document of a definition, without its name. -/
def document (d : Definition) : Document :=
  { alphabet := d.alphabet.toList.map fun c => .str (String.singleton c)
    inputSymbols := d.inputSymbols.toList.map fun c => .str (String.singleton c)
    blank := .str (String.singleton d.blank)
    states := d.states.toList.map .str
    initial := .str d.initial
    finals := d.finals.toList.map .str
    entries := d.sortedRules.map Rule.toJson }

theorem exists_toJson_in (d : Definition) :
    ∃ fields, d.toJson = .obj fields ∧ d.document.In fields ∧ Fields.get? fields "name" = some d.name :=
  ⟨_, rfl, ⟨rfl, rfl, rfl, rfl, rfl, rfl, rfl⟩, rfl⟩

/-- The texts in the document of a definition. -/
theorem sheet_document (d : Definition) : d.document.sheet =
    { alphabet := d.alphabet.toList.map String.singleton, inputSymbols := d.inputSymbols.toList.map String.singleton
      blank := String.singleton d.blank, states := d.states.toList, initial := d.initial
      finals := d.finals.toList } := by
  simp [document, Document.sheet, Function.comp_def, Json.display]

/-- The letter of a movement is read as the movement. -/
theorem ofJson_letter (move : Direction) : Direction.ofJson (.str move.letter) = .ok move := by
  cases move <;> rfl

theorem named_letter (move : Direction) : Direction.Named (.str move.letter) := by
  obtain ⟨hnamed, _⟩ | ⟨_, herror⟩ := Direction.ofJson_cases (.str move.letter)
  · exact hnamed
  · rw [ofJson_letter] at herror
    cases herror

/-- The object of a rule describes it. -/
theorem described_toJson (rule : Rule Char) : Rule.described rule.toJson = rule.mapSymbols glyph := by
  show Rule.mk _ _ _ ((Direction.ofJson (.str rule.move.letter)).toOption.getD .stay) _ = _
  rw [ofJson_letter]
  rfl

/-- The document of a definition fits. -/
theorem fits_sheet_document (d : Definition) : d.document.sheet.Fits := by
  rw [sheet_document]
  constructor
  · simp only [Sheet.Narrow, Sheet.symbols, List.mem_append, List.mem_map, List.mem_singleton]
    rintro text ((⟨c, _, rfl⟩ | ⟨c, _, rfl⟩) | rfl) <;> exact String.length_singleton
  · exact List.mem_map_of_mem (Std.ExtTreeSet.mem_toList.mpr d.blank_mem)
  · refine List.map_subset _ fun c hc => ?_
    exact Std.ExtTreeSet.mem_toList.mpr (d.input_subset c (Std.ExtTreeSet.mem_toList.mp hc))
  · simpa using d.blank_not_input
  · exact Std.ExtTreeSet.mem_toList.mpr d.initial_mem
  · exact fun q hq => Std.ExtTreeSet.mem_toList.mpr (d.finals_subset q (Std.ExtTreeSet.mem_toList.mp hq))

section Entries

variable {i j : Nat}

theorem entry_document (hi : i < d.sortedRules.length) : d.document.entry i = d.sortedRules[i].toJson := by
  simp [document, Document.entry, hi]

theorem text_document (hi : i < d.sortedRules.length) :
    d.document.text i "from_state" = d.sortedRules[i].state ∧
      d.document.text i "read_symbol" = String.singleton d.sortedRules[i].read ∧
      d.document.text i "write_symbol" = String.singleton d.sortedRules[i].write ∧
      d.document.text i "next_state" = d.sortedRules[i].next := by
  simp only [Document.text, entry_document hi]
  exact ⟨rfl, rfl, rfl, rfl⟩

/-- The keys of the rules stay different when they are put in order. -/
theorem key_ne_of_lt (hi : i < d.sortedRules.length) (hj : j < i) :
    d.sortedRules[j].key ≠ d.sortedRules[i].key := by
  have hnodup : (d.sortedRules.map Rule.key).Nodup :=
    ((d.sortedRules_perm.map Rule.key).nodup_iff).mpr d.rules.nodup
  have hpair := List.pairwise_map.mp hnodup
  exact List.pairwise_iff_getElem.mp hpair j i (Nat.lt_trans hj hi) hi hj

/-- The entries of the document of a definition can be read, and their keys are new. -/
theorem met_ofEntry (hi : i < d.sortedRules.length) : ∀ r ∈ Requirement.ofEntry i, r.Met d.document := by
  have hentry := entry_document hi
  simp only [Requirement.ofEntry, List.mem_cons, List.not_mem_nil, or_false, forall_eq_or_imp, forall_eq]
  refine ⟨?_, ?_, ?_, ?_⟩
  · rw [Requirement.Met, hentry]
    rfl
  · rw [Requirement.Met, hentry]
    simp [Rule.hasField, Rule.toJson, Fields.has]
  · rw [Requirement.Met, hentry]
    exact named_letter d.sortedRules[i].move
  · intro j hj
    obtain ⟨hstate, hread, _⟩ := text_document hi
    obtain ⟨hstate', hread', _⟩ := text_document (d := d) (Nat.lt_trans hj hi)
    rw [hstate, hread, hstate', hread', String.singleton_inj]
    rintro ⟨hs, hr⟩
    exact key_ne_of_lt hi hj (by rw [Rule.key, Rule.key, hs, hr])

/-- The rules of the document of a definition use known names only. -/
theorem met_ofRule (hi : i < d.sortedRules.length) : ∀ r ∈ Requirement.ofRule i, r.Met d.document := by
  obtain ⟨hstate, hread, hwrite, hnext⟩ := text_document hi
  have hmem : d.sortedRules[i] ∈ d.rules.rules := mem_sortedRules.mp (List.getElem_mem hi)
  simp only [Requirement.ofRule, List.mem_cons, List.not_mem_nil, or_false, forall_eq_or_imp, forall_eq,
    Requirement.Met, sheet_document, hstate, hread, hwrite, hnext, Std.ExtTreeSet.mem_toList]
  refine ⟨d.rule_states _ hmem, ?_, ?_⟩
  · exact List.mem_map_of_mem (Std.ExtTreeSet.mem_toList.mpr (d.rule_symbols _ hmem).1)
  · exact List.mem_map_of_mem (Std.ExtTreeSet.mem_toList.mpr (d.rule_symbols _ hmem).2)

end Entries

/-- **The document of a definition meets all requirements.** -/
theorem met_document (d : Definition) : ∀ r ∈ d.document.requirements, r.Met d.document := by
  have hfits := d.fits_sheet_document
  have hlength : d.document.entries.length = d.sortedRules.length := by simp [document]
  intro r hr
  rw [Document.requirements, hlength, List.mem_append, List.mem_append, List.mem_flatMap, List.mem_flatMap] at hr
  obtain hpart | ⟨i, hi, hr⟩ | ⟨i, hi, hr⟩ := hr
  · simp only [List.mem_cons, List.not_mem_nil, or_false] at hpart
    obtain rfl | rfl | rfl | rfl | rfl | rfl := hpart
    · exact hfits.narrow
    · exact hfits.blank_mem
    · exact hfits.input_subset
    · exact hfits.blank_not_input
    · exact hfits.initial_mem
    · exact hfits.finals_subset
  · exact met_ofEntry (List.mem_range.mp hi) r hr
  · exact met_ofRule (List.mem_range.mp hi) r hr

/-! ## 4. Reading back -/

/-- Rules whose symbols have the same texts are the same. -/
theorem mapSymbols_glyph_inj {rule rule' : Rule Char}
    (h : rule.mapSymbols (glyph : Char → String) = rule'.mapSymbols glyph) : rule = rule' := by
  obtain ⟨state, read, write, move, next⟩ := rule
  obtain ⟨state', read', write', move', next'⟩ := rule'
  simp only [Rule.mapSymbols, Rule.mk.injEq] at h ⊢
  exact ⟨h.1, String.singleton_inj.mp h.2.1, String.singleton_inj.mp h.2.2.1, h.2.2.2⟩

/-- **A definition with the parts and rules of the document of another one equals it.** -/
theorem equal_of_matches {d' : Definition} (h : d'.Matches d.document d.name) : d'.Equal d := by
  obtain ⟨table, htable, hd⟩ := h
  have hrules : d'.rules.rules = d.sortedRules := by
    have hmap : d'.rules.rules.map (Rule.mapSymbols glyph) = d.sortedRules.map (Rule.mapSymbols glyph) := by
      rw [hd.rules, htable]
      simp [document, described_toJson]
    exact (List.map_inj_right fun _ _ => mapSymbols_glyph_inj).mp hmap
  rw [sheet_document] at hd
  have hsingleton (c : Char) (symbols : SymbolSet) :
      String.singleton c ∈ symbols.toList.map String.singleton ↔ c ∈ symbols := by
    simp
  exact
    { alphabet := Std.ExtTreeSet.ext_mem fun c => (hd.alphabet c).trans (hsingleton c _)
      inputSymbols := Std.ExtTreeSet.ext_mem fun c => (hd.inputSymbols c).trans (hsingleton c _)
      blank := String.singleton_inj.mp hd.blank
      states := Std.ExtTreeSet.ext_mem fun q => (hd.states q).trans Std.ExtTreeSet.mem_toList
      initial := hd.initial
      finals := Std.ExtTreeSet.ext_mem fun q => (hd.finals q).trans Std.ExtTreeSet.mem_toList
      rules := hrules ▸ d.sortedRules_perm
      name := hd.name }

/-- What is written is read back. -/
theorem exists_equal_ofJson_toJson (d : Definition) (name : Json) :
    ∃ d', ofJson d.toJson name = .ok d' ∧ d'.Equal d := by
  obtain ⟨fields, hjson, hin, hname⟩ := d.exists_toJson_in
  obtain ⟨d', hd', hmatches⟩ := exists_matches_of_met hin name d.met_document
  rw [hname, Option.getD_some] at hmatches
  exact ⟨d', hjson ▸ hd', equal_of_matches hmatches⟩

/-- **What is written is read back as an equal definition**, whatever name is given besides, and is written the same
    way again; and two definitions are equal exactly when they are written alike. -/
theorem toJson_lossless_canonical (d : Definition) (name : Json) :
    (∃ d', ofJson d.toJson name = .ok d' ∧ d'.Equal d ∧ d'.toJson = d.toJson) ∧
      ∀ other : Definition, d.toJson = other.toJson ↔ d.same other = true := by
  obtain ⟨d', hd', hequal⟩ := d.exists_equal_ofJson_toJson name
  refine ⟨⟨d', hd', hequal, hequal.toJson_eq⟩, fun other => ⟨fun h => ?_, fun h => ?_⟩⟩
  · obtain ⟨d'', hd'', hequal'⟩ := other.exists_equal_ofJson_toJson name
    rw [← h, hd'] at hd''
    cases hd''
    exact same_iff_equal.mpr (hequal.symm.trans hequal')
  · exact (same_iff_equal.mp h).toJson_eq

end TapeMachine.Definition
