import TapeMachine.Proofs.Machine.Writings
/-!
# Renamed machines

The states of a machine can be given other names, and its symbols can be replaced by other characters, as long as
different ones stay different. What comes out fits together again, so it is a machine, and a draft that writes it down
is accepted.

* `Definition.writing`, `Definition.create_writing` : **the draft that writes a definition down gives this definition**;
* `Definition.Renaming` : other names for the states and the symbols of a machine;
* `Definition.renamed` : the machine with these names;
* `Definition.lookup_renamed`, `Definition.isFinal_renamed` : **it finds the renamed rules and has the renamed final
  states**.
-/

namespace TapeMachine

/-! ## 1. Definitions that are written down -/

namespace Definition

/-- The draft that writes a definition down, with its rules as they are. -/
def writing (d : Definition) : Draft where
  alphabet := symbolsToJson d.alphabet
  inputSymbols := symbolsToJson d.inputSymbols
  blank := .str (String.singleton d.blank)
  states := statesToJson d.states
  initial := .str d.initial
  finals := statesToJson d.finals
  rules := .rules (d.rules.rules.map (Rule.mapSymbols glyph))
  name := d.name

section Written

variable {d d' : Definition} {s : Sheet} {table : RuleTable String} {name : Json}

/-- Definitions that hold the same parts are the same. -/
theorem eq_of_holds (h : d.Holds s table name) (h' : d'.Holds s table name) : d = d' := by
  have halphabet : d.alphabet = d'.alphabet := Std.ExtTreeSet.ext_mem fun c => by rw [h.alphabet, h'.alphabet]
  have hinput : d.inputSymbols = d'.inputSymbols :=
    Std.ExtTreeSet.ext_mem fun c => by rw [h.inputSymbols, h'.inputSymbols]
  have hblank : d.blank = d'.blank := String.singleton_inj.mp (by rw [h.blank, h'.blank])
  have hstates : d.states = d'.states := Std.ExtTreeSet.ext_mem fun q => by rw [h.states, h'.states]
  have hinitial : d.initial = d'.initial := by rw [h.initial, h'.initial]
  have hfinals : d.finals = d'.finals := Std.ExtTreeSet.ext_mem fun q => by rw [h.finals, h'.finals]
  have hrules : d.rules = d'.rules := by
    have hmap := h.rules.trans h'.rules.symm
    have hlist := (List.map_inj_right fun _ _ => mapSymbols_glyph_inj).mp hmap
    cases hd : d.rules
    cases hd' : d'.rules
    simp_all
  have hname : d.name = d'.name := h.name.trans h'.name.symm
  cases d
  cases d'
  simp_all

theorem texts_symbolsToJson (symbols : SymbolSet) :
    texts (symbolsToJson symbols) = .ok (symbols.toList.map String.singleton) := by
  show Except.ok ((symbols.toList.map fun c => Json.str (String.singleton c)).map Json.display) = _
  rw [List.map_map]
  rfl

theorem texts_statesToJson (states : StateSet) : texts (statesToJson states) = .ok states.toList := by
  show Except.ok ((states.toList.map Json.str).map Json.display) = _
  rw [List.map_map]
  exact congrArg Except.ok (List.map_id _)

/-- The rules of a definition with their symbols as texts. -/
def textTable (d : Definition) : RuleTable String where
  rules := d.rules.rules.map (Rule.mapSymbols glyph)
  nodup := by
    have hkeys : (d.rules.rules.map (Rule.mapSymbols glyph)).map Rule.key =
        (d.rules.rules.map Rule.key).map fun key => (key.1, String.singleton key.2) := by
      rw [List.map_map, List.map_map]
      rfl
    rw [hkeys]
    refine List.pairwise_map.mpr (d.rules.nodup.imp fun hne heq => hne ?_)
    rw [Prod.mk.injEq, String.singleton_inj] at heq
    exact Prod.ext heq.1 heq.2

theorem reads_writing (d : Definition) : d.writing.Reads d.document.sheet := by
  rw [sheet_document]
  exact ⟨texts_symbolsToJson _, texts_symbolsToJson _, rfl, texts_statesToJson _, rfl, texts_statesToJson _⟩

/-- A definition holds the parts of its document. -/
theorem holds_document (d : Definition) : d.Holds d.document.sheet d.textTable d.name := by
  rw [sheet_document]
  exact ⟨fun c => by simp, fun c => by simp, rfl, fun q => Std.ExtTreeSet.mem_toList.symm, rfl,
    fun q => Std.ExtTreeSet.mem_toList.symm, rfl, rfl⟩

/-- **The draft that writes a definition down gives this definition.** -/
theorem create_writing (d : Definition) : create d.writing = .ok d := by
  have hknown : ∀ rule ∈ d.textTable.rules, d.document.sheet.refusal? rule = none := by
    intro rule hrule
    obtain ⟨r, hr, rfl⟩ := List.mem_map.mp hrule
    obtain ⟨hread, hwrite⟩ := d.rule_symbols r hr
    obtain ⟨hstate, hnext⟩ := d.rule_states r hr
    rw [refusal?_eq_none_iff_known, sheet_document]
    exact ⟨⟨Std.ExtTreeSet.mem_toList.mpr hstate, Std.ExtTreeSet.mem_toList.mpr hnext⟩,
      List.mem_map_of_mem (Std.ExtTreeSet.mem_toList.mpr hread),
      List.mem_map_of_mem (Std.ExtTreeSet.mem_toList.mpr hwrite)⟩
  obtain ⟨d', hd', hholds⟩ := exists_holds d.reads_writing d.fits_sheet_document (.rules d.textTable.rules) hknown
  rw [hd', eq_of_holds hholds d.holds_document]

end Written

end Definition

/-! ## 2. Other names -/

section Sets

variable {α β : Type} [Ord α] [Std.TransOrd α] [Std.LawfulEqOrd α] [Ord β] [Std.TransOrd β] [Std.LawfulEqOrd β]
  {f : α → β} {items : Std.ExtTreeSet α}

/-- What the items of a set become. -/
def image (f : α → β) (items : Std.ExtTreeSet α) : Std.ExtTreeSet β :=
  .ofList (items.toList.map f) compare

variable [DecidableEq β]

theorem mem_image {b : β} : b ∈ image f items ↔ ∃ a ∈ items, f a = b := by
  rw [image, Std.ExtTreeSet.mem_ofList, List.contains_iff_mem, List.mem_map]
  simp only [Std.ExtTreeSet.mem_toList]

theorem mem_image_of_mem {a : α} (h : a ∈ items) : f a ∈ image f items :=
  mem_image.mpr ⟨a, h, rfl⟩

/-- Where different items stay different, an item belongs to a smaller set when what it becomes does. -/
theorem mem_of_mem_image {more : Std.ExtTreeSet α} (hinj : ∀ a ∈ more, ∀ b ∈ more, f a = f b → a = b)
    (hsub : ∀ a ∈ items, a ∈ more) {a : α} (ha : a ∈ more) (h : f a ∈ image f items) : a ∈ items := by
  obtain ⟨b, hb, heq⟩ := mem_image.mp h
  rwa [← hinj b (hsub b hb) a ha heq]

end Sets

namespace Definition

/-- **Other names for the states and the symbols of a machine**, different ones for different ones. -/
structure Renaming (d : Definition) where
  state : String → String
  symbol : Char → Char
  state_inj : ∀ p ∈ d.states, ∀ q ∈ d.states, state p = state q → p = q
  symbol_inj : ∀ a ∈ d.alphabet, ∀ b ∈ d.alphabet, symbol a = symbol b → a = b

variable {d : Definition} (ρ : d.Renaming)

/-- A rule with other names. -/
def Renaming.rule (rule : Rule Char) : Rule Char :=
  { state := ρ.state rule.state, read := ρ.symbol rule.read, write := ρ.symbol rule.write, move := rule.move
    next := ρ.state rule.next }

/-- A rule of the machine has the renamed key of a known state and symbol only if it has their key. -/
theorem Renaming.key_eq {rule : Rule Char} (hrule : rule ∈ d.rules.rules) {q : String} {a : Char} (hq : q ∈ d.states)
    (ha : a ∈ d.alphabet) (h : (ρ.rule rule).key = (ρ.state q, ρ.symbol a)) : rule.key = (q, a) := by
  rw [Rule.key, Prod.mk.injEq] at h
  exact Prod.ext (ρ.state_inj _ (d.rule_states rule hrule).1 _ hq h.1)
    (ρ.symbol_inj _ (d.rule_symbols rule hrule).1 _ ha h.2)

/-- The rules of the machine with other names. -/
def Renaming.table : RuleTable Char where
  rules := d.rules.rules.map ρ.rule
  nodup := by
    rw [List.map_map, List.Nodup, List.pairwise_map]
    refine (List.pairwise_map.mp d.rules.nodup).imp_of_mem fun {a b} ha hb hne heq => hne ?_
    exact ρ.key_eq ha (d.rule_states b hb).1 (d.rule_symbols b hb).1 heq

/-- **The machine with other names.** -/
def renamed (d : Definition) (ρ : d.Renaming) : Definition where
  alphabet := image ρ.symbol d.alphabet
  inputSymbols := image ρ.symbol d.inputSymbols
  blank := ρ.symbol d.blank
  states := image ρ.state d.states
  initial := ρ.state d.initial
  finals := image ρ.state d.finals
  rules := ρ.table
  name := d.name
  blank_mem := mem_image_of_mem d.blank_mem
  input_subset := fun c hc => by
    obtain ⟨a, ha, rfl⟩ := mem_image.mp hc
    exact mem_image_of_mem (d.input_subset a ha)
  blank_not_input := fun h => d.blank_not_input (mem_of_mem_image ρ.symbol_inj d.input_subset d.blank_mem h)
  initial_mem := mem_image_of_mem d.initial_mem
  finals_subset := fun q hq => by
    obtain ⟨p, hp, rfl⟩ := mem_image.mp hq
    exact mem_image_of_mem (d.finals_subset p hp)
  rule_states := fun r hr => by
    obtain ⟨rule, hrule, rfl⟩ := List.mem_map.mp hr
    obtain ⟨hstate, hnext⟩ := d.rule_states rule hrule
    exact ⟨mem_image_of_mem hstate, mem_image_of_mem hnext⟩
  rule_symbols := fun r hr => by
    obtain ⟨rule, hrule, rfl⟩ := List.mem_map.mp hr
    obtain ⟨hread, hwrite⟩ := d.rule_symbols rule hrule
    exact ⟨mem_image_of_mem hread, mem_image_of_mem hwrite⟩

/-! ## 3. What the renamed machine finds -/

section Known

variable {q : String} (hq : q ∈ d.states)
include hq

/-- **The renamed machine finds the renamed rule**, or none as well. -/
theorem lookup_renamed {a : Char} (ha : a ∈ d.alphabet) :
    (d.renamed ρ).rules.lookup (ρ.state q) (ρ.symbol a) = (d.rules.lookup q a).map ρ.rule := by
  refine Option.ext fun rule' => ?_
  simp only [RuleTable.lookup_eq_some_iff, Option.map_eq_some_iff]
  constructor
  · rintro ⟨hmem, hkey⟩
    obtain ⟨rule, hrule, rfl⟩ := List.mem_map.mp hmem
    exact ⟨rule, ⟨hrule, ρ.key_eq hrule hq ha hkey⟩, rfl⟩
  · rintro ⟨rule, ⟨hrule, hkey⟩, rfl⟩
    rw [Rule.key, Prod.mk.injEq] at hkey
    exact ⟨List.mem_map_of_mem hrule, by rw [← hkey.1, ← hkey.2]; rfl⟩

/-- **The renamed machine has the renamed final states.** -/
theorem isFinal_renamed : (d.renamed ρ).isFinal (ρ.state q) = d.isFinal q := by
  rw [Bool.eq_iff_iff, isFinal, isFinal, ← Std.ExtTreeSet.mem_iff_contains, ← Std.ExtTreeSet.mem_iff_contains]
  exact ⟨mem_of_mem_image ρ.state_inj d.finals_subset hq, mem_image_of_mem⟩

end Known

end Definition

end TapeMachine
