import TapeMachine.Machine.Rule
/-!
# Rule tables

A table holds at most one rule for each state and symbol, in the order in which they were added.

* `RuleTable.insert?` : adding a rule, refused when its key is taken;
* `RuleTable.lookup` : the rule for a state and a symbol;
* `RuleTable.lookup_eq_some_iff` : **the look-up finds exactly the rules of the table, by their keys**;
* `RuleTable.same` : whether two tables have the same rule for every key;
* `RuleTable.hashBy` : the hash of a table, from the hashes of its rules.
-/

namespace TapeMachine

/-- Rules with pairwise different keys. -/
structure RuleTable (σ : Type) where
  rules : List (Rule σ)
  nodup : (rules.map Rule.key).Nodup

namespace RuleTable

variable {σ τ : Type}

/-- The table without rules. -/
def empty : RuleTable σ :=
  ⟨[], by simp⟩

/-- The number of rules. -/
def size (table : RuleTable σ) : Nat :=
  table.rules.length

/-- A hash with its bits spread. -/
def spread (hash : UInt64) : UInt64 :=
  (hash ^^^ (89869747 : UInt64) ^^^ (hash <<< 16)) * 3644798167

/-- The hashes of some rules in one. Each is spread on its own, since hashes often differ in a few bits only. -/
def combined (ruleHash : Rule σ → UInt64) (rules : List (Rule σ)) : UInt64 :=
  rules.foldl (fun hash rule => hash ^^^ spread (ruleHash rule)) 0

/-- The hash of a table as a set of rules, from any hash of rules: their hashes and their number, with the bits mixed once
more. The greatest number is no hash. -/
def hashBy (ruleHash : Rule σ → UInt64) (table : RuleTable σ) : UInt64 :=
  let whole := combined ruleHash table.rules ^^^ ((UInt64.ofNat table.size + 1) * 1927868237)
  let mixed := (whole ^^^ (whole >>> 11) ^^^ (whole >>> 25)) * 69069 + 907133923
  if mixed = 0xFFFFFFFFFFFFFFFF then 590923713 else mixed

variable [DecidableEq σ]

instance : DecidableEq (RuleTable σ) := fun a b =>
  if h : a.rules = b.rules then isTrue (by cases a; cases b; simp_all)
  else isFalse (fun e => h (e ▸ rfl))

/-- The rule for a state and a symbol. -/
def lookup (table : RuleTable σ) (state : String) (symbol : σ) : Option (Rule σ) :=
  table.rules.find? (·.key = (state, symbol))

/-- Whether there is a rule for a state and a symbol. -/
def contains (table : RuleTable σ) (state : String) (symbol : σ) : Bool :=
  table.rules.any (·.key = (state, symbol))

/-- The table with one more rule, if its key is free. -/
def insert? (table : RuleTable σ) (rule : Rule σ) : Option (RuleTable σ) :=
  if h : rule.key ∈ table.rules.map Rule.key then none
  else some ⟨table.rules ++ [rule], by
    rw [List.map_append, List.nodup_append]
    refine ⟨table.nodup, by simp, fun a ha b hb hab => ?_⟩
    simp only [List.map_cons, List.map_nil, List.mem_singleton] at hb
    exact h (by rw [← hb, ← hab]; exact ha)⟩

/-- Whether two tables are equal: they have as many rules, and the second one finds each rule of the first one by its
key. -/
def same (a b : RuleTable σ) : Bool :=
  a.size = b.size && a.rules.all fun rule => b.lookup rule.state rule.read = some rule

/-- The text of a table. -/
def text (table : RuleTable σ) : String :=
  s!"TransitionTable({table.size} transitions)"

omit [DecidableEq σ] in
/-- Keys that stay different under a map of the symbols were different before. -/
theorem nodup_of_mapSymbols {f : σ → τ} {rules : List (Rule σ)}
    (h : ((rules.map (Rule.mapSymbols f)).map Rule.key).Nodup) : (rules.map Rule.key).Nodup := by
  have hmap : (rules.map (Rule.mapSymbols f)).map Rule.key =
      (rules.map Rule.key).map fun key => (key.1, f key.2) := by simp
  rw [hmap, List.Nodup, List.pairwise_map] at h
  exact h.imp fun hne e => hne (by rw [e])

/-! ## Laws -/

section Laws

variable {table : RuleTable σ} {state : String} {symbol : σ} {rule : Rule σ}

omit [DecidableEq σ] in
theorem eq_of_key_eq_of_nodup {rules : List (Rule σ)} (hnodup : (rules.map Rule.key).Nodup) {a b : Rule σ}
    (ha : a ∈ rules) (hb : b ∈ rules) (h : a.key = b.key) : a = b := by
  induction rules with
  | nil => cases ha
  | cons r rules ih =>
      simp only [List.map_cons, List.nodup_cons, List.mem_map, not_exists, not_and] at hnodup
      rcases List.mem_cons.1 ha with rfl | ha'
      · rcases List.mem_cons.1 hb with rfl | hb'
        · rfl
        · exact absurd h.symm (hnodup.1 b hb')
      · rcases List.mem_cons.1 hb with rfl | hb'
        · exact absurd h (hnodup.1 a ha')
        · exact ih hnodup.2 ha' hb'

/-- **The look-up finds exactly the rules of the table, by their keys.** -/
theorem lookup_eq_some_iff :
    table.lookup state symbol = some rule ↔ rule ∈ table.rules ∧ rule.key = (state, symbol) := by
  constructor
  · intro h
    exact ⟨List.mem_of_find?_eq_some h, by simpa using List.find?_some h⟩
  · rintro ⟨hmem, hkey⟩
    cases hfind : table.lookup state symbol with
    | none =>
        have := List.find?_eq_none.1 hfind rule hmem
        simp [hkey] at this
    | some other =>
        have hother : other.key = (state, symbol) := by simpa using List.find?_some hfind
        rw [eq_of_key_eq_of_nodup table.nodup (List.mem_of_find?_eq_some hfind) hmem (hother.trans hkey.symm)]

theorem contains_eq_isSome_lookup :
    table.contains state symbol = (table.lookup state symbol).isSome := by
  rw [contains, lookup]
  induction table.rules with
  | nil => rfl
  | cons r rules ih => by_cases h : r.key = (state, symbol) <;> simp [h, ih]

end Laws

end RuleTable

end TapeMachine
