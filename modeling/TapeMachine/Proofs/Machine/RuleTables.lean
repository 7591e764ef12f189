import Mathlib.Data.List.Nodup
import Mathlib.Data.List.Perm.Subperm
import Mathlib.Order.Nat
import TapeMachine.Machine.Definition
import TapeMachine.Proofs.Except
/-!
# Tables are maps

A table is filled with rules one by one until a key comes again. What it holds then is a map from keys to rules, and
which map it is does not depend on the order of the rules: tables are compared by looking the rules of the one up in the
other, and hashed as sets.

* `RuleTable.fill_eq_ok_iff` : when a table is filled: all entries are read, and the table has just these rules;
* `RuleTable.Repeats`, `RuleTable.fill_of_first_repeat` : **a list is refused for the first rule whose key comes again**;
* `RuleTable.MapOf`, `RuleTable.mapOf_rules` : **a table is the map of its rules**;
* `RuleTable.same_iff_perm` : **tables are equal when they have the same rules, in any order**;
* `RuleTable.hashBy_eq_of_perm` : the order of the rules makes no difference to the hash;
* `RuleTable.filled_as_map` : all this for the tables that lists fill.
-/

namespace TapeMachine.RuleTable

/-! ## 1. Filling -/

section Filling

variable {table more : RuleTable String}

/-- Tables with the same rules are the same. -/
theorem ext_rules (h : table.rules = more.rules) : table = more := by
  cases table
  cases more
  cases h
  rfl

/-- A rule is added exactly when there is a table with it at the end. -/
theorem add_eq_ok_iff {rule : Rule String} : table.add rule = .ok more ↔ more.rules = table.rules ++ [rule] := by
  unfold add insert?
  by_cases hkey : rule.key ∈ table.rules.map Rule.key
  · rw [dif_pos hkey]
    refine iff_of_false nofun fun h => ?_
    have hnodup := more.nodup
    rw [h, List.map_append, List.nodup_append] at hnodup
    exact hnodup.2.2 _ hkey _ (by simp) rfl
  · rw [dif_neg hkey]
    constructor
    · intro h
      cases h
      rfl
    · exact fun h => congrArg Except.ok (ext_rules h.symm)

/-- Entries are added one by one. -/
theorem foldlM_addRead_eq_ok_iff {entries : List (Except DefinitionError (Rule String))} :
    entries.foldlM addRead table = .ok more ↔
      ∃ rules, entries = rules.map .ok ∧ more.rules = table.rules ++ rules := by
  induction entries generalizing table with
  | nil =>
      constructor
      · intro h
        cases h
        exact ⟨[], rfl, (List.append_nil _).symm⟩
      · rintro ⟨rules, hrules, hmore⟩
        rw [List.map_eq_nil_iff.mp hrules.symm, List.append_nil] at hmore
        exact congrArg Except.ok (ext_rules hmore.symm)
  | cons entry entries ih =>
      rw [List.foldlM_cons]
      constructor
      · intro h
        obtain ⟨next, hnext, hrest⟩ := exists_of_bind_eq_ok h
        obtain ⟨rule, rfl, hadd⟩ := exists_of_bind_eq_ok hnext
        obtain ⟨rules, rfl, hmore⟩ := ih.mp hrest
        exact ⟨rule :: rules, rfl, by rw [hmore, add_eq_ok_iff.mp hadd, List.append_assoc]; rfl⟩
      · rintro ⟨rules, hrules, hmore⟩
        obtain ⟨rule, rules, rfl, rfl, hrest⟩ := List.map_eq_cons_iff.mp hrules.symm
        have hfront : (table.rules ++ [rule]).Sublist more.rules := by
          rw [hmore, List.append_cons table.rules rule rules]
          exact List.sublist_append_left _ _
        let next : RuleTable String := ⟨table.rules ++ [rule], more.nodup.sublist (hfront.map _)⟩
        have hadd : table.addRead (.ok rule) = .ok next := add_eq_ok_iff.mpr rfl
        rw [hadd]
        exact ih.mpr ⟨rules, hrest.symm, by rw [hmore, List.append_cons]⟩

/-- **When a table is filled**: all entries are read, and the table has just these rules. -/
theorem fill_eq_ok_iff {entries : List (Except DefinitionError (Rule String))} :
    fill entries = .ok table ↔ entries = table.rules.map .ok := by
  unfold fill
  rw [foldlM_addRead_eq_ok_iff]
  constructor
  · rintro ⟨rules, hentries, hrules⟩
    rw [hentries, hrules]
    rfl
  · exact fun h => ⟨table.rules, h, rfl⟩

end Filling

/-! ## 2. Repeated keys -/

section Repeated

variable {σ : Type} {rules : List (Rule σ)} {i j : Nat}

/-- Whether the rule at a position has the key of an earlier one. -/
def Repeats (rules : List (Rule σ)) (j : Nat) : Prop :=
  ∃ i a b, i < j ∧ rules[i]? = some a ∧ rules[j]? = some b ∧ a.key = b.key

/-- Keys are pairwise different exactly when none comes again. -/
theorem nodup_keys_iff : (rules.map Rule.key).Nodup ↔ ∀ j, ¬ Repeats rules j := by
  rw [List.Nodup, List.pairwise_map, List.pairwise_iff_getElem]
  constructor
  · rintro h j ⟨i, a, b, hij, ha, hb, hkey⟩
    obtain ⟨hi, rfl⟩ := List.getElem?_eq_some_iff.mp ha
    obtain ⟨hj, rfl⟩ := List.getElem?_eq_some_iff.mp hb
    exact h i j hi hj hij hkey
  · intro h i j hi hj hij hkey
    exact h j ⟨i, _, _, hij, List.getElem?_eq_getElem hi, List.getElem?_eq_getElem hj, hkey⟩

/-- What is repeated in the front of a list is repeated in the list. -/
theorem Repeats.of_take (h : Repeats (rules.take j) i) : i < j ∧ Repeats rules i := by
  obtain ⟨k, a, b, hk, ha, hb, hkey⟩ := h
  rw [List.getElem?_take] at ha hb
  obtain ⟨hi, hb⟩ := Option.ite_none_right_eq_some.mp hb
  obtain ⟨_, ha⟩ := Option.ite_none_right_eq_some.mp ha
  exact ⟨hi, k, a, b, hk, ha, hb, hkey⟩

/-- Before the first repeated key all keys are different. -/
theorem nodup_keys_take (hj : IsLeast {j | Repeats rules j} j) : ((rules.take j).map Rule.key).Nodup := by
  rw [nodup_keys_iff]
  intro i hi
  obtain ⟨hlt, hi⟩ := hi.of_take
  exact Nat.not_lt_of_le (hj.2 hi) hlt

/-- A repeated key is one of those before it. -/
theorem Repeats.key_mem_take {rule : Rule σ} (h : Repeats rules j) (hrule : rules[j]? = some rule) :
    rule.key ∈ (rules.take j).map Rule.key := by
  obtain ⟨i, a, b, hij, ha, hb, hkey⟩ := h
  obtain rfl : b = rule := Option.some.inj (hb.symm.trans hrule)
  rw [← hkey]
  exact List.mem_map_of_mem (List.mem_of_getElem? (i := i) (by rw [List.getElem?_take, if_pos hij, ha]))

end Repeated

section Refused

variable {table : RuleTable String} {rules : List (Rule String)} {rule : Rule String} {j : Nat}

/-- A rule whose key is taken is refused, even if it is the very rule that took it. -/
theorem add_of_mem (h : rule.key ∈ table.rules.map Rule.key) :
    table.add rule = .error (.duplicateRule rule.state rule.read) := by
  rw [add, insert?, dif_pos h]

/-- **A list is refused for the first rule whose key comes again**: the rules before it fill a table. -/
theorem fill_of_first_repeat (hj : IsLeast {j | Repeats rules j} j) (hrule : rules[j]? = some rule) :
    fill (rules.map .ok) = .error (.duplicateRule rule.state rule.read) := by
  obtain ⟨hlt, hget⟩ := List.getElem?_eq_some_iff.mp hrule
  let front : RuleTable String := ⟨rules.take j, nodup_keys_take hj⟩
  have hfront : fill (front.rules.map .ok) = .ok front := fill_eq_ok_iff.mpr rfl
  have hadd : front.addRead (.ok rule) = .error (.duplicateRule rule.state rule.read) :=
    add_of_mem (hj.1.key_mem_take hrule)
  have hsplit : rules = front.rules ++ rule :: rules.drop (j + 1) := by
    rw [← hget, ← List.drop_eq_getElem_cons hlt]
    exact (List.take_append_drop j rules).symm
  have hfill : fill (rules.map .ok) = fill (front.rules.map .ok) >>= fun table =>
      (Except.ok rule :: (rules.drop (j + 1)).map .ok).foldlM addRead table := by
    conv => lhs; rw [hsplit]
    rw [List.map_append, List.map_cons, fill, List.foldlM_append]
    rfl
  rw [hfill, hfront]
  show (front.addRead (.ok rule) >>= _) = _
  rw [hadd]
  rfl

/-- A list in which a key comes again has a first such rule. -/
theorem exists_first_repeat (h : ∃ j, Repeats rules j) :
    ∃ j rule, IsLeast {j | Repeats rules j} j ∧ rules[j]? = some rule := by
  classical
  have hleast := Nat.isLeast_find h
  obtain ⟨_, _, rule, _, _, hrule, _⟩ := hleast.1
  exact ⟨_, rule, hleast, hrule⟩

/-- **A list in which no key comes again fills a table.** -/
theorem exists_fill (h : ∀ j, ¬ Repeats rules j) : ∃ table, fill (rules.map .ok) = .ok table ∧ table.rules = rules :=
  ⟨⟨rules, nodup_keys_iff.mpr h⟩, fill_eq_ok_iff.mpr rfl, rfl⟩

/-- **When a list is refused**: when a key comes again, and then for the first rule with such a key. -/
theorem fill_eq_error_iff {e : DefinitionError} : fill (rules.map .ok) = .error e ↔
    ∃ j rule, IsLeast {j | Repeats rules j} j ∧ rules[j]? = some rule ∧ e = .duplicateRule rule.state rule.read := by
  constructor
  · intro he
    by_cases h : ∃ j, Repeats rules j
    · obtain ⟨j, rule, hj, hrule⟩ := exists_first_repeat h
      rw [fill_of_first_repeat hj hrule] at he
      exact ⟨j, rule, hj, hrule, (Except.error.inj he).symm⟩
    · obtain ⟨table, htable, _⟩ := exists_fill (not_exists.mp h)
      rw [htable] at he
      cases he
  · rintro ⟨j, rule, hj, hrule, rfl⟩
    exact fill_of_first_repeat hj hrule

end Refused

/-! ## 3. Finding -/

section Finding

variable {σ : Type} [DecidableEq σ] {table a b : RuleTable σ} {q : String} {s : σ}

/-- **What it is to be the map of a list of rules**: it has the rules in their order, and finds the one rule of the list
with a key, if there is one. -/
structure MapOf (table : RuleTable σ) (rules : List (Rule σ)) : Prop where
  rules_eq : table.rules = rules
  size_eq : table.size = rules.length
  found : ∀ q s rule, table.lookup q s = some rule ↔ rules.filter (·.key = (q, s)) = [rule]
  missing : ∀ q s, table.lookup q s = none ↔ ∀ rule ∈ rules, rule.key ≠ (q, s)
  contains_eq : ∀ q s, table.contains q s = (table.lookup q s).isSome

/-- At most one rule has a key, and the look-up gives it. -/
theorem filter_key_eq : table.rules.filter (·.key = (q, s)) = (table.lookup q s).toList := by
  rw [lookup, ← List.head?_filter]
  cases hrules : table.rules.filter (·.key = (q, s)) with
  | nil => rfl
  | cons first others =>
      cases others with
      | nil => rfl
      | cons second others =>
          have hsub : (first :: second :: others).Sublist table.rules := hrules ▸ List.filter_sublist
          have hne := List.pairwise_map.mp (table.nodup.sublist (hsub.map Rule.key))
          have hkey (rule : Rule σ) (h : rule ∈ first :: second :: others) : rule.key = (q, s) := by
            rw [← hrules] at h
            exact of_decide_eq_true (List.mem_filter.mp h).2
          exact absurd ((hkey first (by simp)).trans (hkey second (by simp)).symm)
            (List.rel_of_pairwise_cons hne (by simp))

/-- **A table is the map of its rules.** -/
theorem mapOf_rules (table : RuleTable σ) : table.MapOf table.rules where
  rules_eq := rfl
  size_eq := rfl
  found q s rule := by
    rw [filter_key_eq]
    cases table.lookup q s <;> simp
  missing q s := by
    rw [lookup, List.find?_eq_none]
    simp only [decide_eq_true_eq, ne_eq]
  contains_eq _ _ := contains_eq_isSome_lookup

/-! ## 4. Equality and hashes -/

/-- **Tables are equal when they have the same rules, in any order.** -/
theorem same_iff_perm : a.same b = true ↔ a.rules.Perm b.rules := by
  rw [same, Bool.and_eq_true, decide_eq_true_eq, List.all_eq_true]
  constructor
  · rintro ⟨hsize, hfound⟩
    have hsubset : a.rules ⊆ b.rules := fun rule hrule =>
      (lookup_eq_some_iff.mp (of_decide_eq_true (hfound rule hrule))).1
    -- as many rules as the other table has, none of them twice, leave none of them out
    exact (List.subperm_of_subset (List.Nodup.of_map _ a.nodup) hsubset).perm_of_length_le (Nat.le_of_eq hsize.symm)
  · intro h
    refine ⟨h.length_eq, fun rule hrule => decide_eq_true ?_⟩
    exact lookup_eq_some_iff.mpr ⟨h.mem_iff.mp hrule, rfl⟩

omit [DecidableEq σ] in
/-- The hashes of rules are combined alike in any order. -/
theorem combined_eq_of_perm {rules rules' : List (Rule σ)} (h : rules.Perm rules') (ruleHash : Rule σ → UInt64) :
    combined ruleHash rules = combined ruleHash rules' :=
  h.foldl_eq' (fun x _ y _ hash => by rw [UInt64.xor_assoc, UInt64.xor_comm (spread _), ← UInt64.xor_assoc]) 0

omit [DecidableEq σ] in
/-- **The order of the rules makes no difference to the hash of a table**, whatever the hashes of the rules are. -/
theorem hashBy_eq_of_perm (h : a.rules.Perm b.rules) (ruleHash : Rule σ → UInt64) :
    a.hashBy ruleHash = b.hashBy ruleHash := by
  have hsize : a.size = b.size := h.length_eq
  rw [hashBy, hashBy, combined_eq_of_perm h, hsize]

end Finding

/-! ## 5. The tables that lists fill -/

/-- **A list of rules fills a table that is its map, or is refused.** It is refused exactly when a key comes again, be it
with the same rule, and the error names the first such key. Otherwise the table has the rules in their order and finds
each by its key; and it equals another table exactly when that one was filled with the same rules in any order, and then
both have the same hash. -/
theorem filled_as_map (rules : List (Rule String)) :
    ((∃ e, fill (rules.map .ok) = .error e) ↔ ∃ j, Repeats rules j) ∧
    (∀ e, fill (rules.map .ok) = .error e ↔ ∃ j rule, IsLeast {j | Repeats rules j} j ∧ rules[j]? = some rule ∧
      e = .duplicateRule rule.state rule.read) ∧
    ((∀ j, ¬ Repeats rules j) → ∃ table, fill (rules.map .ok) = .ok table ∧ table.MapOf rules ∧
      ∀ others other, fill (others.map .ok) = .ok other →
        (table.same other = true ↔ rules.Perm others) ∧
        (table.same other = true → ∀ ruleHash, table.hashBy ruleHash = other.hashBy ruleHash)) := by
  refine ⟨⟨?_, fun h => ?_⟩, fun e => fill_eq_error_iff, fun h => ?_⟩
  · rintro ⟨e, he⟩
    obtain ⟨j, _, hj, _⟩ := fill_eq_error_iff.mp he
    exact ⟨j, hj.1⟩
  · obtain ⟨j, rule, hj, hrule⟩ := exists_first_repeat h
    exact ⟨_, fill_of_first_repeat hj hrule⟩
  · obtain ⟨table, htable, rfl⟩ := exists_fill h
    refine ⟨table, htable, table.mapOf_rules, fun others other hother => ?_⟩
    obtain rfl : others = other.rules :=
      List.map_injective_iff.mpr (fun _ _ => Except.ok.inj) (fill_eq_ok_iff.mp hother)
    exact ⟨same_iff_perm, fun hsame => hashBy_eq_of_perm (same_iff_perm.mp hsame)⟩

/-- A rule that comes twice is refused. -/
example : fill [.ok ⟨"q", "a", "b", .right, "q"⟩, .ok ⟨"q", "a", "b", .right, "q"⟩] = .error (.duplicateRule "q" "a") :=
  rfl

end TapeMachine.RuleTable
