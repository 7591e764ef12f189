import Mathlib.Algebra.Group.Nat.Defs
import TapeMachine.Proofs.Run.Equality
import TapeMachine.Proofs.Run.Sweeping
/-!
# What the machine that compares two blocks decides

The machine marks a zero and the first one behind it in each round, and goes back to the first zero that is left. It
accepts when everything is marked. Before a round there are a part that is done, then zeros and marked ones, and then the
rest of the input.

* `Definition.equalBlocks`, `Definition.equalBlocksDocument` : the machine and its document;
* `Definition.leads_round` : **a round**;
* `Definition.Matched` : what is left of an input which the machine accepts, kept by a round in both directions;
* `Definition.settles` : **from each such configuration the machine comes to an end**, after quadratically many steps;
* `Definition.equalBlocks_decides` : **it accepts just the inputs with as many ones behind as many zeros.**
-/

namespace TapeMachine.Definition

open Config

/-! ## 1. The machine -/

/-- The rules of the machine. -/
def equalBlocksRules : RuleTable Char where
  rules := [
    { state := "q0", read := '0', write := 'X', move := .right, next := "q1" },
    { state := "q0", read := 'B', write := 'B', move := .right, next := "q3" },
    { state := "q0", read := 'Y', write := 'Y', move := .right, next := "q4" },
    { state := "q1", read := '0', write := '0', move := .right, next := "q1" },
    { state := "q1", read := 'Y', write := 'Y', move := .right, next := "q1" },
    { state := "q1", read := '1', write := 'Y', move := .left, next := "q2" },
    { state := "q2", read := '0', write := '0', move := .left, next := "q2" },
    { state := "q2", read := 'Y', write := 'Y', move := .left, next := "q2" },
    { state := "q2", read := 'X', write := 'X', move := .right, next := "q0" },
    { state := "q4", read := 'Y', write := 'Y', move := .right, next := "q4" },
    { state := "q4", read := 'B', write := 'B', move := .right, next := "q3" }]
  nodup := by decide

/-- The machine that accepts a block of zeros and a block of as many ones. -/
def equalBlocks : Definition where
  alphabet := .ofList ['0', '1', 'X', 'Y', 'B']
  inputSymbols := .ofList ['0', '1']
  blank := 'B'
  states := .ofList ["q0", "q1", "q2", "q3", "q4"]
  initial := "q0"
  finals := .ofList ["q3"]
  rules := equalBlocksRules
  name := .str "zero_n_one_n"
  blank_mem := by decide
  input_subset := by simp
  blank_not_input := blank_not_bit
  initial_mem := by decide
  finals_subset := by simp
  rule_states := by decide
  rule_symbols := by decide

/-- The document of the machine. -/
def equalBlocksDocument : String :=
"\x7b
    \"alphabet\": [\"0\", \"1\", \"X\", \"Y\", \"B\"],
    \"blank_symbol\": \"B\",
    \"input_symbols\": [\"0\", \"1\"],
    \"states\": [\"q0\", \"q1\", \"q2\", \"q3\", \"q4\"],
    \"initial_state\": \"q0\",
    \"final_states\": [\"q3\"],
    \"transitions\": [
        \x7b\"from_state\": \"q0\", \"read_symbol\": \"0\", \"write_symbol\": \"X\", \"move_to\": \"R\", \"next_state\": \"q1\"\x7d,
        \x7b\"from_state\": \"q0\", \"read_symbol\": \"B\", \"write_symbol\": \"B\", \"move_to\": \"R\", \"next_state\": \"q3\"\x7d,
        \x7b\"from_state\": \"q0\", \"read_symbol\": \"Y\", \"write_symbol\": \"Y\", \"move_to\": \"R\", \"next_state\": \"q4\"\x7d,
        \x7b\"from_state\": \"q1\", \"read_symbol\": \"0\", \"write_symbol\": \"0\", \"move_to\": \"R\", \"next_state\": \"q1\"\x7d,
        \x7b\"from_state\": \"q1\", \"read_symbol\": \"Y\", \"write_symbol\": \"Y\", \"move_to\": \"R\", \"next_state\": \"q1\"\x7d,
        \x7b\"from_state\": \"q1\", \"read_symbol\": \"1\", \"write_symbol\": \"Y\", \"move_to\": \"L\", \"next_state\": \"q2\"\x7d,
        \x7b\"from_state\": \"q2\", \"read_symbol\": \"0\", \"write_symbol\": \"0\", \"move_to\": \"L\", \"next_state\": \"q2\"\x7d,
        \x7b\"from_state\": \"q2\", \"read_symbol\": \"Y\", \"write_symbol\": \"Y\", \"move_to\": \"L\", \"next_state\": \"q2\"\x7d,
        \x7b\"from_state\": \"q2\", \"read_symbol\": \"X\", \"write_symbol\": \"X\", \"move_to\": \"R\", \"next_state\": \"q0\"\x7d,
        \x7b\"from_state\": \"q4\", \"read_symbol\": \"Y\", \"write_symbol\": \"Y\", \"move_to\": \"R\", \"next_state\": \"q4\"\x7d,
        \x7b\"from_state\": \"q4\", \"read_symbol\": \"B\", \"write_symbol\": \"B\", \"move_to\": \"R\", \"next_state\": \"q3\"\x7d
    ]
\x7d
"

set_option maxRecDepth 8000 in
/-- The document is that of the machine. -/
theorem exists_equal_equalBlocksDocument :
    ∃ d, ofText equalBlocksDocument (.str "zero_n_one_n") = .ok d ∧ d.Equal equalBlocks :=
  exists_equal_ofText String.toList_ofList (by decide +kernel)

/-! ## 2. Rounds -/

/-- Whether a cell is one that a round goes over: a zero, or a one that is marked. -/
def IsPassed (c : Char) : Prop :=
  c = '0' ∨ c = 'Y'

variable {left mid rest cells : List Char} {high : Int}

theorem passed_concat {a : Char} (hmid : ∀ c ∈ mid, IsPassed c) (ha : IsPassed a) : ∀ c ∈ mid ++ [a], IsPassed c :=
  List.forall_mem_append.mpr ⟨hmid, List.forall_mem_singleton.mpr ha⟩

/-- The sweep to the first one that is left. -/
theorem leads_seek (hmid : ∀ c ∈ mid, IsPassed c) (hhigh : (left.length : Int) + mid.length ≤ high + 1) :
    equalBlocks.Leads 0 high mid.length (onFirst 'B' 0 "q1" left (mid ++ rest))
      (onFirst 'B' 0 "q1" (left ++ mid) rest) := by
  have hlookup : ∀ c ∈ mid, equalBlocks.rules.lookup "q1" c = some ⟨"q1", c, c, .right, "q1"⟩ := by
    intro c hc
    rcases hmid c hc with rfl | rfl <;> rfl
  exact leads_pass_right hlookup (by omega) (by omega)

/-- The sweep back. -/
theorem leads_return (hmid : ∀ c ∈ mid, IsPassed c) (hhigh : (left.length : Int) + mid.length ≤ high + 1) :
    equalBlocks.Leads 0 high mid.length (onLast 'B' 0 "q2" (left ++ mid) rest)
      (onLast 'B' 0 "q2" left (mid ++ rest)) := by
  have hlookup : ∀ c ∈ mid, equalBlocks.rules.lookup "q2" c = some ⟨"q2", c, c, .left, "q2"⟩ := by
    intro c hc
    rcases hmid c hc with rfl | rfl <;> rfl
  exact leads_pass_left hlookup (by omega) (by omega)

/-- **A round** marks the first zero and the first one that is left. -/
theorem leads_round (hmid : ∀ c ∈ mid, IsPassed c) (hhigh : (left.length : Int) + mid.length + 1 ≤ high) :
    equalBlocks.Leads 0 high (2 * mid.length + 3) (onFirst 'B' 0 "q0" left ('0' :: (mid ++ '1' :: rest)))
      (onFirst 'B' 0 "q0" (left ++ ['X']) (mid ++ 'Y' :: rest)) := by
  have hleft : ((left ++ ['X']).length : Int) = left.length + 1 := by simp
  have hpassed : ((left ++ ['X'] ++ mid).length : Int) = left.length + 1 + mid.length := by simp; omega
  have hzero : equalBlocks.Leads 0 high 1 (onFirst 'B' 0 "q0" left ('0' :: (mid ++ '1' :: rest)))
      (onFirst 'B' 0 "q1" (left ++ ['X']) (mid ++ '1' :: rest)) := leads_right (by omega) (by omega) rfl
  have hseek : equalBlocks.Leads 0 high mid.length (onFirst 'B' 0 "q1" (left ++ ['X']) (mid ++ '1' :: rest))
      (onFirst 'B' 0 "q1" (left ++ ['X'] ++ mid) ('1' :: rest)) := leads_seek hmid (by omega)
  have hone : equalBlocks.Leads 0 high 1 (onFirst 'B' 0 "q1" (left ++ ['X'] ++ mid) ('1' :: rest))
      (onLast 'B' 0 "q2" (left ++ ['X'] ++ mid) ('Y' :: rest)) := leads_left (by omega) (by omega) rfl
  have hreturn : equalBlocks.Leads 0 high mid.length (onLast 'B' 0 "q2" (left ++ ['X'] ++ mid) ('Y' :: rest))
      (onLast 'B' 0 "q2" (left ++ ['X']) (mid ++ 'Y' :: rest)) := leads_return hmid (by omega)
  have hnext : equalBlocks.Leads 0 high 1 (onFirst 'B' 0 "q2" left ('X' :: (mid ++ 'Y' :: rest)))
      (onFirst 'B' 0 "q0" (left ++ ['X']) (mid ++ 'Y' :: rest)) := leads_right (by omega) (by omega) rfl
  rw [onLast_concat] at hreturn
  have hsum : 2 * mid.length + 3 = 1 + (mid.length + (1 + (mid.length + 1))) := by omega
  rw [hsum]
  exact hzero.trans (hseek.trans (hone.trans (hreturn.trans hnext)))

/-! ## 3. What is left of an accepted input -/

/-- Whether a cell may stand before another one: first the zeros, then the marked ones, then the ones. -/
def InOrder (a b : Char) : Prop :=
  a = '0' ∨ b = '1' ∨ a = b

/-- Whether cells are the rest of an accepted input: they are in order, with as many ones as zeros. -/
def Matched (cells : List Char) : Prop :=
  cells.Pairwise InOrder ∧ cells.count '0' = cells.count '1'

/-- A round keeps the order, and so does its reversal. -/
theorem pairwise_inOrder_round (hmid : ∀ c ∈ mid, IsPassed c) (hrest : ∀ c ∈ rest, c = '0' ∨ c = '1') :
    ('0' :: (mid ++ '1' :: rest)).Pairwise InOrder ↔ (mid ++ 'Y' :: rest).Pairwise InOrder := by
  have hzero : ∀ c ∈ mid ++ '1' :: rest, InOrder '0' c := fun c _ => .inl rfl
  have hbehind : (∀ c ∈ rest, InOrder '1' c) ↔ ∀ c ∈ rest, InOrder 'Y' c :=
    forall₂_congr fun c hc => by rcases hrest c hc with rfl | rfl <;> simp [InOrder]
  have hbefore : (∀ a ∈ mid, ∀ b ∈ '1' :: rest, InOrder a b) ↔ ∀ a ∈ mid, ∀ b ∈ 'Y' :: rest, InOrder a b :=
    forall₂_congr fun a ha => by rcases hmid a ha with rfl | rfl <;> simp [InOrder]
  rw [List.pairwise_cons, List.pairwise_append, List.pairwise_append, List.pairwise_cons, List.pairwise_cons, hbehind,
    hbefore]
  exact and_iff_right hzero

/-- **A round makes no difference** for the rest of an input. -/
theorem matched_round (hmid : ∀ c ∈ mid, IsPassed c) (hrest : ∀ c ∈ rest, c = '0' ∨ c = '1') :
    Matched ('0' :: (mid ++ '1' :: rest)) ↔ Matched (mid ++ 'Y' :: rest) := by
  have hcount : ('0' :: (mid ++ '1' :: rest)).count '0' = ('0' :: (mid ++ '1' :: rest)).count '1' ↔
      (mid ++ 'Y' :: rest).count '0' = (mid ++ 'Y' :: rest).count '1' := by
    simp [List.count_append]
    omega
  rw [Matched, Matched, pairwise_inOrder_round hmid hrest, hcount]

/-- When marked ones come first nothing else may follow. -/
theorem matched_marked_iff (hcells : ∀ c ∈ cells, c = '0' ∨ c = '1' ∨ c = 'Y') :
    Matched ('Y' :: cells) ↔ ∀ c ∈ cells, c = 'Y' := by
  constructor
  · rintro ⟨hsorted, hcount⟩ c hc
    have hfirst := (List.pairwise_cons.mp hsorted).1
    have hzero : '0' ∉ 'Y' :: cells := fun hzero => by
      rcases List.mem_cons.mp hzero with hzero | hzero
      · cases hzero
      · exact absurd (hfirst '0' hzero) (by simp [InOrder])
    have hone : '1' ∉ 'Y' :: cells := by
      rw [← List.count_eq_zero, ← hcount]
      exact List.count_eq_zero.mpr hzero
    rcases hcells c hc with rfl | rfl | rfl
    · exact absurd (List.mem_cons_of_mem _ hc) hzero
    · exact absurd (List.mem_cons_of_mem _ hc) hone
    · rfl
  · intro hall
    rw [List.eq_replicate_of_mem hall, ← List.replicate_succ]
    exact ⟨List.pairwise_replicate.mpr (.inr (.inr (.inr rfl))), by simp [List.count_replicate]⟩

/-- A one without a zero before it is not matched. -/
theorem not_matched_one : ¬ Matched ('1' :: cells) := by
  rintro ⟨hsorted, hcount⟩
  have hzero : '0' ∉ '1' :: cells := fun hzero => by
    rcases List.mem_cons.mp hzero with hzero | hzero
    · cases hzero
    · exact absurd ((List.pairwise_cons.mp hsorted).1 '0' hzero) (by simp [InOrder])
  rw [List.count_eq_zero.mpr hzero, List.count_cons_self] at hcount
  exact absurd hcount (by omega)

/-- A zero without a one behind it is not matched. -/
theorem not_matched_zero (hmid : ∀ c ∈ mid, IsPassed c) : ¬ Matched ('0' :: mid) := by
  rintro ⟨-, hcount⟩
  have hone : '1' ∉ '0' :: mid := fun hone => by
    rcases List.mem_cons.mp hone with hone | hone
    · cases hone
    · exact absurd (hmid '1' hone) (by simp [IsPassed])
  rw [List.count_eq_zero.mpr hone, List.count_cons_self] at hcount
  exact absurd hcount (by omega)

/-- Zeros and ones that are in order are two blocks. -/
theorem exists_blocks (hcells : ∀ c ∈ cells, c = '0' ∨ c = '1') (hsorted : cells.Pairwise InOrder) :
    ∃ i j, cells = List.replicate i '0' ++ List.replicate j '1' := by
  induction cells with
  | nil => exact ⟨0, 0, rfl⟩
  | cons a cells ih =>
      obtain ⟨hfirst, hbehind⟩ := List.pairwise_cons.mp hsorted
      have htail : ∀ c ∈ cells, c = '0' ∨ c = '1' := fun c hc => hcells c (List.mem_cons_of_mem _ hc)
      rcases hcells a (List.mem_cons_self ..) with rfl | rfl
      · obtain ⟨i, j, rfl⟩ := ih htail hbehind
        exact ⟨i + 1, j, rfl⟩
      · have hones : ∀ c ∈ cells, c = '1' := fun c hc => by
          rcases hfirst c hc with h | h | h
          · cases h
          · exact h
          · exact h.symm
        exact ⟨0, cells.length + 1, by rw [List.eq_replicate_of_mem hones]; simp [List.replicate_succ]⟩

/-- An input is matched exactly when it is a block of zeros and a block of as many ones. -/
theorem matched_iff (hcells : ∀ c ∈ cells, c = '0' ∨ c = '1') :
    Matched cells ↔ ∃ n, cells = List.replicate n '0' ++ List.replicate n '1' := by
  constructor
  · rintro ⟨hsorted, hcount⟩
    obtain ⟨i, j, rfl⟩ := exists_blocks hcells hsorted
    have hlengths : i = j := by simpa [List.count_append, List.count_replicate] using hcount
    exact ⟨i, by rw [← hlengths]⟩
  · rintro ⟨n, rfl⟩
    refine ⟨List.pairwise_append.mpr ⟨?_, ?_, ?_⟩, by simp [List.count_append, List.count_replicate]⟩
    · exact List.pairwise_replicate.mpr (.inr (.inl rfl))
    · exact List.pairwise_replicate.mpr (.inr (.inr (.inl rfl)))
    · exact fun a ha _ _ => .inl (List.eq_of_mem_replicate ha)

/-! ## 4. The end -/

/-- What a cell of an accepted input has become. -/
def marked : Char → Char
  | '0' => 'X'
  | '1' => 'Y'
  | c => c

/-- How the machine ends on what is left of an input: it has accepted a matched rest, which is all marked then, and has
got stuck in another state on any other one. -/
inductive Ending (left cells : List Char) : Config → Prop where
  | accepts (h : Matched cells) : Ending left cells (onFirst 'B' 0 "q3" (left ++ cells.map marked ++ ['B']) [])
  | rejects {c : Config} (h : ¬ Matched cells) (hstuck : c.rule? equalBlocks = none) (hstate : c.state ≠ "q3")
      (hhead : 0 ≤ c.head) : Ending left cells c

/-- **Whether the machine comes to an end** on what is left of an input, after quadratically many steps. -/
def Settles (left cells : List Char) : Prop :=
  ∃ n c, n ≤ (cells.length + 1) * (cells.length + 1) ∧
    equalBlocks.Leads 0 (left.length + cells.length) n (onFirst 'B' 0 "q0" left cells) c ∧ Ending left cells c

/-- How the check for cells that are all marked ones ends: behind the blank, or on another cell without a rule. -/
inductive Checked (left cells : List Char) : Config → Prop where
  | all (h : ∀ a ∈ cells, a = 'Y') : Checked left cells (onFirst 'B' 0 "q3" (left ++ cells ++ ['B']) [])
  | stuck {c : Config} (h : ¬ ∀ a ∈ cells, a = 'Y') (hstuck : c.rule? equalBlocks = none) (hstate : c.state = "q4")
      (hhead : 0 ≤ c.head) : Checked left cells c

/-- A marked one more, and the check ends in the same way. -/
theorem Checked.cons {c : Config} (h : Checked (left ++ ['Y']) cells c) : Checked left ('Y' :: cells) c := by
  have hall : (∀ b ∈ 'Y' :: cells, b = 'Y') ↔ ∀ b ∈ cells, b = 'Y' := by
    rw [List.forall_mem_cons]
    exact and_iff_right rfl
  cases h with
  | all h =>
      rw [← List.append_cons left]
      exact .all (hall.mpr h)
  | stuck h hstuck hstate hhead => exact .stuck (mt hall.mp h) hstuck hstate hhead

/-- The check gets stuck at once on a cell that is no marked one. -/
theorem checked_here {a : Char} (ha : a ≠ 'Y') (h : equalBlocks.rules.lookup "q4" a = none) :
    Checked left (a :: cells) (onFirst 'B' 0 "q4" left (a :: cells)) :=
  .stuck (fun hall => ha (hall a (List.mem_cons_self ..))) (rule?_onFirst.trans h) rfl le_head_onFirst

/-- The machine checks that there are marked ones only. -/
theorem exists_leads_check (hcells : ∀ c ∈ cells, c = '0' ∨ c = '1' ∨ c = 'Y')
    (hhigh : (left.length : Int) + cells.length ≤ high) : ∃ n c, n ≤ cells.length + 1 ∧
      equalBlocks.Leads 0 high n (onFirst 'B' 0 "q4" left cells) c ∧ Checked left cells c := by
  induction cells generalizing left with
  | nil =>
      have hblank : equalBlocks.Leads 0 high 1 (onFirst 'B' 0 "q4" left ['B'])
          (onFirst 'B' 0 "q3" (left ++ [] ++ ['B']) []) := by
        rw [List.append_nil]
        exact leads_right (by omega) (by simpa using hhigh) rfl
      rw [← onFirst_nil] at hblank
      exact ⟨1, _, Nat.le_refl 1, hblank, .all (List.forall_mem_nil _)⟩
  | cons a cells ih =>
      rw [List.length_cons] at hhigh
      rcases hcells a (List.mem_cons_self ..) with rfl | rfl | rfl
      · exact ⟨0, _, Nat.zero_le _, .here _, checked_here (by decide) rfl⟩
      · exact ⟨0, _, Nat.zero_le _, .here _, checked_here (by decide) rfl⟩
      · have hfirst : equalBlocks.Leads 0 high 1 (onFirst 'B' 0 "q4" left ('Y' :: cells))
            (onFirst 'B' 0 "q4" (left ++ ['Y']) cells) := leads_right (by omega) (by omega) rfl
        have hlength : ((left ++ ['Y']).length : Int) + cells.length ≤ high := by
          rw [List.length_append, List.length_singleton]
          omega
        obtain ⟨n, c, hn, hrest, hchecked⟩ := ih (fun b hb => hcells b (List.mem_cons_of_mem _ hb)) hlength
        exact ⟨1 + n, c, by rw [List.length_cons]; omega, hfirst.trans hrest, hchecked.cons⟩

/-- A check behind a marked one is how the machine ends on both together. -/
theorem Checked.ending {c : Config} (hcells : ∀ c ∈ cells, c = '0' ∨ c = '1' ∨ c = 'Y')
    (h : Checked (left ++ ['Y']) cells c) : Ending left ('Y' :: cells) c := by
  cases h with
  | all hall =>
      have hmarked : left ++ ['Y'] ++ cells = left ++ ('Y' :: cells).map marked := by
        rw [List.eq_replicate_of_mem hall]
        simp [marked]
      rw [hmarked]
      exact .accepts ((matched_marked_iff hcells).mpr hall)
  | stuck hnot hstuck hstate hhead =>
      exact .rejects (mt (matched_marked_iff hcells).mp hnot) hstuck (by rw [hstate]; decide) hhead

/-- A rest that starts with a marked one. -/
theorem settles_marked (hcells : ∀ c ∈ cells, c = '0' ∨ c = '1' ∨ c = 'Y') : Settles left ('Y' :: cells) := by
  have hfirst : equalBlocks.Leads 0 (left.length + ('Y' :: cells).length) 1 (onFirst 'B' 0 "q0" left ('Y' :: cells))
      (onFirst 'B' 0 "q4" (left ++ ['Y']) cells) := leads_right (by omega) (by simp; omega) rfl
  have hlength : ((left ++ ['Y']).length : Int) + cells.length ≤ left.length + ('Y' :: cells).length := by
    simp
    omega
  obtain ⟨n, c, hn, hcheck, hchecked⟩ := exists_leads_check hcells hlength
  refine ⟨1 + n, c, ?_, hfirst.trans hcheck, hchecked.ending hcells⟩
  have hsquare := Nat.le_mul_self (('Y' :: cells).length + 1)
  rw [List.length_cons] at hsquare ⊢
  omega

/-- Nothing is left. -/
theorem settles_nil : Settles left [] := by
  have hblank : equalBlocks.Leads 0 (left.length + ([] : List Char).length) 1 (onFirst 'B' 0 "q0" left ['B'])
      (onFirst 'B' 0 "q3" (left ++ [].map marked ++ ['B']) []) := by
    rw [List.map_nil, List.append_nil]
    exact leads_right (by omega) (by simp) rfl
  rw [← onFirst_nil] at hblank
  exact ⟨1, _, Nat.le_refl 1, hblank, .accepts ⟨.nil, rfl⟩⟩

/-- No ones are left, but a zero. -/
theorem settles_zero (hmid : ∀ c ∈ mid, IsPassed c) : Settles left ('0' :: mid) := by
  have hfirst : equalBlocks.Leads 0 (left.length + ('0' :: mid).length) 1 (onFirst 'B' 0 "q0" left ('0' :: mid))
      (onFirst 'B' 0 "q1" (left ++ ['X']) mid) := leads_right (by omega) (by simp; omega) rfl
  have hseek : equalBlocks.Leads 0 (left.length + ('0' :: mid).length) mid.length
      (onFirst 'B' 0 "q1" (left ++ ['X']) (mid ++ [])) (onFirst 'B' 0 "q1" (left ++ ['X'] ++ mid) []) :=
    leads_seek hmid (by simp; omega)
  rw [List.append_nil] at hseek
  refine ⟨1 + mid.length, _, ?_, hfirst.trans hseek, .rejects (not_matched_zero hmid) ?_ (by simp [onFirst])
    le_head_onFirst⟩
  · have hsquare := Nat.le_mul_self (('0' :: mid).length + 1)
    rw [List.length_cons] at hsquare ⊢
    omega
  · rw [onFirst_nil]
    exact rule?_onFirst.trans rfl

/-- A one comes first. -/
theorem settles_one : Settles left ('1' :: cells) :=
  ⟨0, _, Nat.zero_le _, .here _, .rejects not_matched_one (rule?_onFirst.trans rfl) (by simp [onFirst])
    le_head_onFirst⟩

/-- A round and what comes behind it. -/
theorem Settles.round (hmid : ∀ c ∈ mid, IsPassed c) (hrest : ∀ c ∈ rest, c = '0' ∨ c = '1')
    (h : Settles (left ++ ['X']) (mid ++ 'Y' :: rest)) : Settles left ('0' :: (mid ++ '1' :: rest)) := by
  obtain ⟨n, c, hn, hleads, hend⟩ := h
  have hround : equalBlocks.Leads 0 (left.length + ('0' :: (mid ++ '1' :: rest)).length) (2 * mid.length + 3)
      (onFirst 'B' 0 "q0" left ('0' :: (mid ++ '1' :: rest))) (onFirst 'B' 0 "q0" (left ++ ['X']) (mid ++ 'Y' :: rest)) :=
    leads_round hmid (by simp; omega)
  have hleads := hleads.widen (Int.le_refl 0) (by simp; omega :
    ((left ++ ['X']).length : Int) + (mid ++ 'Y' :: rest).length ≤ left.length + ('0' :: (mid ++ '1' :: rest)).length)
  refine ⟨2 * mid.length + 3 + n, c, ?_, hround.trans hleads, ?_⟩
  · have hsquare := Nat.succ_mul_succ ((mid ++ 'Y' :: rest).length + 1) ((mid ++ 'Y' :: rest).length + 1)
    simp only [List.length_append, List.length_cons, Nat.succ_eq_add_one] at hn hsquare ⊢
    omega
  · cases hend with
    | accepts hmatched =>
        have hmarked : left ++ ['X'] ++ (mid ++ 'Y' :: rest).map marked =
            left ++ ('0' :: (mid ++ '1' :: rest)).map marked := by simp [marked]
        rw [hmarked]
        exact .accepts ((matched_round hmid hrest).mpr hmatched)
    | rejects hnot hstuck hstate hhead =>
        exact .rejects (fun hmatched => hnot ((matched_round hmid hrest).mp hmatched)) hstuck hstate hhead

/-- **The machine comes to an end** on each rest of an input. The induction is on the part behind the cells that a
round goes over: a further zero is one of these cells, and a one makes a round. -/
theorem settles (hmid : ∀ c ∈ mid, IsPassed c) (hrest : ∀ c ∈ rest, c = '0' ∨ c = '1') :
    Settles left (mid ++ rest) := by
  induction rest generalizing left mid with
  | nil =>
      rw [List.append_nil]
      cases mid with
      | nil => exact settles_nil
      | cons b mid =>
          have htail : ∀ c ∈ mid, IsPassed c := fun c hc => hmid c (List.mem_cons_of_mem _ hc)
          rcases hmid b (List.mem_cons_self ..) with rfl | rfl
          · exact settles_zero htail
          · exact settles_marked fun c hc => (htail c hc).imp_right .inr
  | cons a rest ih =>
      have htail : ∀ c ∈ rest, c = '0' ∨ c = '1' := fun c hc => hrest c (List.mem_cons_of_mem _ hc)
      rcases hrest a (List.mem_cons_self ..) with rfl | rfl
      · rw [List.append_cons]
        exact ih (passed_concat hmid (.inl rfl)) htail
      · cases mid with
        | nil => exact settles_one
        | cons b mid =>
            have hinner : ∀ c ∈ mid, IsPassed c := fun c hc => hmid c (List.mem_cons_of_mem _ hc)
            rcases hmid b (List.mem_cons_self ..) with rfl | rfl
            · refine Settles.round hinner htail ?_
              rw [List.append_cons mid]
              exact ih (passed_concat hinner (.inr rfl)) htail
            · refine settles_marked fun c hc => ?_
              rcases List.mem_append.mp hc with hc | hc
              · exact (hinner c hc).imp_right .inr
              · exact (hrest c hc).imp_right .inl

/-! ## 5. Runs -/

theorem readInput_equalBlocks {w : String} (hw : ∀ c ∈ w.toList, c = '0' ∨ c = '1') :
    equalBlocks.readInput (.str w) = .ok (.ofText w) := by
  have hmem (c : Char) (hc : c = '0' ∨ c = '1') : c ∈ equalBlocks.inputSymbols := by
    show c ∈ Std.ExtTreeSet.ofList ['0', '1'] compare
    rw [Std.ExtTreeSet.mem_ofList]
    rcases hc with rfl | rfl <;> rfl
  exact readInput_text.mpr ⟨rfl, fun c hc => hmem c (hw c hc)⟩

variable {c : Config} {w : String} {m : Nat}

/-- In the end no rule applies. -/
theorem Ending.rule?_eq_none (h : Ending left cells c) : c.rule? equalBlocks = none := by
  cases h with
  | accepts => rfl
  | rejects _ hstuck => exact hstuck

/-- In the end the head is not left of position 0. -/
theorem Ending.head_nonneg (h : Ending left cells c) : 0 ≤ c.head := by
  cases h with
  | accepts => exact le_head_onFirst
  | rejects _ _ _ hhead => exact hhead

/-- In the end the machine is in its final state exactly when what was left is matched. -/
theorem Ending.isFinal_iff (h : Ending left cells c) : equalBlocks.isFinal c.state = true ↔ Matched cells := by
  cases h with
  | accepts h => exact iff_of_true (by decide : equalBlocks.isFinal "q3" = true) h
  | rejects h _ hstate =>
      refine iff_of_false (fun hfinal => hstate ?_) h
      have hmem : c.state ∈ Std.ExtTreeSet.ofList ["q3"] compare := hfinal
      rw [Std.ExtTreeSet.mem_ofList] at hmem
      simpa using hmem

/-- What a run sees that ends two cells behind the marked input: the marked cells and these two blanks. -/
theorem window_equalBlocks {symbols : List Char} {k : Nat}
    (h : equalBlocks.Leads 0 symbols.length k (.start equalBlocks symbols)
      (onFirst 'B' 0 "q3" (symbols.map marked ++ ['B']) [])) :
    equalBlocks.window symbols k = symbols.map marked ++ ['B', 'B'] := by
  have hhead : (equalBlocks.course symbols k).head = symbols.length + 1 := by
    rw [h.course_eq]
    simp [onFirst]
  have hleft : equalBlocks.leftmost symbols k = 0 := leftmost_eq_zero fun i hi => by
    rcases Nat.lt_or_eq_of_le hi with hlt | rfl
    · exact h.low_le_head hlt
    · rw [hhead]
      omega
  have hright : equalBlocks.rightmost symbols k = symbols.length + 1 := by
    refine Int.le_antisymm (rightmost_le (by omega) fun i hi => ?_) (hhead ▸ head_le_rightmost (Nat.le_refl k))
    rcases Nat.lt_or_eq_of_le hi with hlt | rfl
    · exact Int.le_trans (h.head_le_high hlt) (by omega)
    · exact Int.le_of_eq hhead
  have htape : (equalBlocks.course symbols k).tape = laid 'B' 0 (symbols.map marked) := by
    rw [h.course_eq, ← laid_append_blank]
    exact congrArg (laid 'B' 0) (List.append_nil _)
  have hblanks : ((symbols.length : Int) + 1 + 1 - 0 - (symbols.map marked).length).toNat = 2 := by
    rw [List.length_map]
    omega
  rw [window_laid htape (Int.le_of_eq hleft) (by rw [hright, List.length_map]; omega), hleft, hright, hblanks]
  rfl

/-- When a matched input has come to its end, it is seen with all its cells marked, and two blanks. -/
theorem Ending.window_eq {symbols : List Char} {k : Nat} (hend : Ending [] symbols c)
    (hleads : equalBlocks.Leads 0 symbols.length k (.start equalBlocks symbols) c) (h : Matched symbols) :
    equalBlocks.window symbols k = symbols.map marked ++ ['B', 'B'] := by
  cases hend with
  | accepts => exact window_equalBlocks hleads
  | rejects hnot => exact absurd h hnot

/-- The machine comes to an end on each input. -/
theorem exists_ending {symbols : List Char} (hsymbols : ∀ c ∈ symbols, c = '0' ∨ c = '1') :
    ∃ k c, k ≤ (symbols.length + 1) * (symbols.length + 1) ∧
      equalBlocks.Leads 0 symbols.length k (.start equalBlocks symbols) c ∧ Ending [] symbols c := by
  obtain ⟨k, c, hk, hleads, hend⟩ : Settles [] ([] ++ symbols) := settles (by simp) hsymbols
  refine ⟨k, c, hk, ?_, hend⟩
  rw [start_eq_onFirst]
  exact hleads.widen (Int.le_refl 0) (by simp)

/-- **The machine decides which inputs are a block of zeros and a block of as many ones.** On each input of zeros and
ones, bounded or not, a run with as many steps as the square of its length and two accepts it if it is one, and rejects
it if not. What an accepted input leaves are as many marks of both kinds, and two blanks. -/
theorem equalBlocks_decides (hw : ∀ c ∈ w.toList, c = '0' ∨ c = '1') (leftBounded : Bool)
    (hm : (w.length + 2) ^ 2 ≤ m) : ∃ d r, ofText equalBlocksDocument (.str "zero_n_one_n") = .ok d ∧
      d.run (.str w) { maxSteps := m, leftBounded } = .ok r ∧
      (r.outcome = .accepted ↔ ∃ n, w.toList = List.replicate n '0' ++ List.replicate n '1') ∧
      ((¬ ∃ n, w.toList = List.replicate n '0' ++ List.replicate n '1') → r.outcome = .rejected) ∧
      ∀ n, w.toList = List.replicate n '0' ++ List.replicate n '1' →
        joinCells r.tape = String.ofList (List.replicate n 'X' ++ List.replicate n 'Y' ++ ['B', 'B']) := by
  obtain ⟨d, hd, hequal⟩ := exists_equal_equalBlocksDocument
  obtain ⟨k, c, hk, hleads, hend⟩ := exists_ending hw
  have hkm : k ≤ m := by
    have hsquare : (w.length + 2) * (w.length + 2) = (w.length + 1) * (w.length + 1) + (w.length + 1) + (w.length + 1) + 1 :=
      Nat.succ_mul_succ (w.length + 1) (w.length + 1)
    rw [Nat.pow_two] at hm
    rw [String.length_toList] at hk
    omega
  have hstop : IsLeast {n | equalBlocks.Stops (Input.ofText w).symbols { maxSteps := m, leftBounded } n} k :=
    hleads.isLeast_stops hend.rule?_eq_none hkm fun _ => ⟨Int.le_refl 0, hend.head_nonneg⟩
  have houtcome : (equalBlocks.resultAt { maxSteps := m, leftBounded } (.ofText w) k).outcome =
      if equalBlocks.isFinal c.state then .accepted else .rejected := hleads.outcome_resultAt hend.rule?_eq_none
  refine ⟨d, _, hd, (hequal.run_eq _ _).trans (run_eq_resultAt (readInput_equalBlocks hw) hstop), ?_, fun hnot => ?_,
    fun n hn => ?_⟩
  · rw [houtcome, ← matched_iff hw, ← hend.isFinal_iff]
    split
    · exact iff_of_true rfl ‹_›
    · exact iff_of_false (by decide) ‹_›
  · rw [houtcome, if_neg]
    rwa [hend.isFinal_iff, matched_iff hw]
  · have hmarked : w.toList.map marked = List.replicate n 'X' ++ List.replicate n 'Y' := by
      rw [hn, List.map_append, List.map_replicate, List.map_replicate]
      rfl
    have hwindow : equalBlocks.window w.toList k = w.toList.map marked ++ ['B', 'B'] :=
      hend.window_eq hleads ((matched_iff hw).mpr ⟨n, hn⟩)
    rw [← String.toList_inj, toList_joinCells, String.toList_ofList, ← hmarked, ← hwindow]
    rfl

/-- Two zeros and two ones are accepted within 36 steps. -/
theorem equalBlocks_decides_two : (∀ c ∈ "0011".toList, c = '0' ∨ c = '1') ∧ ("0011".length + 2) ^ 2 ≤ 36 ∧
    ∃ d r, ofText equalBlocksDocument (.str "zero_n_one_n") = .ok d ∧
      d.run (.str "0011") { maxSteps := 36, leftBounded := true } = .ok r ∧ r.outcome = .accepted ∧
      joinCells r.tape = "XXYYBB" := by
  have hbits : ∀ c ∈ "0011".toList, c = '0' ∨ c = '1' := by simp
  have hm : ("0011".length + 2) ^ 2 ≤ 36 := by decide
  obtain ⟨d, r, hd, hrun, haccepted, _, htape⟩ := equalBlocks_decides hbits true hm
  exact ⟨hbits, hm, d, r, hd, hrun, haccepted.mpr ⟨2, by simp⟩, htape 2 (by simp)⟩

end TapeMachine.Definition
