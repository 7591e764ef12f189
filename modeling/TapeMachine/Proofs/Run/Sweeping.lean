import TapeMachine.Proofs.Run.LeftBound
import TapeMachine.Proofs.Run.Windows
import Mathlib.Data.List.Induction
/-!
# Sweeps over a written tape

What a particular machine does is followed on configurations whose cells are written down. A machine that goes over a
block of cells in one state, and puts each of them down again as something else, makes a sweep. Rules and sweeps put
one behind the other make up a course, and how its run ends can be read off the last configuration.

* `Config.onFirst`, `Config.onLast` : configurations with the head between two lists of cells: on the first cell of the
  one behind it, or on the last of the one before;
* `Definition.Leads` : **a configuration leads to another one by a number of rules**, with the head in a range;
* `Definition.leads_sweep_right`, `Definition.leads_sweep_left` : **sweeps**, and `Definition.leads_pass_right`,
  `Definition.leads_pass_left` : those that leave the cells as they are;
* `Definition.Leads.isLeast_stops` : **a course that comes to a configuration without a rule has its first stop there**;
* `Definition.Leads.isLeast_stops_bounded` : a course that goes to the left of position 0 is stopped before;
* `Definition.Leads.outcome_resultAt` : whether it is accepted then;
* `Definition.window_laid` : what is seen of a tape with cells that are written down.
-/

namespace TapeMachine

/-! ## 1. Written cells -/

namespace Config

variable {blank a w : Char} {origin i : Int} {q : String} {cells left right : List Char} {rule : Rule Char}

/-- The cell between two lists of cells. -/
theorem laid_append_cons : laid blank origin (left ++ a :: right) (origin + left.length) = a := by
  rw [laid_add]
  simp

/-- Writing the cell between two lists of cells. -/
theorem update_laid : Function.update (laid blank origin (left ++ a :: right)) (origin + left.length) w =
    laid blank origin (left ++ w :: right) := by
  funext i
  by_cases hi : i = origin + left.length
  · rw [hi, Function.update_self, laid_append_cons]
  · rw [Function.update_of_ne hi]
    unfold laid
    split
    · have hindex : (i - origin).toNat ≠ left.length := by omega
      rcases Nat.lt_or_gt_of_ne hindex with hlt | hgt
      · rw [List.getElem?_append_left hlt, List.getElem?_append_left hlt]
      · obtain ⟨n, hn⟩ : ∃ n, (i - origin).toNat - left.length = n + 1 :=
          ⟨(i - origin).toNat - left.length - 1, by omega⟩
        rw [List.getElem?_append_right (Nat.le_of_lt hgt), List.getElem?_append_right (Nat.le_of_lt hgt), hn,
          List.getElem?_cons_succ, List.getElem?_cons_succ]
    · rfl

/-- Blanks behind the cells make no difference. -/
theorem laid_append_blank : laid blank origin (cells ++ [blank]) = laid blank origin cells := by
  funext i
  unfold laid
  split
  · rcases Nat.lt_or_ge (i - origin).toNat cells.length with hlt | hge
    · rw [List.getElem?_append_left hlt]
    · rw [List.getElem?_append_right hge, List.getElem?_eq_none hge]
      cases (i - origin).toNat - cells.length <;> simp
  · rfl

/-- Blanks in front of the cells make no difference. -/
theorem laid_cons_blank : laid blank (origin - 1) (blank :: cells) = laid blank origin cells := by
  funext i
  unfold laid
  by_cases hi : origin ≤ i
  · have hindex : (i - (origin - 1)).toNat = (i - origin).toNat + 1 := by omega
    rw [if_pos hi, if_pos (by omega), hindex, List.getElem?_cons_succ]
  · rw [if_neg hi]
    split
    · have hindex : (i - (origin - 1)).toNat = 0 := by omega
      rw [hindex]
      rfl
    · rfl

theorem laid_append_replicate (n : Nat) :
    laid blank origin (cells ++ List.replicate n blank) = laid blank origin cells := by
  induction n with
  | zero => rw [List.replicate_zero, List.append_nil]
  | succ n ih => rw [List.replicate_succ', ← List.append_assoc, laid_append_blank, ih]

theorem laid_replicate_append (n : Nat) :
    laid blank (origin - n) (List.replicate n blank ++ cells) = laid blank origin cells := by
  induction n with
  | zero => rw [List.replicate_zero, List.nil_append, Int.natCast_zero, Int.sub_zero]
  | succ n ih =>
      have horigin : origin - ((n + 1 : Nat) : Int) = origin - n - 1 := by omega
      rw [List.replicate_succ, List.cons_append, horigin, laid_cons_blank, ih]

/-- A configuration between two lists of cells, with the head on the first cell of the one behind it. -/
def onFirst (blank : Char) (origin : Int) (q : String) (left right : List Char) : Config :=
  { state := q, head := origin + left.length, tape := laid blank origin (left ++ right) }

/-- A configuration between two lists of cells, with the head on the last cell of the one before it. -/
def onLast (blank : Char) (origin : Int) (q : String) (left right : List Char) : Config :=
  { state := q, head := origin + left.length - 1, tape := laid blank origin (left ++ right) }

theorem le_head_onFirst : origin ≤ (onFirst blank origin q left right).head :=
  Int.le_add_of_nonneg_right (Int.natCast_nonneg _)

theorem start_eq_onFirst (d : Definition) (symbols : List Char) :
    Config.start d symbols = onFirst d.blank 0 d.initial [] symbols := by
  have htape : (Config.start d symbols).tape = laid d.blank 0 symbols := by
    funext i
    rw [laid, Int.sub_zero]
    rfl
  rw [onFirst, List.nil_append, ← htape]
  rfl

/-- The last cell of one list is the first of the other when the cut is made before it. -/
theorem onLast_concat : onLast blank origin q (left ++ [a]) right = onFirst blank origin q left (a :: right) := by
  have hhead : origin + ((left ++ [a]).length : Int) - 1 = origin + left.length := by
    rw [List.length_append, List.length_singleton]
    omega
  rw [onLast, onFirst, hhead, List.append_assoc]
  rfl

/-- In front of all cells stands a blank. -/
theorem onLast_nil : onLast blank origin q [] right = onFirst blank (origin - 1) q [] (blank :: right) := by
  rw [onLast, onFirst, List.nil_append, List.nil_append, laid_cons_blank]
  simp

/-- Behind all cells stands a blank. -/
theorem onFirst_nil : onFirst blank origin q left [] = onFirst blank origin q left [blank] := by
  rw [onFirst, onFirst, List.append_nil, laid_append_blank]

section Apply

variable {read : Char} {q' : String}

/-- A rule writes the first cell behind the cut. -/
theorem apply_onFirst : (onFirst blank origin q left (a :: right)).apply rule =
    ⟨rule.next, origin + left.length + rule.move.offset, laid blank origin (left ++ rule.write :: right)⟩ := by
  rw [← update_laid (a := a)]
  rfl

theorem apply_right : (onFirst blank origin q left (a :: right)).apply ⟨q, read, w, .right, q'⟩ =
    onFirst blank origin q' (left ++ [w]) right := by
  have hhead : origin + ((left ++ [w]).length : Int) = origin + left.length + 1 := by
    rw [List.length_append, List.length_singleton]
    omega
  rw [apply_onFirst, onFirst, hhead, List.append_assoc]
  rfl

theorem apply_stay : (onFirst blank origin q left (a :: right)).apply ⟨q, read, w, .stay, q'⟩ =
    onFirst blank origin q' left (w :: right) := by
  rw [apply_onFirst, onFirst]
  exact congrArg (Config.mk q' · _) (Int.add_zero _)

theorem apply_left : (onFirst blank origin q left (a :: right)).apply ⟨q, read, w, .left, q'⟩ =
    onLast blank origin q' left (w :: right) := by
  rw [apply_onFirst]
  rfl

end Apply

end Config

open Config

namespace Definition

/-! ## 2. Courses in pieces -/

/-- **A configuration leads to another one by a number of rules.** In front of each of them the head stands in a
range. -/
inductive Leads (d : Definition) (low high : Int) : Nat → Config → Config → Prop where
  | here (c : Config) : Leads d low high 0 c c
  | next {c c' : Config} {n : Nat} (rule : Rule Char) (hlow : low ≤ c.head) (hhigh : c.head ≤ high)
      (hrule : c.rule? d = some rule) (h : Leads d low high n (c.apply rule) c') : Leads d low high (n + 1) c c'

section Pieces

variable {d : Definition} {low high origin : Int} {m n : Nat} {c c' c'' : Config} {rule : Rule Char} {q q' : String}
  {a w : Char} {left right block : List Char} {f : Char → Char}

/-- **One piece behind the other.** -/
theorem Leads.trans (h : d.Leads low high m c c') (h' : d.Leads low high n c' c'') :
    d.Leads low high (m + n) c c'' := by
  induction h with
  | here c => exact (Nat.zero_add n).symm ▸ h'
  | next rule hlow hhigh hrule _ ih => exact Nat.succ_add _ n ▸ .next rule hlow hhigh hrule (ih h')

/-- A wider range will do as well. -/
theorem Leads.widen {low' high' : Int} (h : d.Leads low high n c c') (hlow : low' ≤ low) (hhigh : high ≤ high') :
    d.Leads low' high' n c c' := by
  induction h with
  | here c => exact .here c
  | next rule hlow' hhigh' hrule _ ih =>
      exact .next rule (Int.le_trans hlow hlow') (Int.le_trans hhigh' hhigh) hrule ih

theorem leads_single (hlow : low ≤ c.head) (hhigh : c.head ≤ high) (hrule : c.rule? d = some rule) :
    d.Leads low high 1 c (c.apply rule) :=
  .next rule hlow hhigh hrule (.here _)

/-- The rule between two lists of cells is the one for the first cell of the second. -/
theorem rule?_onFirst : (onFirst d.blank origin q left (a :: right)).rule? d = d.rules.lookup q a := by
  show d.rules.lookup q (laid d.blank origin (left ++ a :: right) (origin + left.length)) = _
  rw [laid_append_cons]

section Single

variable (hlow : low ≤ origin + left.length) (hhigh : origin + left.length ≤ high)
include hlow hhigh

theorem leads_right (h : d.rules.lookup q a = some ⟨q, a, w, .right, q'⟩) :
    d.Leads low high 1 (onFirst d.blank origin q left (a :: right)) (onFirst d.blank origin q' (left ++ [w]) right) := by
  have hrule : (onFirst d.blank origin q left (a :: right)).rule? d = _ := rule?_onFirst.trans h
  have hsingle := leads_single hlow hhigh hrule
  rwa [apply_right] at hsingle

theorem leads_stay (h : d.rules.lookup q a = some ⟨q, a, w, .stay, q'⟩) :
    d.Leads low high 1 (onFirst d.blank origin q left (a :: right)) (onFirst d.blank origin q' left (w :: right)) := by
  have hrule : (onFirst d.blank origin q left (a :: right)).rule? d = _ := rule?_onFirst.trans h
  have hsingle := leads_single hlow hhigh hrule
  rwa [apply_stay] at hsingle

theorem leads_left (h : d.rules.lookup q a = some ⟨q, a, w, .left, q'⟩) :
    d.Leads low high 1 (onFirst d.blank origin q left (a :: right)) (onLast d.blank origin q' left (w :: right)) := by
  have hrule : (onFirst d.blank origin q left (a :: right)).rule? d = _ := rule?_onFirst.trans h
  have hsingle := leads_single hlow hhigh hrule
  rwa [apply_left] at hsingle

end Single

/-- **A sweep to the right**: each cell of a block is put down as something else, and the state remains. -/
theorem leads_sweep_right (h : ∀ a ∈ block, d.rules.lookup q a = some ⟨q, a, f a, .right, q⟩)
    (hlow : low ≤ origin + left.length) (hhigh : origin + left.length + block.length ≤ high + 1) :
    d.Leads low high block.length (onFirst d.blank origin q left (block ++ right))
      (onFirst d.blank origin q (left ++ block.map f) right) := by
  induction block generalizing left with
  | nil =>
      rw [List.map_nil, List.append_nil]
      exact .here _
  | cons a block ih =>
      rw [List.length_cons] at hhigh
      have hlength : ((left ++ [f a]).length : Int) = left.length + 1 := by simp
      have hfirst : d.Leads low high 1 (onFirst d.blank origin q left (a :: (block ++ right)))
          (onFirst d.blank origin q (left ++ [f a]) (block ++ right)) :=
        leads_right hlow (by omega) (h a (by simp))
      have hrest : d.Leads low high block.length (onFirst d.blank origin q (left ++ [f a]) (block ++ right))
          (onFirst d.blank origin q (left ++ [f a] ++ block.map f) right) :=
        ih (fun b hb => h b (by simp [hb])) (by omega) (by omega)
      rw [List.append_assoc] at hrest
      rw [List.length_cons, Nat.add_comm]
      exact hfirst.trans hrest

/-- **A sweep to the left.** -/
theorem leads_sweep_left (h : ∀ a ∈ block, d.rules.lookup q a = some ⟨q, a, f a, .left, q⟩)
    (hlow : low ≤ origin + left.length) (hhigh : origin + left.length + block.length ≤ high + 1) :
    d.Leads low high block.length (onLast d.blank origin q (left ++ block) right)
      (onLast d.blank origin q left (block.map f ++ right)) := by
  induction block using List.reverseRecOn generalizing right with
  | nil =>
      rw [List.append_nil]
      exact .here _
  | append_singleton block a ih =>
      have hlength : ((block ++ [a]).length : Int) = block.length + 1 := by simp
      have hsum : ((left ++ block).length : Int) = left.length + block.length := by simp
      have hfirst : d.Leads low high 1 (onFirst d.blank origin q (left ++ block) (a :: right))
          (onLast d.blank origin q (left ++ block) (f a :: right)) :=
        leads_left (by omega) (by omega) (h a (by simp))
      have hrest : d.Leads low high block.length (onLast d.blank origin q (left ++ block) (f a :: right))
          (onLast d.blank origin q left (block.map f ++ f a :: right)) :=
        ih (fun b hb => h b (by simp [hb])) (by omega)
      rw [← List.append_assoc, onLast_concat, List.length_append, List.length_singleton, Nat.add_comm, List.map_append,
        List.append_assoc]
      exact hfirst.trans hrest

/-- A sweep to the right that leaves all cells as they are. -/
theorem leads_pass_right (h : ∀ a ∈ block, d.rules.lookup q a = some ⟨q, a, a, .right, q⟩)
    (hlow : low ≤ origin + left.length) (hhigh : origin + left.length + block.length ≤ high + 1) :
    d.Leads low high block.length (onFirst d.blank origin q left (block ++ right))
      (onFirst d.blank origin q (left ++ block) right) := by
  have hsweep : d.Leads low high block.length (onFirst d.blank origin q left (block ++ right))
      (onFirst d.blank origin q (left ++ block.map id) right) := leads_sweep_right h hlow hhigh
  rwa [List.map_id] at hsweep

/-- A sweep to the left that leaves all cells as they are. -/
theorem leads_pass_left (h : ∀ a ∈ block, d.rules.lookup q a = some ⟨q, a, a, .left, q⟩)
    (hlow : low ≤ origin + left.length) (hhigh : origin + left.length + block.length ≤ high + 1) :
    d.Leads low high block.length (onLast d.blank origin q (left ++ block) right)
      (onLast d.blank origin q left (block ++ right)) := by
  have hsweep : d.Leads low high block.length (onLast d.blank origin q (left ++ block) right)
      (onLast d.blank origin q left (block.map id ++ right)) := leads_sweep_left h hlow hhigh
  rwa [List.map_id] at hsweep

end Pieces

/-! ## 3. Courses and results -/

section Courses

variable {d : Definition} {symbols cells : List Char} {low high origin : Int} {i k m n : Nat} {c : Config}
  {leftBounded : Bool}

/-- What the course of a machine is up to a configuration that the first one leads to: rules apply, and the head is in
the range. -/
theorem Leads.course (h : d.Leads low high n (d.course symbols m) c) : d.course symbols (m + n) = c ∧
    ∀ i < n, (d.course symbols (m + i)).rule? d ≠ none ∧ low ≤ (d.course symbols (m + i)).head ∧
      (d.course symbols (m + i)).head ≤ high := by
  generalize hstart : d.course symbols m = c₀ at h
  induction h generalizing m with
  | here c => exact ⟨hstart, fun i hi => absurd hi (Nat.not_lt_zero i)⟩
  | @next c c' n rule hlow hhigh hrule _ ih =>
      subst hstart
      obtain ⟨hend, hall⟩ := ih (course_succ_of_rule hrule)
      refine ⟨by rw [← Nat.add_right_comm] at hend; exact hend, fun i hi => ?_⟩
      cases i with
      | zero =>
          rw [Nat.add_zero, hrule]
          exact ⟨Option.some_ne_none rule, hlow, hhigh⟩
      | succ i =>
          have hstep := hall i (Nat.lt_of_succ_lt_succ hi)
          rwa [Nat.succ_add_eq_add_succ] at hstep

section Stops

variable (h : d.Leads low high k (.start d symbols) c)
include h

theorem Leads.course_eq : d.course symbols k = c := by
  have hend := (Leads.course (m := 0) h).1
  rwa [Nat.zero_add] at hend

theorem Leads.rule?_ne_none (hi : i < k) : (d.course symbols i).rule? d ≠ none := by
  have hstep := ((Leads.course (m := 0) h).2 i hi).1
  rwa [Nat.zero_add] at hstep

theorem Leads.low_le_head (hi : i < k) : low ≤ (d.course symbols i).head := by
  have hstep := ((Leads.course (m := 0) h).2 i hi).2.1
  rwa [Nat.zero_add] at hstep

theorem Leads.head_le_high (hi : i < k) : (d.course symbols i).head ≤ high := by
  have hstep := ((Leads.course (m := 0) h).2 i hi).2.2
  rwa [Nat.zero_add] at hstep

/-- A course that comes to a configuration without a rule has its first stop there, on a bounded tape if the head never
gets left of position 0. -/
theorem Leads.isLeast_stops (hstuck : c.rule? d = none) (hm : k ≤ m)
    (hbounded : leftBounded = true → 0 ≤ low ∧ 0 ≤ c.head) :
    IsLeast {n | d.Stops symbols { maxSteps := m, leftBounded } n} k := by
  refine ⟨.inl (by rw [h.course_eq, hstuck]), fun i hi => ?_⟩
  by_contra hlt
  rw [Nat.not_le] at hlt
  obtain hnone | hspent | hcrosses := hi
  · exact h.rule?_ne_none hlt hnone
  · exact absurd hspent (by show i ≠ m; omega)
  · obtain rfl : leftBounded = true := hcrosses.1
    obtain ⟨hlow, hhead⟩ := hbounded rfl
    have hneg := (crosses_iff (Int.le_trans hlow (h.low_le_head hlt))).mp hcrosses
    rcases Nat.lt_or_eq_of_le hlt with (hnext : i + 1 < k) | (hlast : i + 1 = k)
    · exact absurd (Int.le_trans hlow (h.low_le_head hnext)) (Int.not_le.mpr hneg)
    · rw [hlast, h.course_eq] at hneg
      exact absurd hhead (Int.not_le.mpr hneg)

/-- A course that leaves position 0 to the left has its first stop on a bounded tape one step before. -/
theorem Leads.isLeast_stops_bounded (hk : k = n + 1) (hlow : 0 ≤ low) (hneg : c.head < 0) (hm : n ≤ m) :
    IsLeast {n | d.Stops symbols { maxSteps := m, leftBounded := true } n} n := by
  subst hk
  have hhead {i : Nat} (hi : i ≤ n) : 0 ≤ (d.course symbols i).head :=
    Int.le_trans hlow (h.low_le_head (Nat.lt_succ_of_le hi))
  refine ⟨.inr (.inr ((crosses_iff (hhead (Nat.le_refl n))).mpr (by rwa [h.course_eq]))), fun i hi => ?_⟩
  by_contra hlt
  rw [Nat.not_le] at hlt
  obtain hnone | hspent | hcrosses := hi
  · exact h.rule?_ne_none (Nat.lt_succ_of_lt hlt) hnone
  · exact absurd hspent (by show i ≠ m; omega)
  · have hnonneg := hhead (Nat.succ_le_of_lt hlt)
    have hneg := (crosses_iff (hhead (Nat.le_of_lt hlt))).mp hcrosses
    exact absurd hnonneg (Int.not_le.mpr hneg)

end Stops

/-- A run that ends where no rule applies is accepted exactly when the state there is a final one. -/
theorem Leads.outcome_resultAt {limits : Limits} {input : Input} (h : d.Leads low high k (.start d input.symbols) c)
    (hstuck : c.rule? d = none) :
    (d.resultAt limits input k).outcome = if d.isFinal c.state then .accepted else .rejected := by
  have hlast : (d.course input.symbols k).rule? d = none := by rw [h.course_eq, hstuck]
  show (d.verdict input.symbols limits k).1 = _
  rw [verdict_of_stuck hlast, h.course_eq]

/-! ## 4. What is seen of a written tape -/

/-- **What is seen of a tape with some cells**: these cells, between the blanks that have been visited. -/
theorem window_laid (htape : (d.course symbols n).tape = laid d.blank origin cells)
    (hleft : d.leftmost symbols n ≤ origin) (hright : origin + cells.length ≤ d.rightmost symbols n + 1) :
    d.window symbols n = List.replicate (origin - d.leftmost symbols n).toNat d.blank ++ cells ++
      List.replicate (d.rightmost symbols n + 1 - origin - cells.length).toNat d.blank := by
  generalize hbefore : (origin - d.leftmost symbols n).toNat = before
  generalize hafter : (d.rightmost symbols n + 1 - origin - cells.length).toNat = after
  have hstart : d.leftmost symbols n = origin - before := by omega
  have hlength : (d.rightmost symbols n + 1 - d.leftmost symbols n).toNat =
      (List.replicate before d.blank ++ (cells ++ List.replicate after d.blank)).length := by
    simp only [List.length_append, List.length_replicate]
    omega
  rw [window, htape, hlength, hstart, List.append_assoc, ← laid_append_replicate after, ← laid_replicate_append before]
  exact map_range_laid

/-- The output of a run that leaves some cells which neither start nor end with a blank. -/
theorem toList_output_resultAt {limits : Limits} {input : Input}
    (htape : (d.course input.symbols n).tape = laid d.blank origin cells)
    (hleft : d.leftmost input.symbols n ≤ origin) (hright : origin + cells.length ≤ d.rightmost input.symbols n + 1)
    (hstart : ∀ a ∈ cells.head?, a ≠ d.blank) (hend : ∀ a ∈ cells.getLast?, a ≠ d.blank) :
    (d.resultAt limits input n).output.toList = cells := by
  show (joinCells (dropBlanks d.blank (d.window input.symbols n))).toList = cells
  rw [window_laid htape hleft hright, dropBlanks_append hstart hend, toList_joinCells]

end Courses

end Definition

end TapeMachine
