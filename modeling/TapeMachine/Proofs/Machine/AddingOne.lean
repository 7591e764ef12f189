import TapeMachine.Proofs.Machine.Increment
import TapeMachine.Proofs.Run.Equality
import TapeMachine.Proofs.Run.Sweeping
/-!
# What the machine that adds one computes

The machine sweeps over the number to its right end, and then to the left over the ones there, which become zeros, up to
the first zero or to the blank in front of the number, which becomes a one. Only in the latter case it leaves position 0
to the left, and then a bounded tape halts it.

* `Definition.incrementDocument` : the document of the machine;
* `Definition.leads_scan`, `Definition.leads_carry` : **the two sweeps**;
* `Definition.leads_increment_of_zero`, `Definition.leads_increment_of_ones` : the whole course;
* `Definition.increment_adds_one` : **the output is the number that is greater by one.**
-/

namespace TapeMachine.Definition

open Config

/-! ## 1. The document -/

/-- The document of the machine. -/
def incrementDocument : String :=
"\x7b
    \"alphabet\": [\"0\", \"1\", \"B\"],
    \"blank_symbol\": \"B\",
    \"input_symbols\": [\"0\", \"1\"],
    \"states\": [\"scan\", \"carry\", \"done\"],
    \"initial_state\": \"scan\",
    \"final_states\": [\"done\"],
    \"transitions\": [
        \x7b\"from_state\": \"scan\", \"read_symbol\": \"0\", \"write_symbol\": \"0\", \"move_to\": \"R\", \"next_state\": \"scan\"\x7d,
        \x7b\"from_state\": \"scan\", \"read_symbol\": \"1\", \"write_symbol\": \"1\", \"move_to\": \"R\", \"next_state\": \"scan\"\x7d,
        \x7b\"from_state\": \"scan\", \"read_symbol\": \"B\", \"write_symbol\": \"B\", \"move_to\": \"L\", \"next_state\": \"carry\"\x7d,
        \x7b\"from_state\": \"carry\", \"read_symbol\": \"1\", \"write_symbol\": \"0\", \"move_to\": \"L\", \"next_state\": \"carry\"\x7d,
        \x7b\"from_state\": \"carry\", \"read_symbol\": \"0\", \"write_symbol\": \"1\", \"move_to\": \"S\", \"next_state\": \"done\"\x7d,
        \x7b\"from_state\": \"carry\", \"read_symbol\": \"B\", \"write_symbol\": \"1\", \"move_to\": \"S\", \"next_state\": \"done\"\x7d
    ]
\x7d
"

set_option maxRecDepth 4000 in
/-- The document is that of the machine. -/
theorem exists_equal_incrementDocument :
    ∃ d, ofText incrementDocument (.str "binary_increment") = .ok d ∧ d.Equal increment :=
  exists_equal_ofText String.toList_ofList (by decide +kernel)

/-! ## 2. Sweeps -/

/-- Whether a character is a binary digit. -/
def IsBit (c : Char) : Prop :=
  c = '0' ∨ c = '1'

variable {digits left right : List Char} {high : Int}

/-- The machine goes over a number to its right end, which it knows by the blank behind it. -/
theorem leads_scan (hdigits : ∀ c ∈ digits, IsBit c) :
    increment.Leads 0 digits.length (digits.length + 1) (.start increment digits)
      (onLast 'B' 0 "carry" digits ['B']) := by
  have hlookup : ∀ c ∈ digits, increment.rules.lookup "scan" c = some ⟨"scan", c, c, .right, "scan"⟩ := by
    intro c hc
    rcases hdigits c hc with rfl | rfl <;> rfl
  have hscan : increment.Leads 0 digits.length digits.length (onFirst 'B' 0 "scan" [] (digits ++ []))
      (onFirst 'B' 0 "scan" ([] ++ digits) []) := leads_pass_right hlookup (by simp) (by grind)
  have hturn : increment.Leads 0 digits.length 1 (onFirst 'B' 0 "scan" digits ['B'])
      (onLast 'B' 0 "carry" digits ['B']) := leads_left (by simp) (by simp) rfl
  rw [List.append_nil, List.nil_append, onFirst_nil] at hscan
  rw [start_eq_onFirst]
  exact hscan.trans hturn

/-- The ones before the head become zeros. -/
theorem leads_carry (k : Nat) (hhigh : left.length + k ≤ high + 1) : increment.Leads 0 high k
    (onLast 'B' 0 "carry" (left ++ List.replicate k '1') right)
    (onLast 'B' 0 "carry" left (List.replicate k '0' ++ right)) := by
  have hlookup : ∀ c ∈ List.replicate k '1',
      increment.rules.lookup "carry" c = some ⟨"carry", c, Function.const Char '0' c, .left, "carry"⟩ := by
    intro c hc
    rw [List.eq_of_mem_replicate hc]
    rfl
  have hcarry : increment.Leads 0 high (List.replicate k '1').length
      (onLast 'B' 0 "carry" (left ++ List.replicate k '1') right)
      (onLast 'B' 0 "carry" left ((List.replicate k '1').map (Function.const Char '0') ++ right)) :=
    leads_sweep_left hlookup (by omega) (by rw [List.length_replicate]; omega)
  rwa [List.length_replicate, List.map_replicate] at hcarry

/-! ## 3. The whole course -/

/-- **The course on a number with a zero**: the last zero becomes a one, and the ones behind it become zeros. -/
theorem leads_increment_of_zero (k : Nat) (hdigits : ∀ c ∈ left ++ '0' :: List.replicate k '1', IsBit c) :
    increment.Leads 0 (left.length + 1 + k) (left.length + 1 + k + 1 + k + 1)
      (.start increment (left ++ '0' :: List.replicate k '1'))
      (onFirst 'B' 0 "done" left ('1' :: List.replicate k '0' ++ ['B'])) := by
  have hlength : (left ++ '0' :: List.replicate k '1').length = left.length + 1 + k := by grind
  have hscan := leads_scan hdigits
  rw [hlength, List.append_cons] at hscan
  have hcarry : increment.Leads 0 (left.length + 1 + k) k
      (onLast 'B' 0 "carry" (left ++ ['0'] ++ List.replicate k '1') ['B'])
      (onLast 'B' 0 "carry" (left ++ ['0']) (List.replicate k '0' ++ ['B'])) :=
    leads_carry k (by grind)
  have hwrite : increment.Leads 0 (left.length + 1 + k) 1
      (onFirst 'B' 0 "carry" left ('0' :: (List.replicate k '0' ++ ['B'])))
      (onFirst 'B' 0 "done" left ('1' :: (List.replicate k '0' ++ ['B']))) :=
    leads_stay (by omega) (by omega) rfl
  rw [onLast_concat] at hcarry
  rw [List.append_cons]
  exact (hscan.trans hcarry).trans hwrite

/-- **The course on a number of ones**, up to where the head has left it. -/
theorem leads_increment_of_ones (k : Nat) : increment.Leads 0 k (k + 1 + k)
    (.start increment (List.replicate k '1')) (onFirst 'B' (-1) "carry" [] ('B' :: (List.replicate k '0' ++ ['B']))) := by
  have hones : ∀ c ∈ List.replicate k '1', IsBit c := fun c hc => .inr (List.eq_of_mem_replicate hc)
  have hscan := leads_scan hones
  rw [List.length_replicate] at hscan
  have hcarry : increment.Leads 0 k k (onLast 'B' 0 "carry" ([] ++ List.replicate k '1') ['B'])
      (onLast 'B' 0 "carry" [] (List.replicate k '0' ++ ['B'])) := leads_carry k (by grind)
  rw [onLast_nil] at hcarry
  exact hscan.trans hcarry

/-- The blank in front of the ones becomes a one. -/
theorem leads_increment_of_ones_done (k : Nat) : increment.Leads (-1) k (k + 1 + k + 1)
    (.start increment (List.replicate k '1')) (onFirst 'B' (-1) "done" [] ('1' :: (List.replicate k '0' ++ ['B']))) := by
  have hcarry := (leads_increment_of_ones k).widen (by decide : (-1 : Int) ≤ 0) (Int.le_refl _)
  have hwrite : increment.Leads (-1) k 1 (onFirst 'B' (-1) "carry" [] ('B' :: (List.replicate k '0' ++ ['B'])))
      (onFirst 'B' (-1) "done" [] ('1' :: (List.replicate k '0' ++ ['B']))) :=
    leads_stay (by decide) (by simp) rfl
  exact hcarry.trans hwrite

/-! ## 4. Results -/

/-- A text of bits is an input of the machine. -/
theorem readInput_bits {w : String} (hw : ∀ c ∈ w.toList, IsBit c) : increment.readInput (.str w) = .ok (.ofText w) :=
  readInput_increment.mpr hw

section Results

variable {input : Input} {low origin : Int} {k : Nat} {cells : List Char}

/-- A machine that is done has no rule. -/
theorem rule?_done (c : Config) (h : c.state = "done") : c.rule? increment = none := by
  rw [Config.rule?, h]
  rfl

/-- What a machine that is done leaves is the output, and it accepts. -/
theorem resultAt_increment (limits : Limits)
    (h : increment.Leads low high k (.start increment input.symbols) (onFirst 'B' origin "done" left right))
    (hcells : left ++ right = cells ++ ['B']) (hbits : ∀ c ∈ cells, IsBit c)
    (hleft : increment.leftmost input.symbols k ≤ origin) (hlength : origin + cells.length = input.symbols.length) :
    (increment.resultAt limits input k).outcome = .accepted ∧
      (increment.resultAt limits input k).output.toList = cells := by
  have hblank : ∀ c ∈ cells, c ≠ 'B' := by
    rintro c hc rfl
    exact (hbits 'B' hc).elim (by decide) (by decide)
  have htape : (increment.course input.symbols k).tape = laid 'B' origin cells := by
    rw [h.course_eq, ← laid_append_blank, ← hcells]
    rfl
  have hfinal : increment.isFinal (onFirst 'B' origin "done" left right).state = true :=
    (by decide : increment.isFinal "done" = true)
  refine ⟨?_, toList_output_resultAt htape hleft ?_ (fun c hc => hblank c (List.mem_of_mem_head? hc))
    fun c hc => hblank c (List.mem_of_mem_getLast? hc)⟩
  · rw [h.outcome_resultAt (rule?_done _ rfl), if_pos hfinal]
  · rw [hlength]
    exact length_le_rightmost

end Results

/-! ## 5. Numbers -/

/-- A number has a last zero with ones behind it, or it consists of ones. -/
theorem exists_last_zero (hdigits : ∀ c ∈ digits, IsBit c) :
    (∃ left k, digits = left ++ '0' :: List.replicate k '1') ∨ ∃ k, digits = List.replicate k '1' := by
  induction digits using List.reverseRecOn with
  | nil => exact .inr ⟨0, rfl⟩
  | append_singleton digits c ih =>
      have hinit : ∀ a ∈ digits, IsBit a := fun a ha => hdigits a (List.mem_append_left _ ha)
      rcases hdigits c (List.mem_append_right _ (List.mem_singleton_self c)) with rfl | rfl
      · exact .inl ⟨digits, 0, rfl⟩
      · rcases ih hinit with ⟨left, k, rfl⟩ | ⟨k, rfl⟩
        · exact .inl ⟨left, k + 1, by rw [List.replicate_succ', List.append_assoc, List.cons_append]⟩
        · exact .inr ⟨k + 1, List.replicate_succ'.symm⟩

theorem isBit_carried {k : Nat} (hleft : ∀ c ∈ left, IsBit c) :
    ∀ c ∈ left ++ '1' :: List.replicate k '0', IsBit c := by
  intro c hc
  rw [List.mem_append, List.mem_cons] at hc
  rcases hc with hc | rfl | hc
  · exact hleft c hc
  · exact .inr rfl
  · exact .inl (List.eq_of_mem_replicate hc)

/-- Ones carry over to zeros. -/
theorem ofDigitChars_ones (k v : Nat) : Nat.ofDigitChars 2 (List.replicate k '1') v + 1 =
    Nat.ofDigitChars 2 (List.replicate k '0') (v + 1) := by
  induction k generalizing v with
  | zero => rfl
  | succ k ih =>
      have hone : Nat.ofDigitChars 2 ('1' :: List.replicate k '1') v =
          Nat.ofDigitChars 2 (List.replicate k '1') (2 * v + 1) := Nat.ofDigitChars_cons
      have hzero : Nat.ofDigitChars 2 ('0' :: List.replicate k '0') (v + 1) =
          Nat.ofDigitChars 2 (List.replicate k '0') (2 * (v + 1)) := Nat.ofDigitChars_cons
      rw [List.replicate_succ, List.replicate_succ, hone, hzero, ih]
      rfl

/-- The number that is greater by one has its last zero replaced by a one, and zeros instead of the ones behind it. -/
theorem ofDigitChars_last_zero (left : List Char) (k : Nat) :
    Nat.ofDigitChars 2 (left ++ '1' :: List.replicate k '0') 0 =
      Nat.ofDigitChars 2 (left ++ '0' :: List.replicate k '1') 0 + 1 := by
  rw [Nat.ofDigitChars_append, Nat.ofDigitChars_append, Nat.ofDigitChars_cons, Nat.ofDigitChars_cons, ofDigitChars_ones]
  rfl

/-! ## 6. Runs -/

section Runs

variable {w : String} {k m : Nat}

/-- A number with a zero: the run is the same with a left end and without one. -/
theorem run_increment_of_zero (hw : w.toList = left ++ '0' :: List.replicate k '1') (hbits : ∀ c ∈ w.toList, IsBit c)
    (hm : 2 * w.length + 2 ≤ m) :
    ∃ r, (∀ leftBounded, increment.run (.str w) { maxSteps := m, leftBounded } = .ok r) ∧
      r.outcome = .accepted ∧ (∀ c ∈ r.output.toList, IsBit c) ∧
      r.output.toList = left ++ '1' :: List.replicate k '0' := by
  have hsymbols : (Input.ofText w).symbols = left ++ '0' :: List.replicate k '1' := hw
  have hlength : w.length = left.length + 1 + k := by
    rw [← String.length_toList, hw]
    simp
    omega
  have hcourse := leads_increment_of_zero k (hw ▸ hbits)
  rw [← hsymbols] at hcourse
  have hstop (leftBounded : Bool) : IsLeast {n | increment.Stops (Input.ofText w).symbols { maxSteps := m, leftBounded } n}
      (left.length + 1 + k + 1 + k + 1) :=
    hcourse.isLeast_stops (rule?_done _ rfl) (by omega) fun _ => ⟨Int.le_refl 0, le_head_onFirst⟩
  have hwritten : ∀ c ∈ left ++ '1' :: List.replicate k '0', IsBit c :=
    isBit_carried fun c hc => hbits c (hw ▸ List.mem_append_left _ hc)
  have hleft : increment.leftmost (Input.ofText w).symbols (left.length + 1 + k + 1 + k + 1) ≤ 0 :=
    leftmost_le_head (i := 0) (Nat.zero_le _)
  obtain ⟨haccepted, houtput⟩ := resultAt_increment { maxSteps := m, leftBounded := false } hcourse
    (by simp) hwritten hleft (by rw [hsymbols]; simp)
  exact ⟨_, fun leftBounded => run_eq_resultAt (readInput_bits hbits) (hstop leftBounded), haccepted,
    houtput ▸ hwritten, houtput⟩

section Ones

variable (hw : w.toList = List.replicate k '1')
include hw

theorem length_of_ones : w.length = k := by
  rw [← String.length_toList, hw, List.length_replicate]

theorem readInput_ones : increment.readInput (.str w) = .ok (.ofText w) :=
  readInput_bits fun _ hc => .inr (List.eq_of_mem_replicate (hw ▸ hc))

/-- A number of ones on a tape without a left end. -/
theorem run_increment_of_ones (hm : 2 * w.length + 2 ≤ m) :
    ∃ r, increment.run (.str w) { maxSteps := m, leftBounded := false } = .ok r ∧ r.outcome = .accepted ∧
      (∀ c ∈ r.output.toList, IsBit c) ∧ r.output.toList = '1' :: List.replicate k '0' := by
  have hsymbols : (Input.ofText w).symbols = List.replicate k '1' := hw
  have hlength := length_of_ones hw
  have hcourse := leads_increment_of_ones_done k
  rw [← hsymbols] at hcourse
  have hstop : IsLeast {n | increment.Stops (Input.ofText w).symbols { maxSteps := m, leftBounded := false } n}
      (k + 1 + k + 1) :=
    hcourse.isLeast_stops (rule?_done _ rfl) (by omega) fun h => absurd h Bool.false_ne_true
  have hwritten : ∀ c ∈ [] ++ '1' :: List.replicate k '0', IsBit c := isBit_carried (by simp)
  have hleft : increment.leftmost (Input.ofText w).symbols (k + 1 + k + 1) ≤ -1 := by
    have hhead : increment.leftmost (Input.ofText w).symbols (k + 1 + k + 1) ≤
        (increment.course (Input.ofText w).symbols (k + 1 + k + 1)).head := leftmost_le_head (Nat.le_refl _)
    rwa [hcourse.course_eq] at hhead
  obtain ⟨haccepted, houtput⟩ := resultAt_increment { maxSteps := m, leftBounded := false } hcourse
    (by simp) hwritten hleft (by grind)
  exact ⟨_, run_eq_resultAt (readInput_ones hw) hstop, haccepted, houtput ▸ hwritten, houtput⟩

/-- A number of ones on a bounded tape: there is no room for the carry. -/
theorem run_increment_of_ones_bounded (hm : 2 * w.length + 2 ≤ m) :
    ∃ r, increment.run (.str w) { maxSteps := m, leftBounded := true } = .ok r ∧ r.HaltedBy .leftBoundary := by
  have hsymbols : (Input.ofText w).symbols = List.replicate k '1' := hw
  have hlength := length_of_ones hw
  have hcourse := leads_increment_of_ones k
  rw [← hsymbols] at hcourse
  have hstop : IsLeast {n | increment.Stops (Input.ofText w).symbols { maxSteps := m, leftBounded := true } n} (k + k) :=
    hcourse.isLeast_stops_bounded (by omega) (Int.le_refl 0) (by decide : (-1 : Int) < 0) (by omega)
  have hunspent : k + k ≠ m := by omega
  exact ⟨_, run_eq_resultAt (readInput_ones hw) hstop,
    haltedBy_resultAt_iff.mpr ⟨hcourse.rule?_ne_none (by omega), (if_neg hunspent).symm⟩⟩

end Ones

/-- **The machine adds one.** On every binary number, the empty one included, a run that has two steps for each digit
and two more is accepted on a tape without a left end. Its output is the number that is greater by one, with a digit
more only when there was no zero. On a bounded tape the result is the same if there was a zero, and else the run is
halted at the left end. -/
theorem increment_adds_one (hw : ∀ c ∈ w.toList, c = '0' ∨ c = '1') (hm : 2 * w.length + 2 ≤ m) :
    ∃ d r, ofText incrementDocument (.str "binary_increment") = .ok d ∧
      d.run (.str w) { maxSteps := m, leftBounded := false } = .ok r ∧ r.outcome = .accepted ∧
      (∀ c ∈ r.output.toList, c = '0' ∨ c = '1') ∧
      Nat.ofDigitChars 2 r.output.toList 0 = Nat.ofDigitChars 2 w.toList 0 + 1 ∧
      r.output.length = (if '0' ∈ w.toList then w.length else w.length + 1) ∧
      ('0' ∈ w.toList → d.run (.str w) { maxSteps := m, leftBounded := true } = .ok r) ∧
      ('0' ∉ w.toList → ∃ b, d.run (.str w) { maxSteps := m, leftBounded := true } = .ok b ∧
        b.HaltedBy .leftBoundary) := by
  obtain ⟨d, hd, hequal⟩ := exists_equal_incrementDocument
  have hlength (r : Result Char) : r.output.length = r.output.toList.length := String.length_toList.symm
  rcases exists_last_zero hw with ⟨left, k, hzero⟩ | ⟨k, hones⟩
  · obtain ⟨r, hrun, haccepted, hbits, houtput⟩ := run_increment_of_zero hzero hw hm
    have hmem : '0' ∈ w.toList := by simp [hzero]
    refine ⟨d, r, hd, (hequal.run_eq _ _).trans (hrun false), haccepted, hbits, ?_, ?_,
      fun _ => (hequal.run_eq _ _).trans (hrun true), fun hnot => absurd hmem hnot⟩
    · rw [houtput, hzero, ofDigitChars_last_zero]
    · rw [if_pos hmem, hlength, ← String.length_toList, houtput, hzero]
      simp
  · obtain ⟨r, hrun, haccepted, hbits, houtput⟩ := run_increment_of_ones hones hm
    obtain ⟨b, hbounded, hhalted⟩ := run_increment_of_ones_bounded hones hm
    have hmem : '0' ∉ w.toList := by
      rw [hones]
      exact fun hzero => absurd (List.eq_of_mem_replicate hzero) (by decide)
    refine ⟨d, r, hd, (hequal.run_eq _ _).trans hrun, haccepted, hbits, ?_, ?_, fun hzero => absurd hzero hmem,
      fun _ => ⟨b, (hequal.run_eq _ _).trans hbounded, hhalted⟩⟩
    · rw [houtput, hones]
      exact ofDigitChars_last_zero [] k
    · rw [if_neg hmem, hlength, houtput, length_of_ones hones]
      simp

/-- Eleven has a zero digit, so that both tapes give twelve. Three has none, and neither has the empty number, which
counts as zero: on a bounded tape there is no room for their successors. -/
theorem increment_adds_one_samples :
    ((∀ c ∈ "1011".toList, c = '0' ∨ c = '1') ∧ 2 * "1011".length + 2 ≤ 10 ∧
      ∃ d r, ofText incrementDocument (.str "binary_increment") = .ok d ∧
        d.run (.str "1011") { maxSteps := 10, leftBounded := false } = .ok r ∧ r.outcome = .accepted ∧
        (∀ c ∈ r.output.toList, c = '0' ∨ c = '1') ∧ Nat.ofDigitChars 2 r.output.toList 0 = 12 ∧
        r.output.length = 4 ∧ d.run (.str "1011") { maxSteps := 10, leftBounded := true } = .ok r) ∧
    ((∀ c ∈ "11".toList, c = '0' ∨ c = '1') ∧ 2 * "11".length + 2 ≤ 6 ∧
      ∃ d r, ofText incrementDocument (.str "binary_increment") = .ok d ∧
        d.run (.str "11") { maxSteps := 6, leftBounded := false } = .ok r ∧ r.outcome = .accepted ∧
        (∀ c ∈ r.output.toList, c = '0' ∨ c = '1') ∧ Nat.ofDigitChars 2 r.output.toList 0 = 4 ∧
        r.output.length = 3 ∧
        ∃ b, d.run (.str "11") { maxSteps := 6, leftBounded := true } = .ok b ∧ b.HaltedBy .leftBoundary) ∧
    (∀ c ∈ "".toList, c = '0' ∨ c = '1') ∧ 2 * "".length + 2 ≤ 2 ∧
      ∃ d r, ofText incrementDocument (.str "binary_increment") = .ok d ∧
        d.run (.str "") { maxSteps := 2, leftBounded := false } = .ok r ∧ r.outcome = .accepted ∧
        Nat.ofDigitChars 2 r.output.toList 0 = 1 ∧ r.output.length = 1 ∧
        ∃ b, d.run (.str "") { maxSteps := 2, leftBounded := true } = .ok b ∧ b.HaltedBy .leftBoundary := by
  refine ⟨?_, ?_, ?_⟩
  · have hbits : ∀ c ∈ "1011".toList, c = '0' ∨ c = '1' := by simp
    have hm : 2 * "1011".length + 2 ≤ 10 := by decide
    obtain ⟨d, r, hd, hrun, haccepted, hwritten, hvalue, hlength, hbounded, _⟩ := increment_adds_one hbits hm
    exact ⟨hbits, hm, d, r, hd, hrun, haccepted, hwritten, hvalue.trans (by decide), hlength.trans (by decide),
      hbounded (by decide)⟩
  · have hbits : ∀ c ∈ "11".toList, c = '0' ∨ c = '1' := by simp
    have hm : 2 * "11".length + 2 ≤ 6 := by decide
    obtain ⟨d, r, hd, hrun, haccepted, hwritten, hvalue, hlength, _, hbounded⟩ := increment_adds_one hbits hm
    exact ⟨hbits, hm, d, r, hd, hrun, haccepted, hwritten, hvalue.trans (by decide), hlength.trans (by decide),
      hbounded (by decide)⟩
  · have hbits : ∀ c ∈ "".toList, c = '0' ∨ c = '1' := by simp
    have hm : 2 * "".length + 2 ≤ 2 := by decide
    obtain ⟨d, r, hd, hrun, haccepted, _, hvalue, hlength, _, hbounded⟩ := increment_adds_one hbits hm
    exact ⟨hbits, hm, d, r, hd, hrun, haccepted, hvalue, hlength, hbounded (by simp)⟩

end Runs

end TapeMachine.Definition
