/-!
# Blank characters

The characters that may stand around a word without belonging to it: the Unicode white space, with the
four information separators.

* `Text.isBlank`, `Text.trim` : the class, and a text without the blanks at its two ends;
* `Text.wordsOf` : what stands between blanks;
* `Text.trim_eq_self_iff` : **trimming changes nothing exactly when neither end is blank.**
-/

namespace TapeMachine.Text

/-- White space of Unicode, and the information separators U+001C to U+001F. -/
def isBlank (c : Char) : Bool :=
  let n := c.toNat
  (0x9 ≤ n && n ≤ 0xd) || (0x1c ≤ n && n ≤ 0x20) || n == 0x85 || n == 0xa0 || n == 0x1680 ||
  (0x2000 ≤ n && n ≤ 0x200a) || n == 0x2028 || n == 0x2029 || n == 0x202f || n == 0x205f || n == 0x3000

/-- The characters without those blanks that nothing else follows. -/
def dropEndBlanks (cs : List Char) : List Char :=
  (cs.reverse.dropWhile isBlank).reverse

/-- The characters without the blanks at either end. -/
def trimChars (cs : List Char) : List Char :=
  dropEndBlanks (cs.dropWhile isBlank)

/-- A text without the blanks at its two ends. -/
def trim (s : String) : String :=
  String.ofList (trimChars s.toList)

/-- A text without the blanks at its end. -/
def trimEnd (s : String) : String :=
  String.ofList (dropEndBlanks s.toList)

/-- The words of a text: what stands between blanks. -/
def wordsOf (cs : List Char) : List (List Char) :=
  (cs.splitOnP isBlank).filter (· ≠ [])

/-! ## Laws -/

section Laws

variable {cs : List Char}

theorem dropWhile_eq_self_iff {α : Type} {p : α → Bool} {xs : List α} :
    xs.dropWhile p = xs ↔ ∀ x ∈ xs.head?, p x = false := by
  cases xs with
  | nil => simp
  | cons x xs =>
      cases h : p x with
      | false => simp [h]
      | true =>
          simp only [List.dropWhile_cons, h, if_true, List.head?_cons, Option.mem_some_iff,
            forall_eq', Bool.true_eq_false, iff_false]
          intro hx
          have hlen := congrArg List.length hx
          have hle := (List.dropWhile_suffix (l := xs) p).length_le
          simp only [List.length_cons] at hlen
          omega

theorem dropEndBlanks_eq_self_iff :
    dropEndBlanks cs = cs ↔ ∀ c ∈ cs.getLast?, isBlank c = false := by
  rw [dropEndBlanks, List.reverse_eq_iff, dropWhile_eq_self_iff, List.head?_reverse]

theorem length_trimChars_le (cs : List Char) : (trimChars cs).length ≤ (cs.dropWhile isBlank).length := by
  simp only [trimChars, dropEndBlanks, List.length_reverse]
  refine Nat.le_trans (List.dropWhile_suffix isBlank).length_le ?_
  simp

/-- **Trimming changes nothing exactly when neither end is blank.** -/
theorem trimChars_eq_self_iff :
    trimChars cs = cs ↔ (∀ c ∈ cs.head?, isBlank c = false) ∧ ∀ c ∈ cs.getLast?, isBlank c = false := by
  constructor
  · intro h
    have hfront : cs.dropWhile isBlank = cs := by
      have hle := length_trimChars_le cs
      rw [h] at hle
      exact (List.dropWhile_suffix isBlank).eq_of_length
        (Nat.le_antisymm (List.dropWhile_suffix isBlank).length_le hle)
    refine ⟨dropWhile_eq_self_iff.1 hfront, dropEndBlanks_eq_self_iff.1 ?_⟩
    simpa [trimChars, hfront] using h
  · rintro ⟨hfront, hend⟩
    rw [trimChars, dropWhile_eq_self_iff.2 hfront, dropEndBlanks_eq_self_iff.2 hend]

/-- **A text is its own trimmed form exactly when neither end is blank.** -/
theorem trim_eq_self_iff {s : String} :
    trim s = s ↔
      (∀ c ∈ s.toList.head?, isBlank c = false) ∧ ∀ c ∈ s.toList.getLast?, isBlank c = false := by
  rw [← trimChars_eq_self_iff, trim]
  constructor
  · intro h
    simpa using congrArg String.toList h
  · intro h
    rw [h, String.ofList_toList]

end Laws

end TapeMachine.Text
