import TapeMachine.Text.Lines
import TapeMachine.Text.Quoted
/-!
# Characters of a text

Which characters a text consists of, and what follows from it for its pieces, its lines and its digits.

* `Consists` : a text that consists of characters of a class, and how such texts are put together;
* `Text.pieces_append_piece` : **what stands behind the last separator is the last piece**;
* `Text.mem_toDigits`, `Text.hex_four` : the digits of a number.
-/

namespace TapeMachine

/-! ## 1. Classes of characters -/

/-- Whether a text consists of characters of a class. -/
def Consists (p : Char → Prop) (cs : List Char) : Prop :=
  ∀ c ∈ cs, p c

instance (p : Char → Prop) [DecidablePred p] (cs : List Char) : Decidable (Consists p cs) :=
  List.decidableBAll p cs

namespace Consists

variable {p q : Char → Prop} {cs ds separator : List Char} {parts : List (List Char)} {c : Char}

theorem mono (hpq : ∀ c, p c → q c) (h : Consists p cs) : Consists q cs :=
  fun c hc => hpq c (h c hc)

theorem append (h : Consists p cs) (h' : Consists p ds) : Consists p (cs ++ ds) := fun c hc => by
  rcases List.mem_append.mp hc with hc | hc
  · exact h c hc
  · exact h' c hc

theorem cons (h : p c) (h' : Consists p cs) : Consists p (c :: cs) := fun d hd => by
  rcases List.mem_cons.mp hd with rfl | hd
  · exact h
  · exact h' d hd

theorem replicate (n : Nat) (h : p c) : Consists p (List.replicate n c) := fun d hd => by
  rw [(List.mem_replicate.mp hd).2]
  exact h

theorem of_subset (h : Consists p ds) (hsub : cs ⊆ ds) : Consists p cs :=
  fun c hc => h c (hsub hc)

theorem flatMap {α : Type} {xs : List α} {f : α → List Char} (h : ∀ x ∈ xs, Consists p (f x)) :
    Consists p (xs.flatMap f) := fun c hc => by
  obtain ⟨x, hx, hc⟩ := List.mem_flatMap.mp hc
  exact h x hx c hc

/-- Parts of a class with a separator of that class between them. -/
theorem intercalate (hseparator : Consists p separator) (h : ∀ part ∈ parts, Consists p part) :
    Consists p (separator.intercalate parts) := by
  induction parts with
  | nil => exact fun c hc => by cases hc
  | cons part parts ih =>
      have hpart := h part (by simp)
      cases parts with
      | nil => simpa [List.intercalate] using hpart
      | cons next parts =>
          rw [List.intercalate_cons_cons]
          exact (hpart.append hseparator).append (ih fun p hp => h p (by simp [hp]))

end Consists

section Numbers

variable {p : Char → Prop} (hdigit : ∀ c, c.isDigit = true → p c)
include hdigit

theorem consists_toDigits (n : Nat) : Consists p (Nat.toDigits 10 n) :=
  fun c hc => hdigit c (Nat.isDigit_of_mem_toDigits (by decide) (by decide) hc)

theorem consists_repr (n : Nat) : Consists p n.repr.toList := by
  rw [Nat.toList_repr]
  exact consists_toDigits hdigit n

/-- A whole number consists of digits, and of a sign in front of them. -/
theorem consists_int (hminus : p '-') (n : Int) : Consists p (toString n).toList := by
  show Consists p n.repr.toList
  rw [Int.repr_eq_if]
  split
  · exact consists_repr hdigit _
  · rw [String.toList_append]
    exact .append (.cons hminus fun c hc => by cases hc) (consists_repr hdigit _)

end Numbers

namespace Text

/-! ## 2. Pieces and lines -/

/-- **What stands behind the last separator is the last piece.** -/
theorem pieces_append_piece {separator : Char} {piece : List Char} (h : separator ∉ piece) (cs : List Char) :
    pieces separator (cs ++ separator :: piece) = pieces separator cs ++ [piece] := by
  have hlast : cs.foldr (prependPiece separator) ([], [piece]) =
      ((cs.foldr (prependPiece separator) ([], [])).1, (cs.foldr (prependPiece separator) ([], [])).2 ++ [piece]) := by
    induction cs with
    | nil => rfl
    | cons c cs ih =>
        simp only [List.foldr_cons, ih, prependPiece]
        split <;> rfl
  simp only [pieces, List.foldr_append, List.foldr_cons, foldr_prependPiece h, prependPiece, if_true,
    List.append_nil]
  rw [hlast]
  rfl

/-- A text without carriage returns has no line ends to unify. -/
theorem unifyNewlines_of_not_mem {cs : List Char} (h : '\r' ∉ cs) : unifyNewlines cs = cs := by
  fun_induction unifyNewlines cs with
  | case1 => rfl
  | case2 => simp at h
  | case3 c cs _ ih =>
      simp only [List.mem_cons, not_or] at h
      rw [if_neg (Ne.symm h.1), ih h.2]

/-! ## 3. Digits -/

/-- The digits to a base are those of the numbers below it. -/
theorem mem_toDigits {b n : Nat} {c : Char} (hb : 1 < b) (h : c ∈ Nat.toDigits b n) : ∃ d < b, c = Nat.digitChar d := by
  induction n using Nat.strongRecOn with
  | _ n ih =>
      rw [Nat.toDigits_eq_if hb] at h
      split at h
      · rename_i hlt
        exact ⟨n, hlt, List.mem_singleton.mp h⟩
      · rename_i hle
        rcases List.mem_append.mp h with h | h
        · exact ih (n / b) (Nat.div_lt_self (by omega) hb) h
        · exact ⟨n % b, Nat.mod_lt n (by omega), List.mem_singleton.mp h⟩

/-- The last digit stands behind those of the quotient. -/
theorem hex_succ {width n : Nat} (hpos : 0 < width) :
    hex (width + 1) n = hex width (n / 16) ++ [Nat.digitChar (n % 16)] := by
  unfold hex
  by_cases hn : n < 16
  · obtain ⟨k, rfl⟩ : ∃ k, width = k + 1 := ⟨width - 1, by omega⟩
    have hzero : Nat.digitChar 0 = '0' := rfl
    rw [Nat.toDigits_of_lt_base hn, Nat.div_eq_of_lt hn, Nat.mod_eq_of_lt hn]
    simp [List.replicate_succ', Nat.toDigits_of_lt_base (show 0 < 16 by decide), hzero]
  · rw [Nat.toDigits_of_base_le (by decide) (by omega)]
    simp [← List.append_assoc]

/-- The four digits of a UTF-16 unit. -/
theorem hex_four {n : Nat} (h : n < 0x10000) : hex 4 n =
    [Nat.digitChar (n / 0x1000), Nat.digitChar (n / 0x100 % 16), Nat.digitChar (n / 0x10 % 16),
      Nat.digitChar (n % 16)] := by
  have hhundreds : n / 16 / 16 = n / 0x100 := Nat.div_div_eq_div_mul n 16 16
  have hthousands : n / 0x100 / 16 = n / 0x1000 := Nat.div_div_eq_div_mul n 0x100 16
  have hfirst : hex 1 (n / 0x1000) = [Nat.digitChar (n / 0x1000)] := by
    rw [hex, Nat.toDigits_of_lt_base (by omega)]
    rfl
  rw [hex_succ (by decide), hex_succ (by decide), hex_succ (by decide), hhundreds, hthousands, hfirst]
  rfl

end Text

end TapeMachine
