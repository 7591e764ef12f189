import TapeMachine.Json.Writer
import TapeMachine.Proofs.Text.Characters
/-!
# What written values consist of

The written form of a value consists of printable ASCII characters, whatever the value holds. So a value on one line
is one line, and a file of written values has as many lines as there are values. A value with one item a line holds
line feeds as well, and no other line ends.

* `Json.printable_escapeChar`, `Double.printable_text` : strings and numbers;
* `Json.printable_render`, `Json.newline_not_mem_render` : **a value on one line is printable ASCII without a line
  feed**;
* `Json.laidOut_renderAt` : a value with one item a line is printable ASCII and line feeds.
-/

namespace TapeMachine

/-! ## 1. Printable text -/

/-- Whether a character is printable ASCII. -/
def IsPrintableAscii (c : Char) : Prop :=
  0x20 ≤ c.toNat ∧ c.toNat < 0x7f

instance (c : Char) : Decidable (IsPrintableAscii c) :=
  inferInstanceAs (Decidable (_ ∧ _))

/-- Whether all characters of a text are printable ASCII. -/
abbrev Printable : List Char → Prop :=
  Consists IsPrintableAscii

/-- Whether all characters of a text are printable ASCII or line feeds. -/
abbrev LaidOut : List Char → Prop :=
  Consists fun c => IsPrintableAscii c ∨ c = '\n'

theorem Printable.laidOut {cs : List Char} (h : Printable cs) : LaidOut cs :=
  h.mono fun _ => .inl

/-! ## 2. Numbers -/

theorem printable_of_isDigit {c : Char} (h : c.isDigit = true) : IsPrintableAscii c := by
  simp only [Char.isDigit, Bool.and_eq_true, decide_eq_true_eq, UInt32.le_iff_toNat_le] at h
  have hlow : 48 ≤ c.toNat := h.1
  have hhigh : c.toNat ≤ 57 := h.2
  exact ⟨by omega, by omega⟩

theorem printable_toDigits (n : Nat) : Printable (Nat.toDigits 10 n) :=
  consists_toDigits (fun _ => printable_of_isDigit) n

theorem printable_int (n : Int) : Printable (toString n).toList :=
  consists_int (fun _ => printable_of_isDigit) (by decide) n

namespace DecimalLayout

variable {digits : List Char} (h : Printable digits)
include h

theorem printable_positional (place : Int) : Printable (positional digits place) := by
  unfold positional
  split
  · exact .cons (by decide) (.cons (by decide) (.append (.replicate _ (by decide)) h))
  · have hpadded : Printable (digits ++ List.replicate (place.toNat - digits.length) '0') :=
      h.append (.replicate _ (by decide))
    refine .append (hpadded.of_subset (List.take_subset _ _)) (.cons (by decide) ?_)
    split
    · decide
    · exact hpadded.of_subset (List.drop_subset _ _)

theorem printable_scientific (layout : DecimalLayout) (exponent : Int) :
    Printable (layout.scientific digits exponent) := by
  unfold scientific
  refine .append (.append (h.of_subset (List.take_subset _ _)) ?_) (.cons (by decide) (.cons ?_ ?_))
  · split
    · decide
    · exact .cons (by decide) (h.of_subset (List.drop_subset _ _))
  · split <;> decide
  · exact .append (.replicate _ (by decide)) (printable_toDigits _)

end DecimalLayout

theorem printable_write (layout : DecimalLayout) (d : Decimal) : Printable (layout.write d) := by
  have hdigits : Printable (dropTrailingZeros (Nat.toDigits 10 d.digits)) := by
    refine (printable_toDigits d.digits).of_subset fun c hc => ?_
    rw [dropTrailingZeros, List.mem_reverse] at hc
    exact List.mem_reverse.mp ((List.dropWhile_suffix _).subset hc)
  unfold DecimalLayout.write
  dsimp only
  split
  · exact DecimalLayout.printable_positional hdigits _
  · exact DecimalLayout.printable_scientific hdigits _ _

/-- A number is printable if the words for what is not finite are. -/
theorem Double.printable_text (x : Double) {layout : DecimalLayout} (hinfinity : Printable layout.infinity.toList)
    (hnan : Printable layout.nan.toList) : Printable (x.text layout).toList := by
  have hsign (negative : Bool) : Printable (if negative then "-" else "").toList := by cases negative <;> decide
  cases x with
  | finite negative mantissa exponent =>
      rw [Double.text, String.toList_append]
      refine (hsign negative).append ?_
      split
      · decide
      · rw [String.toList_ofList]
        exact printable_write _ _
  | infinite negative =>
      rw [Double.text, String.toList_append]
      exact (hsign negative).append hinfinity
  | nan => exact hnan

/-! ## 3. Values -/

namespace Json

theorem printable_hexDigit : ∀ d < 16, IsPrintableAscii (Nat.digitChar d) := by
  decide

theorem printable_unitEscape (n : Nat) : Printable (unitEscape n) := by
  refine .cons (by decide) (.cons (by decide) (.append (.replicate _ (by decide)) fun c hc => ?_))
  obtain ⟨d, hd, rfl⟩ := Text.mem_toDigits (by decide) hc
  exact printable_hexDigit d hd

theorem printable_escapeChar (c : Char) : Printable (escapeChar c) := by
  unfold escapeChar
  iterate 7
    split
    · decide
  dsimp only
  split
  · rename_i hplain
    simp only [Bool.and_eq_true, decide_eq_true_eq] at hplain
    exact .cons hplain (by decide)
  · split
    · exact printable_unitEscape _
    · exact (printable_unitEscape _).append (printable_unitEscape _)

theorem printable_renderString (s : String) : Printable (renderString s).toList := by
  rw [renderString, String.toList_ofList]
  refine .append (.cons (by decide) (.flatMap fun c _ => printable_escapeChar c)) (by decide)

mutual

/-- **A value on one line is printable ASCII.** -/
theorem printable_render : (v : Json) → Printable (render v).toList
  | .null => by rw [render]; decide
  | .bool true => by rw [render]; decide
  | .bool false => by rw [render]; decide
  | .int n => by
      rw [render]
      exact printable_int n
  | .float x => by
      rw [render]
      exact x.printable_text (by decide) (by decide)
  | .str s => by
      rw [render]
      exact printable_renderString s
  | .arr items => by
      rw [render, String.toList_append, String.toList_append, String.toList_intercalate]
      refine .append (.append (by decide) (.intercalate (by decide) fun part hpart => ?_)) (by decide)
      obtain ⟨text, htext, rfl⟩ := List.mem_map.mp hpart
      exact printable_renderItems items text htext
  | .obj fields => by
      rw [render, String.toList_append, String.toList_append, String.toList_intercalate]
      refine .append (.append (by decide) (.intercalate (by decide) fun part hpart => ?_)) (by decide)
      obtain ⟨text, htext, rfl⟩ := List.mem_map.mp hpart
      exact printable_renderFields fields text htext

theorem printable_renderItems : (items : List Json) → ∀ text ∈ renderItems items, Printable text.toList
  | [], text, h => by
      rw [renderItems] at h
      cases h
  | item :: items, text, h => by
      rw [renderItems] at h
      rcases List.mem_cons.mp h with rfl | h
      · exact printable_render item
      · exact printable_renderItems items text h

theorem printable_renderFields : (fields : Fields) → ∀ text ∈ renderFields fields, Printable text.toList
  | [], text, h => by
      rw [renderFields] at h
      cases h
  | (name, value) :: fields, text, h => by
      rw [renderFields] at h
      rcases List.mem_cons.mp h with rfl | h
      · rw [String.toList_append, String.toList_append]
        exact .append (.append (printable_renderString name) (by decide)) (printable_render value)
      · exact printable_renderFields fields text h

end

/-- **A value on one line holds no line feed.** -/
theorem newline_not_mem_render (v : Json) : '\n' ∉ (render v).toList := fun h =>
  absurd (printable_render v _ h) (by decide)

/-! ## 4. Values with one item a line -/

theorem laidOut_indentLine (depth : Nat) : LaidOut (indentLine depth).toList := by
  rw [indentLine, String.toList_ofList]
  exact .cons (by decide) (.replicate _ (by decide))

theorem laidOut_indentBlock (depth : Nat) {opening closing : String} {parts : List String}
    (hopening : Printable opening.toList) (hclosing : Printable closing.toList)
    (hparts : ∀ part ∈ parts, LaidOut part.toList) : LaidOut (indentBlock depth opening closing parts).toList := by
  unfold indentBlock
  split
  · rw [String.toList_append]
    exact Printable.laidOut (hopening.append hclosing)
  · simp only [String.toList_append, String.toList_intercalate]
    have hcomma : Printable ",".toList := by decide
    refine .append (.append (.append (.append hopening.laidOut (laidOut_indentLine _)) ?_) (laidOut_indentLine _))
      hclosing.laidOut
    refine .intercalate (hcomma.laidOut.append (laidOut_indentLine _)) fun part hpart => ?_
    obtain ⟨text, htext, rfl⟩ := List.mem_map.mp hpart
    exact hparts text htext

mutual

/-- **A value with one item a line is printable ASCII and line feeds.** -/
theorem laidOut_renderAt (depth : Nat) : (v : Json) → LaidOut (renderAt depth v).toList
  | .arr items => by
      rw [renderAt]
      exact laidOut_indentBlock depth (by decide) (by decide) (laidOut_renderItemsAt (depth + 1) items)
  | .obj fields => by
      rw [renderAt]
      exact laidOut_indentBlock depth (by decide) (by decide) (laidOut_renderFieldsAt (depth + 1) fields)
  | .null => by rw [renderAt]; decide
  | .bool true => by rw [renderAt]; decide
  | .bool false => by rw [renderAt]; decide
  | .int n => by
      rw [renderAt]
      exact (printable_int n).laidOut
  | .float x => by
      rw [renderAt]
      exact (x.printable_text (by decide) (by decide)).laidOut
  | .str s => by
      rw [renderAt]
      exact (printable_renderString s).laidOut

theorem laidOut_renderItemsAt (depth : Nat) : (items : List Json) →
    ∀ text ∈ renderItemsAt depth items, LaidOut text.toList
  | [], text, h => by
      rw [renderItemsAt] at h
      cases h
  | item :: items, text, h => by
      rw [renderItemsAt] at h
      rcases List.mem_cons.mp h with rfl | h
      · exact laidOut_renderAt depth item
      · exact laidOut_renderItemsAt depth items text h

theorem laidOut_renderFieldsAt (depth : Nat) : (fields : Fields) →
    ∀ text ∈ renderFieldsAt depth fields, LaidOut text.toList
  | [], text, h => by
      rw [renderFieldsAt] at h
      cases h
  | (name, value) :: fields, text, h => by
      rw [renderFieldsAt] at h
      rcases List.mem_cons.mp h with rfl | h
      · have hcolon : Printable ": ".toList := by decide
        rw [String.toList_append, String.toList_append]
        exact .append (.append (printable_renderString name).laidOut hcolon.laidOut) (laidOut_renderAt depth value)
      · exact laidOut_renderFieldsAt depth fields text h

end

/-- A written value holds no carriage return, so reading it as a file leaves it as it is. -/
theorem unifyNewlines_renderIndented (v : Json) :
    Text.unifyNewlines (renderIndented v).toList = (renderIndented v).toList := by
  refine Text.unifyNewlines_of_not_mem fun h => ?_
  exact absurd (laidOut_renderAt 0 v _ h) (by decide)

end Json

end TapeMachine
