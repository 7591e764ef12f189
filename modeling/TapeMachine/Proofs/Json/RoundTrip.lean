import TapeMachine.Json.Reader
import TapeMachine.Proofs.Json.Writing
/-!
# Written texts read back

A written string reads back as the same string, whatever characters it holds: short escapes, UTF-16 units and pairs of
units each stand for one character. So a document that holds a list of strings reads back as it is.

* `Json.Lexeme.scanString_escaped` : **a written string is scanned as the string**;
* `Json.Lexeme.Cuts` : the tokens of a text, wherever it stands;
* `Json.read_texts` : **a written object with a list of strings reads back**;
* `Json.eq_of_render_obj` : a written object says which text its first field holds.
-/

namespace TapeMachine

namespace Json.Lexeme

/-! ## 1. Hexadecimal digits -/

theorem hexDigit?_digitChar : ∀ d < 16, hexDigit? (Nat.digitChar d) = some d := by
  decide

theorem unit?_digits {n : Nat} (h : n < 0x10000) :
    unit? (Nat.digitChar (n / 0x1000)) (Nat.digitChar (n / 0x100 % 16)) (Nat.digitChar (n / 0x10 % 16))
      (Nat.digitChar (n % 16)) = some n := by
  rw [unit?, hexDigit?_digitChar _ (by omega), hexDigit?_digitChar _ (by omega), hexDigit?_digitChar _ (by omega),
    hexDigit?_digitChar _ (by omega)]
  show some _ = some n
  congr 1
  omega

/-! ## 2. Strings -/

section Strings

variable {c : Char} {n opening offset : Nat} {lone? : Option Nat} {done rest : List Char}

/-- A unit that is no first half of a pair stands alone. -/
theorem lowHalf?_eq_none (h : n < 0xd800 ∨ 0xdc00 ≤ n) (cs : List Char) : lowHalf? n cs = none := by
  have hpair (low : Nat) : charOfPair? n low = none := by
    rw [charOfPair?, if_neg]
    simp only [Bool.and_eq_true, decide_eq_true_eq]
    omega
  unfold lowHalf?
  split
  · rename_i e f g k _ _
    cases unit? e f g k <;> simp [hpair]
  · rfl

/-- The escape of a unit that stands alone is one character. -/
theorem scanString_unit (h : n < 0xd800 ∨ 0xe000 ≤ n ∧ n < 0x10000) (hrest : rest ≠ []) :
    scanString opening offset lone? done (unitEscape n ++ rest) =
      scanString opening (offset + 6) lone? (Char.ofNat n :: done) rest := by
  obtain ⟨next, rest, rfl⟩ := List.exists_cons_of_ne_nil hrest
  have hchar : charOfUnit? n = some (Char.ofNat n) := by
    rw [charOfUnit?, if_neg]
    simp only [Bool.and_eq_true, decide_eq_true_eq]
    omega
  rw [unitEscape, Text.hex_four (by omega)]
  show scanString _ _ _ _ ('\\' :: 'u' :: _ :: _ :: _ :: _ :: next :: rest) = _
  rw [scanString, unit?_digits (by omega)]
  dsimp only
  rw [lowHalf?_eq_none (by omega), hchar]

/-- The escapes of a pair of units are one character. -/
theorem scanString_pair {high low : Nat} (hhigh : 0xd800 ≤ high ∧ high < 0xdc00) (hlow : 0xdc00 ≤ low ∧ low < 0xe000)
    (hrest : rest ≠ []) :
    scanString opening offset lone? done (unitEscape high ++ unitEscape low ++ rest) =
      scanString opening (offset + 12) lone? (Char.ofNat (0x10000 + (high - 0xd800) * 0x400 + (low - 0xdc00)) :: done)
        rest := by
  obtain ⟨next, rest, rfl⟩ := List.exists_cons_of_ne_nil hrest
  have hpair : charOfPair? high low = some (Char.ofNat (0x10000 + (high - 0xd800) * 0x400 + (low - 0xdc00))) := by
    rw [charOfPair?, if_pos]
    simp only [Bool.and_eq_true, decide_eq_true_eq]
    omega
  rw [unitEscape, unitEscape, Text.hex_four (by omega), Text.hex_four (by omega)]
  show scanString _ _ _ _ ('\\' :: 'u' :: _ :: _ :: _ :: _ :: '\\' :: 'u' :: _ :: _ :: _ :: _ :: next :: rest) = _
  rw [scanString, unit?_digits (by omega)]
  dsimp only
  rw [lowHalf?, unit?_digits (by omega), Option.bind_some, hpair]
  rfl

/-- A character that needs no escape. -/
theorem scanString_plain (hquote : c ≠ '"') (hslash : c ≠ '\\') (hlow : 0x20 ≤ c.toNat) :
    scanString opening offset lone? done (c :: rest) = scanString opening (offset + 1) lone? (c :: done) rest := by
  have hplain : ¬ c.toNat < 0x20 := by omega
  rw [scanString, if_neg hplain] <;> simp [hquote, hslash]

variable (opening offset lone? done) in
/-- **A written character is scanned as the character.** -/
theorem scanString_escapeChar (c : Char) (hrest : rest ≠ []) : ∃ after,
    scanString opening offset lone? done (escapeChar c ++ rest) = scanString opening after lone? (c :: done) rest := by
  have hvalid : c.toNat < 0xd800 ∨ 0xdfff < c.toNat ∧ c.toNat < 0x110000 := c.valid
  unfold escapeChar
  iterate 7
    split
    · rename_i heq
      exact ⟨offset + 2, by subst heq; simp [scanString, shortEscape?]⟩
  dsimp only
  split
  · rename_i hquote hslash _ _ _ _ _ hplain
    simp only [Bool.and_eq_true, decide_eq_true_eq] at hplain
    exact ⟨_, scanString_plain hquote hslash hplain.1⟩
  · split
    · exact ⟨_, (scanString_unit (by omega) hrest).trans (by rw [Char.ofNat_toNat])⟩
    · have hcode : 0x10000 + (0xd800 + (c.toNat - 0x10000) / 0x400 - 0xd800) * 0x400 +
          (0xdc00 + (c.toNat - 0x10000) % 0x400 - 0xdc00) = c.toNat := by omega
      exact ⟨_, (scanString_pair (by omega) (by omega) hrest).trans (by rw [hcode, Char.ofNat_toNat])⟩

variable (opening offset lone? done rest) in
/-- **A written string is scanned as the string**, up to its closing quote. -/
theorem scanString_escaped (cs : List Char) : ∃ after,
    scanString opening offset lone? done (cs.flatMap escapeChar ++ '"' :: rest) =
      .ok ⟨.text (String.ofList (done.reverse ++ cs)) lone?, after, rest⟩ := by
  induction cs generalizing offset done with
  | nil => exact ⟨offset + 1, by simp [scanString]⟩
  | cons c cs ih =>
      rw [List.flatMap_cons, List.append_assoc]
      have hrest : cs.flatMap escapeChar ++ '"' :: rest ≠ [] := by simp
      obtain ⟨middle, hmiddle⟩ := scanString_escapeChar opening offset lone? done c hrest
      obtain ⟨after, hafter⟩ := ih middle (c :: done)
      refine ⟨after, ?_⟩
      rw [hmiddle, hafter, List.reverse_cons, List.append_assoc]
      rfl

end Strings

/-! ## 3. Tokens -/

/-- The tokens of a text, wherever it stands. -/
def Cuts (cs : List Char) (tokens : List Token) : Prop :=
  ∀ offset, (cut offset cs).1.map (·.token) = tokens

namespace Cuts

variable {c : Char} {cs gap : List Char} {tokens : List Token}

theorem nil : Cuts [] [] := fun offset => by
  rw [cut]
  rfl

theorem gaps (hgap : Consists (isGap · = true) gap) (h : Cuts cs tokens) : Cuts (gap ++ cs) tokens := by
  induction gap with
  | nil => exact h
  | cons c gap ih =>
      intro offset
      rw [List.cons_append, cut, if_pos (hgap c (by simp))]
      exact ih (fun d hd => hgap d (by simp [hd])) _

theorem mark (hmark : isMark c = true) (h : Cuts cs tokens) : Cuts (c :: cs) (.mark c :: tokens) := fun offset => by
  have hgap : isGap c = false := by
    simp only [isMark, List.contains_eq_mem, decide_eq_true_eq, List.mem_cons, List.not_mem_nil, or_false] at hmark
    rcases hmark with rfl | rfl | rfl | rfl | rfl | rfl <;> rfl
  rw [cut, if_neg (by simp [hgap]), if_pos hmark, List.map_cons, h]

/-- A written string is one token. -/
theorem text (s : String) (h : Cuts cs tokens) : Cuts ((renderString s).toList ++ cs) (.text s :: tokens) :=
  fun offset => by
    have hsplit : (renderString s).toList ++ cs = '"' :: (s.toList.flatMap escapeChar ++ '"' :: cs) := by
      simp [renderString]
    obtain ⟨after, hscan⟩ := scanString_escaped offset (offset + 1) none [] cs s.toList
    rw [hsplit, cut, if_neg (by decide), if_neg (by decide), if_pos rfl]
    split
    · rename_i scanned heq
      rw [hscan] at heq
      cases heq
      rw [List.map_cons, h]
      simp
    · rename_i heq
      rw [hscan] at heq
      cases heq

end Cuts

end Json.Lexeme

namespace Json

open Lexeme Reader

/-! ## 4. Reading -/

/-- What some tokens do to the reader, wherever they stand. -/
inductive Reads : State → List Token → State → Prop where
  | nil {state : State} : Reads state [] state
  | cons {state middle after : State} {token : Token} {tokens : List Token}
      (h : ∀ offset, step state ⟨token, offset⟩ = .ok middle) (hrest : Reads middle tokens after) :
      Reads state (token :: tokens) after

theorem Reads.append {state middle after : State} {tokens more : List Token} (h : Reads state tokens middle)
    (h' : Reads middle more after) : Reads state (tokens ++ more) after := by
  induction h with
  | nil => exact h'
  | cons hstep _ ih => exact .cons hstep (ih h')

theorem Reads.foldlM {state after : State} {tokens : List Token} (h : Reads state tokens after)
    {lexemes : List Lexeme} (hlexemes : lexemes.map (·.token) = tokens) :
    lexemes.foldlM step state = .ok after := by
  induction h generalizing lexemes with
  | nil =>
      rw [List.map_eq_nil_iff.mp hlexemes]
      rfl
  | cons hstep _ ih =>
      obtain ⟨lexeme, lexemes, rfl, rfl, hrest⟩ := List.map_eq_cons_iff.mp hlexemes
      rw [List.foldlM_cons, hstep]
      exact ih hrest

/-- Lexemes without half of a pair alone give their value. -/
theorem whole_eq_ok {lexemes : List Lexeme} {value : Json} (h : ∀ lexeme ∈ lexemes, lexeme.token.lone? = none) :
    whole lexemes value = .ok value := by
  rw [whole, List.findSome?_eq_none_iff.mpr h]

/-- **A text is read by its tokens**, if no half of a pair stands alone in them. -/
theorem read_of_cuts {text : String} {tokens : List Token} {value : Json} (hmark : text.toList.head? ≠ some '\ufeff')
    (hcuts : Cuts text.toList tokens) (h : Reads ⟨.value, []⟩ tokens ⟨.finished value, []⟩)
    (hlone : ∀ token ∈ tokens, token.lone? = none) : read text = .ok value := by
  have hrun : Reader.run text.toList = .ok value := by
    unfold Reader.run
    rw [if_neg hmark]
    show (_ >>= fun state => finish state _ >>= whole _) = _
    rw [h.foldlM (hcuts 0)]
    exact whole_eq_ok fun lexeme hlexeme => hlone _ (hcuts 0 ▸ List.mem_map_of_mem hlexeme)
  rw [read, hrun]

/-! ## 5. Objects with a list of strings -/

section Texts

variable {separator : List Char}

/-- A separated list: what follows the first part has a separator in front of each part. -/
theorem intercalate_cons_eq_flatMap (part : List Char) (parts : List (List Char)) :
    separator.intercalate (part :: parts) = part ++ parts.flatMap (separator ++ ·) := by
  induction parts generalizing part with
  | nil => simp [List.intercalate]
  | cons next parts ih => rw [List.intercalate_cons_cons, ih, List.flatMap_cons, List.append_assoc, List.append_assoc]

theorem renderItemsAt_texts (depth : Nat) (xs : List String) :
    renderItemsAt depth (xs.map .str) = xs.map renderString := by
  induction xs with
  | nil => rfl
  | cons x xs ih => rw [List.map_cons, List.map_cons, renderItemsAt, renderAt, ih]

/-- The tokens of a list of strings. -/
def textTokens : List String → List Token
  | [] => [.mark '[', .mark ']']
  | x :: xs => .mark '[' :: .text x :: (xs.flatMap (fun y => [.mark ',', .text y]) ++ [.mark ']'])

/-- A list of strings is written whole, without half of a pair alone. -/
theorem lone?_textTokens (xs : List String) : ∀ token ∈ textTokens xs, token.lone? = none := by
  cases xs with
  | nil => simp [textTokens, Token.lone?]
  | cons x xs => simp +contextual [textTokens, Token.lone?, or_imp]

theorem isGap_indentLine (depth : Nat) : Consists (isGap · = true) (indentLine depth).toList := by
  intro c hc
  rw [indentLine, String.toList_ofList] at hc
  rcases List.mem_cons.mp hc with rfl | hc
  · rfl
  · rw [(List.mem_replicate.mp hc).2]
    rfl

/-- A written list of strings in front of other text. -/
theorem cuts_texts (depth : Nat) (xs : List String) {cs : List Char} {tokens : List Token} (h : Cuts cs tokens) :
    Cuts ((renderAt depth (.arr (xs.map .str))).toList ++ cs) (textTokens xs ++ tokens) := by
  rw [renderAt, renderItemsAt_texts]
  cases xs with
  | nil =>
      have hempty : (indentBlock depth "[" "]" []).toList = ['[', ']'] := by
        rw [indentBlock, if_pos List.isEmpty_nil]
        decide
      rw [List.map_nil, hempty]
      exact .mark rfl (.mark rfl h)
  | cons x xs =>
      have hclosing : Cuts ((indentLine depth).toList ++ ']' :: cs) (.mark ']' :: tokens) :=
        .gaps (isGap_indentLine depth) (.mark rfl h)
      have hmore : Cuts (xs.flatMap (fun y => ',' :: ((indentLine (depth + 1)).toList ++ (renderString y).toList)) ++
          ((indentLine depth).toList ++ ']' :: cs))
            (xs.flatMap (fun y => [.mark ',', .text y]) ++ .mark ']' :: tokens) := by
        induction xs with
        | nil => exact hclosing
        | cons y ys ih =>
            rw [List.flatMap_cons, List.cons_append, List.cons_append, List.append_assoc, List.append_assoc]
            exact .mark rfl (.gaps (isGap_indentLine _) (.text y ih))
      have hitems := Cuts.mark (c := '[') rfl (.gaps (isGap_indentLine (depth + 1)) (.text x hmore))
      rw [indentBlock, if_neg (by simp)]
      simp only [String.toList_append, String.toList_intercalate, List.map_cons, intercalate_cons_eq_flatMap,
        List.map_map, List.flatMap_map, List.append_assoc] at hitems ⊢
      simpa [textTokens] using hitems

/-- The tokens of a list of strings are delivered as the list. -/
theorem reads_texts (xs : List String) {stack : List Frame} (hdepth : stack.length < depthLimit) :
    Reads ⟨.value, stack⟩ (textTokens xs) (deliver stack (.arr (xs.map .str))) := by
  have hopen (offset : Nat) : step ⟨.value, stack⟩ ⟨.mark '[', offset⟩ = .ok ⟨.firstItem, stack⟩ := by
    show opened .arr .firstItem stack = _
    rw [opened, if_pos hdepth]
  cases xs with
  | nil => exact .cons hopen (.cons (fun _ => rfl) .nil)
  | cons x xs =>
      have hmore (done : List Json) : Reads ⟨.afterItem done, stack⟩ (xs.flatMap fun y => [.mark ',', .text y])
          ⟨.afterItem ((xs.map .str).reverse ++ done), stack⟩ := by
        induction xs generalizing done with
        | nil => exact .nil
        | cons y ys ih =>
            rw [List.map_cons, List.reverse_cons, List.append_assoc]
            exact .cons (fun _ => rfl) (.cons (fun _ => rfl) (ih _))
      refine .cons hopen (.cons (fun _ => rfl) ((hmore [.str x]).append (.cons (fun _ => ?_) .nil)))
      show Except.ok (deliver stack (.arr _)) = _
      simp

/-- The text of an object with one field. -/
theorem toList_renderIndented_field (name : String) (value : Json) :
    (renderIndented (.obj [(name, value)])).toList =
      '\x7b' :: ((indentLine 1).toList ++ ((renderString name).toList ++ ':' :: ([' '] ++
        ((renderAt 1 value).toList ++ ((indentLine 0).toList ++ ['\x7d']))))) := by
  rw [renderIndented, renderAt, renderFieldsAt, renderFieldsAt, indentBlock, if_neg (by simp),
    String.intercalate_singleton]
  simp only [String.toList_append, List.append_assoc]
  rfl

/-- **A written object with a list of strings reads back.** -/
theorem read_texts (name : String) (xs : List String) :
    read (renderIndented (.obj [(name, .arr (xs.map .str))])) = .ok (.obj [(name, .arr (xs.map .str))]) := by
  have htext := toList_renderIndented_field name (.arr (xs.map .str))
  have hcuts : Cuts (renderIndented (.obj [(name, .arr (xs.map .str))])).toList
      (.mark '\x7b' :: .text name :: .mark ':' :: (textTokens xs ++ [.mark '\x7d'])) := by
    rw [htext]
    exact .mark rfl (.gaps (isGap_indentLine 1) (.text name (.mark rfl (.gaps (by decide)
      (cuts_texts 1 xs (.gaps (isGap_indentLine 0) (.mark rfl .nil)))))))
  refine read_of_cuts ?_ hcuts ?_ ?_
  · rw [htext]
    simp
  · refine .cons (fun _ => rfl) (.cons (fun _ => rfl) (.cons (fun _ => rfl) ((reads_texts xs ?_).append ?_)))
    · show 1 < depthLimit
      decide
    · exact .cons (fun _ => rfl) .nil
  · intro token htoken
    simp only [List.mem_cons, List.mem_append, List.not_mem_nil, or_false] at htoken
    rcases htoken with rfl | rfl | rfl | hitem | rfl
    · rfl
    · rfl
    · rfl
    · exact lone?_textTokens xs token hitem
    · rfl

/-- A written string says which string it is, whatever stands behind it. -/
theorem eq_of_renderString_append {s t : String} {rest rest' : List Char}
    (h : (renderString s).toList ++ rest = (renderString t).toList ++ rest') : s = t := by
  have hquoted (u : String) (more : List Char) :
      (renderString u).toList ++ more = '"' :: (u.toList.flatMap escapeChar ++ '"' :: more) := by
    simp [renderString]
  rw [hquoted, hquoted, List.cons.injEq] at h
  obtain ⟨_, hs⟩ := Lexeme.scanString_escaped 0 0 none [] rest s.toList
  obtain ⟨_, ht⟩ := Lexeme.scanString_escaped 0 0 none [] rest' t.toList
  rw [h.2, ht, Except.ok.injEq, Lexeme.Scanned.mk.injEq] at hs
  simpa using hs.1.symm

/-- **A written object says which text its first field holds.** -/
theorem eq_of_render_obj {name s t : String} {fields fields' : Fields}
    (h : (Json.obj ((name, .str s) :: fields)).render = (Json.obj ((name, .str t) :: fields')).render) : s = t := by
  have hfront (u : String) (more : Fields) : ∃ rest, (Json.obj ((name, .str u) :: more)).render.toList =
      ("\x7b" ++ renderString name ++ ": ").toList ++ ((renderString u).toList ++ rest) := by
    refine ⟨((renderFields more).map String.toList).flatMap (", ".toList ++ ·) ++ ['\x7d'], ?_⟩
    simp only [render, renderFields, String.toList_append, String.toList_intercalate, List.map_cons,
      intercalate_cons_eq_flatMap, List.append_assoc]
    rfl
  obtain ⟨rest, hrest⟩ := hfront s fields
  obtain ⟨rest', hrest'⟩ := hfront t fields'
  rw [h, hrest'] at hrest
  exact (eq_of_renderString_append (List.append_cancel_left hrest)).symm

end Texts

end Json

end TapeMachine
