import TapeMachine.Markup.Render
import TapeMachine.Proofs.Text.Characters
/-!
# Escaped text in markup

Markup is refused when a closing tag fits no open one. An escaped text closes nothing, whatever it is made of: its own
tags are ordinary text, and none of its brackets makes a tag with what stands behind it, if that does not close a
bracket first.

* `Markup.Renders` : a text that can be rendered where at least some tags are open;
* `Markup.Follows` : a text that can stand behind an escaped one;
* `Markup.renders_escape` : **an escaped text is rendered in front of any text that can follow it**;
* `Markup.escape_of_plain` : ordinary text has nothing to be escaped;
* `Markup.IsStyle`, `Markup.renders_opening`, `Markup.follows_closing` : the tags of a style;
* `Markup.SeenAs`, `Markup.SeenAs.styled` : what is seen of plain texts and styled labels.
-/

namespace TapeMachine.Markup

variable {cs inner after : List Char} {c : Char} {n : Nat} {names : List String} {name : String}

/-! ## 1. Where a tag starts -/

/-- Whether a bracket is closed before another one opens. -/
def closes (cs : List Char) : Bool :=
  (cs.dropWhile continuesTag).head? = some ']'

/-- The inside of a tag: what starts one, and nothing in it is a bracket. -/
def IsInner : List Char → Prop
  | [] => False
  | c :: cs => startsTag c = true ∧ Consists (continuesTag · = true) cs

instance : DecidablePred IsInner
  | [] => inferInstanceAs (Decidable False)
  | c :: cs => inferInstanceAs (Decidable (startsTag c = true ∧ Consists (continuesTag · = true) cs))

theorem continuesTag_of_startsTag (h : startsTag c = true) : continuesTag c = true := by
  have hopen : c ≠ '[' := by
    rintro rfl
    cases h
  have hclose : c ≠ ']' := by
    rintro rfl
    cases h
  simp [continuesTag, hopen, hclose]

theorem cutTag_append (h : IsInner inner) : cutTag (inner ++ ']' :: after) = some (inner, after) := by
  cases inner with
  | nil => exact h.elim
  | cons c cs =>
      have hstop : (']' :: after).takeWhile continuesTag = [] ∧ (']' :: after).dropWhile continuesTag = ']' :: after :=
        ⟨rfl, rfl⟩
      rw [List.cons_append, cutTag, if_pos h.1, List.dropWhile_append_of_pos h.2, List.takeWhile_append_of_pos h.2,
        hstop.1, hstop.2, List.append_nil]
      rfl

theorem isInner_of_cutTag (h : cutTag cs = some (inner, after)) : IsInner inner := by
  unfold cutTag at h
  split at h
  · cases h
  · rename_i c cs
    split at h
    · rename_i hstart
      split at h
      · cases h
        exact ⟨hstart, fun d hd => List.all_eq_true.mp List.all_takeWhile d hd⟩
      · cases h
    · cases h

/-- A bracket opens no tag when nothing starts one behind it, or when no bracket is closed. -/
theorem cutTag_eq_none_iff : cutTag (c :: cs) = none ↔ startsTag c = true → closes cs = false := by
  show (if startsTag c then _ else none) = none ↔ _
  unfold closes
  by_cases hstart : startsTag c = true
  · rw [if_pos hstart]
    split
    · rename_i hdrop
      simp [hstart, hdrop]
    · rename_i hdrop
      simp only [hstart, forall_const, true_iff, decide_eq_false_iff_not]
      intro hhead
      obtain ⟨after, hafter⟩ := List.head?_eq_some_iff.mp hhead
      exact hdrop after hafter
  · simp [hstart]

theorem cutTag_eq_none_of_closes (h : closes cs = false) : cutTag cs = none := by
  cases cs with
  | nil => rfl
  | cons c cs =>
      refine cutTag_eq_none_iff.mpr fun hstart => ?_
      simpa [closes, continuesTag_of_startsTag hstart] using h

theorem leadingTag_tagText (h : IsInner inner) (n : Nat) :
    leadingTag (tagText n inner ++ after) = some (.tag n inner, after) := by
  have hall : ∀ c ∈ List.replicate n '\\', decide (c = '\\') = true := fun c hc => by
    simp [(List.mem_replicate.mp hc).2]
  have hstop : ('[' :: (inner ++ ']' :: after)).dropWhile (· = '\\') = '[' :: (inner ++ ']' :: after) ∧
      ('[' :: (inner ++ ']' :: after)).takeWhile (· = '\\') = [] := ⟨rfl, rfl⟩
  have htext : tagText n inner ++ after = List.replicate n '\\' ++ '[' :: (inner ++ ']' :: after) := by
    simp [tagText]
  rw [htext]
  unfold leadingTag
  rw [List.dropWhile_append_of_pos hall, List.takeWhile_append_of_pos hall, hstop.1, hstop.2]
  simp only [cutTag_append h]
  simp

theorem leadingTag_backslash (cs : List Char) : leadingTag ('\\' :: cs) = none ↔ leadingTag cs = none := by
  unfold leadingTag
  rw [List.dropWhile_cons_of_pos (by simp)]
  split <;> simp

theorem leadingTag_bracket (cs : List Char) : leadingTag ('[' :: cs) = none ↔ cutTag cs = none := by
  unfold leadingTag
  rw [List.dropWhile_cons_of_neg (by simp)]
  simp

theorem leadingTag_of_ne (hbackslash : c ≠ '\\') (hbracket : c ≠ '[') : leadingTag (c :: cs) = none := by
  unfold leadingTag
  rw [List.dropWhile_cons_of_neg (by simpa using hbackslash)]
  split
  · rename_i heq
    exact absurd (List.cons.inj heq).1 hbracket
  · rfl

/-! ## 2. Rendering behind open tags -/

/-- Whether a text is rendered where at least some tags are open, the latest first, wherever it stands. -/
def Renders (names : List String) (cs : List Char) : Prop :=
  ∀ opened : List Opened, names.Sublist (opened.map (·.name)) → ∀ position pending,
    ∃ text, renderPieces opened (piecesFrom position pending (tokens cs)) = .ok text

theorem tokens_of_leadingTag {token : Token} (h : leadingTag cs = some (token, after)) :
    tokens cs = token :: tokens after := by
  rw [tokens]
  split
  · rename_i htag
    rw [h] at htag
    cases htag
    rfl
  · rename_i hnone
    rw [h] at hnone
    cases hnone

theorem tokens_cons (h : leadingTag (c :: cs) = none) : tokens (c :: cs) = .char c :: tokens cs := by
  rw [tokens]
  split
  · rename_i htag
    rw [h] at htag
    cases htag
  · rfl

theorem renderPieces_textBefore {opened : List Opened} {pieces : List Piece} {seen : List Char}
    (h : renderPieces opened pieces = .ok seen) (cs : List Char) :
    renderPieces opened (textBefore cs pieces) = .ok (shownPiece cs ++ seen) := by
  unfold textBefore
  split
  · rename_i hempty
    rw [List.isEmpty_iff.mp hempty, h]
    simp [shownPiece, freeBrackets, Text.expandEmoji, dropControls]
  · simp only [renderPieces, h]
    rfl

theorem exists_renderPieces_textBefore {opened : List Opened} {pieces : List Piece}
    (h : ∃ text, renderPieces opened pieces = .ok text) (cs : List Char) :
    ∃ text, renderPieces opened (textBefore cs pieces) = .ok text := by
  obtain ⟨text, htext⟩ := h
  exact ⟨_, renderPieces_textBefore htext cs⟩

theorem renders_nil : Renders names [] := fun opened _ position pending => by
  rw [tokens]
  exact exists_renderPieces_textBefore ⟨[], rfl⟩ _

theorem Renders.mono (h : Renders names cs) : Renders (name :: names) cs :=
  fun opened hopened => h opened ((List.sublist_cons_self name names).trans hopened)

/-- A character that starts no tag is ordinary text. -/
theorem Renders.cons (hc : leadingTag (c :: cs) = none) (h : Renders names cs) : Renders names (c :: cs) :=
  fun opened hopened position pending => by
    rw [tokens_cons hc]
    exact h opened hopened (position + 1) (c :: pending)

/-- Characters of ordinary text that starts no tag. -/
def IsPlain (c : Char) : Prop :=
  c ≠ '\\' ∧ c ≠ '['

instance : DecidablePred IsPlain := fun c => inferInstanceAs (Decidable (c ≠ '\\' ∧ c ≠ '['))

theorem Renders.plain (hcs : Consists IsPlain cs) (h : Renders names after) : Renders names (cs ++ after) := by
  induction cs with
  | nil => exact h
  | cons c cs ih =>
      have hc := hcs c (by simp)
      exact (ih (hcs.of_subset (by simp))).cons (leadingTag_of_ne hc.1 hc.2)

/-- **No tag starts in front of an ordinary character that can start none**, whichever character stands there. -/
theorem Renders.behind {d : Char} (h : Renders names (d :: cs)) (c : Char) (hd : IsPlain d)
    (hstart : startsTag d = false) : Renders names (c :: d :: cs) := by
  refine h.cons ?_
  by_cases hbackslash : c = '\\'
  · rw [hbackslash]
    exact (leadingTag_backslash _).mpr (leadingTag_of_ne hd.1 hd.2)
  by_cases hbracket : c = '['
  · rw [hbracket]
    exact (leadingTag_bracket _).mpr (cutTag_eq_none_iff.mpr fun htrue => by rw [hstart] at htrue; cases htrue)
  · exact leadingTag_of_ne hbackslash hbracket

/-- **An odd number of backslashes makes a tag ordinary text.** -/
theorem Renders.odd_tag (hinner : IsInner inner) (hn : n % 2 = 1) (h : Renders names after) :
    Renders names (tagText n inner ++ after) := fun opened hopened position pending => by
  rw [tokens_of_leadingTag (leadingTag_tagText hinner n), piecesFrom]
  refine exists_renderPieces_textBefore (exists_renderPieces_textBefore ?_ _) _
  obtain ⟨text, htext⟩ := h opened hopened (position + n + inner.length + 2) []
  rw [if_neg (by omega)]
  exact ⟨_, by rw [renderPieces, htext]; rfl⟩

/-- **A tag with an even number of backslashes turns the open tags.** -/
theorem Renders.even_tag {names' : List String} (hinner : IsInner inner) (hn : n % 2 = 0)
    (hturn : ∀ opened : List Opened, names.Sublist (opened.map (·.name)) → ∀ position, ∃ opened' : List Opened,
      turn opened position inner = .ok opened' ∧ names'.Sublist (opened'.map (·.name)))
    (h : Renders names' after) : Renders names (tagText n inner ++ after) := fun opened hopened position pending => by
  rw [tokens_of_leadingTag (leadingTag_tagText hinner n), piecesFrom]
  refine exists_renderPieces_textBefore (exists_renderPieces_textBefore ?_ _) _
  obtain ⟨opened', hturned, hopened'⟩ := hturn opened hopened (position + n)
  rw [if_pos hn]
  simp only [renderPieces, hturned]
  exact h opened' hopened' _ _

/-! ## 3. Escaped text -/

/-- The characters of an escaped text, but for the backslash that may be added at its end. -/
def escapedChars (cs : List Char) : List Char :=
  (tokens cs).flatMap Token.escaped

/-- Whether a text can stand behind an escaped one: it closes no bracket, and backslashes in front of it do no harm. -/
structure Follows (names : List String) (after : List Char) : Prop where
  closes : closes after = false
  renders : ∀ k, Renders names (List.replicate k '\\' ++ after)

theorem closes_cons (hc : continuesTag c = true) : closes (c :: cs) = closes cs := by
  rw [closes, List.dropWhile_cons_of_pos hc]
  rfl

theorem closes_replicate (k : Nat) (cs : List Char) : closes (List.replicate k '\\' ++ cs) = closes cs := by
  induction k with
  | zero => rfl
  | succ k ih => rw [List.replicate_succ, List.cons_append, closes_cons rfl, ih]

theorem escapedChars_of_leadingTag (h : leadingTag cs = some (.tag n inner, after)) :
    escapedChars cs = tagText (2 * n + 1) inner ++ escapedChars after := by
  rw [escapedChars, tokens_of_leadingTag h]
  rfl

theorem escapedChars_cons (h : leadingTag (c :: cs) = none) : escapedChars (c :: cs) = c :: escapedChars cs := by
  rw [escapedChars, tokens_cons h]
  rfl

/-- What leads a text is a tag. -/
theorem exists_tag_of_leadingTag {token : Token} (h : leadingTag cs = some (token, after)) :
    ∃ n inner, token = .tag n inner ∧ IsInner inner := by
  unfold leadingTag at h
  split at h
  · obtain ⟨⟨inner, tail⟩, hcut, heq⟩ := Option.map_eq_some_iff.mp h
    cases heq
    exact ⟨_, inner, rfl, isInner_of_cutTag hcut⟩
  · cases h

/-- Escaping closes no bracket. -/
theorem closes_escapedChars (hcs : closes cs = false) (hafter : closes after = false) :
    closes (escapedChars cs ++ after) = false := by
  fun_induction tokens cs with
  | case1 cs token rest h ih =>
      obtain ⟨n, inner, rfl, _⟩ := exists_tag_of_leadingTag h
      rw [escapedChars_of_leadingTag h, tagText, List.append_assoc, List.append_assoc, closes_replicate]
      rfl
  | case2 => rw [escapedChars, tokens]; exact hafter
  | case3 c rest h ih =>
      rw [escapedChars_cons h, List.cons_append]
      by_cases hc : continuesTag c = true
      · rw [closes_cons hc] at hcs ⊢
        exact ih hcs
      · rw [closes, List.dropWhile_cons_of_neg hc] at hcs ⊢
        exact hcs

/-- A bracket that opens no tag opens none when the text behind it is escaped. -/
theorem cutTag_escapedChars (hcs : cutTag cs = none) (hafter : closes after = false) :
    cutTag (escapedChars cs ++ after) = none := by
  cases cs with
  | nil =>
      rw [escapedChars, tokens]
      exact cutTag_eq_none_of_closes hafter
  | cons c cs =>
      cases h : leadingTag (c :: cs) with
      | none =>
          rw [escapedChars_cons h, List.cons_append, cutTag_eq_none_iff]
          exact fun hstart => closes_escapedChars (cutTag_eq_none_iff.mp hcs hstart) hafter
      | some cut =>
          obtain ⟨token, rest⟩ := cut
          obtain ⟨n, inner, rfl, _⟩ := exists_tag_of_leadingTag h
          -- an escaped tag starts with a backslash, which starts no tag
          rw [escapedChars_of_leadingTag h, tagText, List.replicate_succ]
          exact cutTag_eq_none_iff.mpr fun hstart => by cases hstart

/-- **Escaping makes no new tag**: where no tag starts, none starts in front of the escaped text, unless all that is
left are backslashes. -/
theorem leadingTag_escapedChars (hcs : leadingTag cs = none) (hafter : closes after = false) :
    leadingTag (escapedChars cs ++ after) = none ∨ ∃ k, escapedChars cs = List.replicate k '\\' := by
  induction cs with
  | nil => exact .inr ⟨0, by rw [escapedChars, tokens]; rfl⟩
  | cons c cs ih =>
      rw [escapedChars_cons hcs, List.cons_append]
      by_cases hbackslash : c = '\\'
      · subst hbackslash
        rw [leadingTag_backslash] at hcs ⊢
        rcases ih hcs with hnone | ⟨k, hk⟩
        · exact .inl hnone
        · exact .inr ⟨k + 1, by rw [hk, List.replicate_succ]⟩
      · by_cases hbracket : c = '['
        · subst hbracket
          rw [leadingTag_bracket] at hcs ⊢
          exact .inl (cutTag_escapedChars hcs hafter)
        · exact .inl (leadingTag_of_ne hbackslash hbracket)

theorem renders_escapedChars (cs : List Char) (h : Follows names after) : Renders names (escapedChars cs ++ after) := by
  fun_induction tokens cs with
  | case1 cs token rest htag ih =>
      obtain ⟨n, inner, rfl, hinner⟩ := exists_tag_of_leadingTag htag
      rw [escapedChars_of_leadingTag htag, List.append_assoc]
      exact ih.odd_tag hinner (by omega)
  | case2 => rw [escapedChars, tokens]; exact h.renders 0
  | case3 c rest hnone ih =>
      rcases leadingTag_escapedChars hnone h.closes with hleads | ⟨k, hk⟩
      · rw [escapedChars_cons hnone, List.cons_append] at hleads ⊢
        exact ih.cons hleads
      · rw [hk]
        exact h.renders k

theorem closeEnd_eq (cs : List Char) : closeEnd cs = cs ∨ closeEnd cs = cs ++ ['\\'] := by
  unfold closeEnd
  split
  · rename_i h
    rw [← List.reverse_reverse cs, h]
    exact .inr rfl
  · split
    · exact .inl rfl
    · exact .inr rfl
  · exact .inl rfl

theorem Follows.backslash (h : Follows names after) : Follows names ('\\' :: after) where
  closes := h.closes
  renders := fun k => by
    have hrenders := h.renders (k + 1)
    rwa [List.replicate_succ', List.append_assoc] at hrenders

theorem escapedChars_plain (h : Consists IsPlain cs) : escapedChars cs = cs := by
  induction cs with
  | nil => simp [escapedChars, tokens, leadingTag]
  | cons c cs ih =>
      have hc := h c (by simp)
      rw [escapedChars_cons (leadingTag_of_ne hc.1 hc.2), ih (h.of_subset (by simp))]

theorem closeEnd_of_not_mem (h : '\\' ∉ cs) : closeEnd cs = cs := by
  have hlast (rest : List Char) : cs.reverse ≠ '\\' :: rest := fun hrest =>
    h (List.mem_reverse.mp (hrest ▸ List.mem_cons_self))
  unfold closeEnd
  split
  · exact absurd ‹_› (hlast _)
  · exact absurd ‹_› (hlast _)
  · rfl

/-- Ordinary text has nothing to be escaped. -/
theorem escape_of_plain {s : String} (h : Consists IsPlain s.toList) : escape s = s := by
  have hend : closeEnd (escapedChars s.toList) = s.toList := by
    rw [escapedChars_plain h, closeEnd_of_not_mem fun hmem => (h _ hmem).1 rfl]
  exact (congrArg String.ofList hend).trans String.ofList_toList

/-- **An escaped text is rendered in front of any text that can follow it.** -/
theorem renders_escape (s : String) (h : Follows names after) : Renders names ((escape s).toList ++ after) := by
  rw [escape, String.toList_ofList]
  rcases closeEnd_eq ((tokens s.toList).flatMap Token.escaped) with heq | heq
  · rw [heq]
    exact renders_escapedChars _ h
  · rw [heq, List.append_assoc]
    exact renders_escapedChars _ h.backslash

/-! ## 4. What can follow -/

theorem renders_replicate (k : Nat) (hcs : leadingTag cs = none) (h : Renders names cs) :
    Renders names (List.replicate k '\\' ++ cs) := by
  have hnone (k : Nat) : leadingTag (List.replicate k '\\' ++ cs) = none := by
    induction k with
    | zero => exact hcs
    | succ k ih => exact (leadingTag_backslash _).mpr ih
  induction k with
  | zero => exact h
  | succ k ih => exact ih.cons (hnone (k + 1))

theorem follows_nil : Follows names [] :=
  ⟨rfl, fun k => renders_replicate k rfl renders_nil⟩

theorem follows_plain (hc : IsPlain c) (hcloses : closes (c :: cs) = false) (h : Renders names (c :: cs)) :
    Follows names (c :: cs) :=
  ⟨hcloses, fun k => renders_replicate k (leadingTag_of_ne hc.1 hc.2) h⟩

/-! ## 5. Tags of a style -/

/-- A tag that sets a style. -/
def openTag (style : String) : List Char :=
  tagText 0 style.toList

/-- A tag that ends a style. -/
def closeTag (style : String) : List Char :=
  tagText 0 ('/' :: style.toList)

/-- Whether a style can be set by a tag, under a normal form that has no handler. -/
structure IsStyle (style name : String) : Prop where
  isInner : IsInner style.toList
  tagName : Markup.tagName style.toList = style.toList
  slash : style.toList.head? ≠ some '/'
  trim : Text.trim style = style
  normal : Style.normalName style = .ok name
  handler : name.toList.head? ≠ some '@'

variable {style : String}

theorem IsStyle.ne_empty (hstyle : IsStyle style name) : style ≠ "" := by
  rintro rfl
  exact hstyle.isInner

theorem turn_opening (hstyle : IsStyle style name) (opened : List Opened) (position : Nat) :
    turn opened position style.toList = .ok (⟨name, tagParameters style.toList⟩ :: opened) := by
  unfold turn
  rw [hstyle.tagName]
  split
  · rename_i rest heq
    exact absurd (by rw [heq]; rfl) hstyle.slash
  · rw [String.ofList_toList, hstyle.normal]
    rfl

/-- A tag of a style sets it. -/
theorem renders_opening (hstyle : IsStyle style name) (h : Renders (name :: names) after) :
    Renders names (openTag style ++ after) :=
  h.even_tag hstyle.isInner rfl fun _ hopened position =>
    ⟨_, turn_opening hstyle _ position, hopened.cons_cons name⟩

/-- **A name that is open can be closed**, and the other names stay open. -/
theorem exists_closeName {opened : List Opened} (h : (name :: names).Sublist (opened.map (·.name))) :
    ∃ closed left, closeName name opened = some (closed, left) ∧ closed.name = name ∧
      names.Sublist (left.map (·.name)) := by
  induction opened with
  | nil => cases h
  | cons tag rest ih =>
      unfold closeName
      by_cases hname : tag.name = name
      · rw [if_pos hname]
        exact ⟨tag, rest, rfl, hname, (List.sublist_cons_iff.mp h).elim
          (fun hrest => (List.sublist_cons_self name names).trans hrest)
          (fun ⟨_, heq, hrest⟩ => (List.cons.inj heq).2 ▸ hrest)⟩
      · rw [if_neg hname]
        have hrest : (name :: names).Sublist (rest.map (·.name)) := by
          rcases List.sublist_cons_iff.mp h with hrest | ⟨_, heq, _⟩
          · exact hrest
          · exact absurd (List.cons.inj heq).1.symm hname
        obtain ⟨closed, left, hclose, hclosed, hleft⟩ := ih hrest
        exact ⟨closed, tag :: left, by rw [hclose]; rfl, hclosed, hleft.cons _⟩

theorem turn_closing (hstyle : IsStyle style name) {opened left : List Opened} {closed : Opened}
    (hclose : closeName name opened = some (closed, left)) (hclosed : closed.name = name) (position : Nat) :
    turn opened position ('/' :: style.toList) = .ok left := by
  have htag : Markup.tagName ('/' :: style.toList) = '/' :: style.toList := by
    rw [Markup.tagName, List.takeWhile_cons_of_pos (by simp)]
    exact congrArg _ hstyle.tagName
  have hhandler : closed.close = .ok () := close_of_plain (by rw [hclosed]; exact hstyle.handler)
  unfold turn
  rw [htag]
  simp only [String.ofList_toList, hstyle.trim, if_neg hstyle.ne_empty, hstyle.normal, bind, Except.bind, hclose,
    hhandler]
  rfl

theorem isInner_closing (hstyle : IsStyle style name) : IsInner ('/' :: style.toList) := by
  refine ⟨rfl, ?_⟩
  have hinner := hstyle.isInner
  cases hcs : style.toList with
  | nil => exact fun c hc => by cases hc
  | cons c cs =>
      rw [hcs] at hinner
      exact hinner.2.cons (continuesTag_of_startsTag hinner.1)

/-- A tag that ends a style can follow an escaped text: behind an odd number of backslashes it is ordinary text. -/
theorem follows_closing (hstyle : IsStyle style name) (h : Renders names after) :
    Follows (name :: names) (closeTag style ++ after) := by
  refine ⟨rfl, fun k => ?_⟩
  have htext : List.replicate k '\\' ++ (closeTag style ++ after) = tagText k ('/' :: style.toList) ++ after := by
    simp [closeTag, tagText]
  rw [htext]
  rcases Nat.mod_two_eq_zero_or_one k with heven | hodd
  · refine h.even_tag (isInner_closing hstyle) heven fun opened hopened position => ?_
    obtain ⟨closed, left, hclose, hclosed, hleft⟩ := exists_closeName hopened
    exact ⟨left, turn_closing hstyle hclose hclosed position, hleft⟩
  · exact h.mono.odd_tag (isInner_closing hstyle) hodd

/-! ## 6. What is seen -/

/-- What is seen of a text behind a tag. -/
def SeenAs (opened : List Opened) (cs seen : List Char) : Prop :=
  ∀ position, renderPieces opened (piecesFrom position [] (tokens cs)) = .ok seen

section Seen

variable {opened : List Opened} {position : Nat} {pending label seen : List Char}

variable (position pending) in
theorem piecesFrom_plain (h : Consists IsPlain cs) : piecesFrom position pending (tokens (cs ++ after)) =
    piecesFrom (position + cs.length) (cs.reverse ++ pending) (tokens after) := by
  induction cs generalizing position pending with
  | nil => rfl
  | cons c cs ih =>
      have hc := h c (by simp)
      rw [List.cons_append, tokens_cons (leadingTag_of_ne hc.1 hc.2), piecesFrom, ih _ _ (h.of_subset (by simp))]
      simp [Nat.add_comm, Nat.add_left_comm]

theorem seenAs_plain (h : Consists IsPlain cs) : SeenAs opened cs (shownPiece cs) := fun position => by
  have hpieces : piecesFrom position [] (tokens (cs ++ [])) = textBefore cs [] := by
    rw [piecesFrom_plain position [] h, tokens]
    simp [leadingTag, piecesFrom]
  have hnone : renderPieces opened [] = .ok [] := rfl
  have hseen := renderPieces_textBefore hnone cs
  rw [List.append_nil] at hpieces hseen
  rw [hpieces, hseen]

theorem SeenAs.tag {turned : List Opened} (hcs : Consists IsPlain cs) (hinner : IsInner inner)
    (hturn : ∀ position, turn opened position inner = .ok turned) (h : SeenAs turned after seen) :
    SeenAs opened (cs ++ (tagText 0 inner ++ after)) (shownPiece cs ++ seen) := fun position => by
  rw [piecesFrom_plain position [] hcs, tokens_of_leadingTag (leadingTag_tagText hinner 0), piecesFrom, List.append_nil,
    List.reverse_reverse]
  refine renderPieces_textBefore ?_ cs
  show renderPieces opened (.tag (position + cs.length) inner :: _) = _
  rw [renderPieces, hturn]
  exact h _

/-- **A styled label between plain texts is seen as it is.** -/
theorem SeenAs.styled (hstyle : IsStyle style name) (hcs : Consists IsPlain cs) (hlabel : Consists IsPlain label)
    (h : SeenAs opened after seen) : SeenAs opened (cs ++ (openTag style ++ (label ++ (closeTag style ++ after))))
      (shownPiece cs ++ (shownPiece label ++ seen)) := by
  refine SeenAs.tag hcs hstyle.isInner (turn_opening hstyle opened) ?_
  have hclose : closeName name (⟨name, tagParameters style.toList⟩ :: opened) =
      some (⟨name, tagParameters style.toList⟩, opened) := by
    rw [closeName, if_pos rfl]
  exact SeenAs.tag hlabel (isInner_closing hstyle) (turn_closing hstyle hclose rfl) h

/-- Whether a character is shown, and takes no part in a tag or in a call of an emoji. -/
def IsShown (c : Char) : Prop :=
  isControl c = false ∧ c ≠ '[' ∧ c ≠ ':'

instance : DecidablePred IsShown := fun c => inferInstanceAs (Decidable (isControl c = false ∧ c ≠ '[' ∧ c ≠ ':'))

theorem dropControls_eq (h : ∀ c ∈ cs, isControl c = false) : dropControls cs = cs :=
  List.filter_eq_self.mpr fun c hc => by simp [h c hc]

theorem shownPiece_eq (h : Consists IsShown cs) : shownPiece cs = cs := by
  have hbracket : '[' ∉ cs := fun hmem => (h _ hmem).2.1 rfl
  have hcolon : ':' ∉ cs := fun hmem => (h _ hmem).2.2 rfl
  rw [shownPiece, freeBrackets_of_not_mem hbracket, Text.expandEmoji_of_not_mem hcolon,
    dropControls_eq fun c hc => (h c hc).1]

/-- A colon at the end calls no emoji. -/
theorem expandEmoji_colon (h : ':' ∉ cs) : Text.expandEmoji (cs ++ [':']) = cs ++ [':'] := by
  induction cs with
  | nil => simp [Text.expandEmoji, Text.cutCall]
  | cons c cs ih =>
      simp only [List.mem_cons, not_or] at h
      rw [List.cons_append, Text.expandEmoji, if_neg (Ne.symm h.1), ih h.2]

theorem shownPiece_colon (h : Consists IsShown cs) : shownPiece (cs ++ [':']) = cs ++ [':'] := by
  have hbracket : '[' ∉ cs ++ [':'] := by
    simpa using fun hmem => (h _ hmem).2.1 rfl
  have hcolon : ':' ∉ cs := fun hmem => (h _ hmem).2.2 rfl
  rw [shownPiece, freeBrackets_of_not_mem hbracket, expandEmoji_colon hcolon, dropControls_eq]
  intro c hc
  rcases List.mem_append.mp hc with hc | hc
  · exact (h c hc).1
  · rw [List.mem_singleton.mp hc]
    rfl

end Seen

end TapeMachine.Markup
