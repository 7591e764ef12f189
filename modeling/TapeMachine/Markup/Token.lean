/-!
# Markup

A text in markup holds tags that set its style: words in square brackets that start with a small letter, a
hash, a slash or an at sign and hold no opening bracket. Backslashes in front of a tag count in pairs: each
pair stands for one of them, and one that is left over makes the tag ordinary text.

* `Markup.tokens` : the characters and the tags of a text;
* `Markup.escape` : a text whose tags are ordinary text.
-/

namespace TapeMachine.Markup

/-! ## 1. Tokens -/

/-- A character, or the inside of a tag with the number of backslashes in front of it. -/
inductive Token where
  | char (c : Char)
  | tag (backslashes : Nat) (inner : List Char)
  deriving DecidableEq, Repr

/-- A tag with backslashes in front of it. -/
def tagText (backslashes : Nat) (inner : List Char) : List Char :=
  List.replicate backslashes '\\' ++ '[' :: (inner ++ [']'])

/-- How a token is spelled. -/
def Token.text : Token → List Char
  | .char c => [c]
  | .tag backslashes inner => tagText backslashes inner

/-- Whether a tag can start with a character. -/
def startsTag (c : Char) : Bool :=
  ('a' ≤ c && c ≤ 'z') || c = '#' || c = '/' || c = '@'

/-- Whether a character can stand further on in a tag. -/
def continuesTag (c : Char) : Bool :=
  c ≠ '[' && c ≠ ']'

/-- The inside of a tag behind its opening bracket, and what follows its closing one. -/
def cutTag : List Char → Option (List Char × List Char)
  | [] => none
  | c :: cs =>
      if startsTag c then
        match cs.dropWhile continuesTag with
        | ']' :: after => some (c :: cs.takeWhile continuesTag, after)
        | _ => none
      else none

/-- The tag that a text starts with, with its backslashes, and what follows it. -/
def leadingTag (cs : List Char) : Option (Token × List Char) :=
  match cs.dropWhile (· = '\\') with
  | '[' :: rest =>
      (cutTag rest).map fun cut => (.tag (cs.takeWhile (· = '\\')).length cut.1, cut.2)
  | _ => none

theorem eq_of_cutTag {cs inner after : List Char} (h : cutTag cs = some (inner, after)) :
    cs = inner ++ ']' :: after := by
  unfold cutTag at h
  split at h
  · simp at h
  · rename_i c cs
    split at h
    · split at h
      · rename_i rest hdrop
        have hsplit := List.takeWhile_append_dropWhile (p := continuesTag) (l := cs)
        rw [hdrop] at hsplit
        simp only [Option.some.injEq, Prod.mk.injEq] at h
        rw [← h.1, ← h.2, List.cons_append, hsplit]
      · simp at h
    · simp at h

theorem eq_of_leadingTag {cs after : List Char} {token : Token} (h : leadingTag cs = some (token, after)) :
    cs = token.text ++ after := by
  unfold leadingTag at h
  split at h
  · rename_i rest hdrop
    simp only [Option.map_eq_some_iff, Prod.mk.injEq] at h
    obtain ⟨⟨inner, tail⟩, hcut, rfl, rfl⟩ := h
    have hsplit := List.takeWhile_append_dropWhile (p := fun c => decide (c = '\\')) (l := cs)
    have hall : cs.takeWhile (· = '\\') = List.replicate (cs.takeWhile (· = '\\')).length '\\' :=
      List.eq_replicate_iff.2 ⟨rfl, fun c hc => by
        simpa using List.all_eq_true.1 List.all_takeWhile c hc⟩
    rw [hdrop, eq_of_cutTag hcut] at hsplit
    simp only [Token.text, tagText, ← hall, List.append_assoc, List.cons_append, List.nil_append]
    simpa using hsplit.symm
  · simp at h

theorem length_lt_of_leadingTag {cs after : List Char} {token : Token}
    (h : leadingTag cs = some (token, after)) : after.length < cs.length := by
  have htoken : 0 < token.text.length := by
    cases token with
    | char c => simp [Token.text]
    | tag backslashes inner =>
        simp only [Token.text, tagText, List.length_append, List.length_cons]
        omega
  rw [eq_of_leadingTag h, List.length_append]
  omega

/-- The characters and the tags of a text. -/
def tokens (cs : List Char) : List Token :=
  match _h : leadingTag cs with
  | some (token, after) => token :: tokens after
  | none =>
      match cs with
      | [] => []
      | c :: rest => .char c :: tokens rest
termination_by cs.length
decreasing_by
  · exact length_lt_of_leadingTag _h
  · simp

/-! ## 2. Escaping -/

/-- A token spelled so that it is ordinary text: the backslashes twice, and one more. -/
def Token.escaped : Token → List Char
  | .char c => [c]
  | .tag backslashes inner => tagText (2 * backslashes + 1) inner

/-- One more backslash at the end of a text that ends with a single one. -/
def closeEnd (cs : List Char) : List Char :=
  match cs.reverse with
  | ['\\'] => ['\\', '\\']
  | '\\' :: c :: _ => if c = '\\' then cs else cs ++ ['\\']
  | _ => cs

/-- A text whose tags are ordinary text. -/
def escape (s : String) : String :=
  String.ofList (closeEnd ((tokens s.toList).flatMap Token.escaped))

end TapeMachine.Markup
