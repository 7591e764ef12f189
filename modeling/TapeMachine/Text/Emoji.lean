import TapeMachine.Text.Blank
import TapeMachine.Text.Case
import TapeMachine.Text.EmojiNames
/-!
# Emoji in text

An emoji is called by its name between two colons, in letters of either case. Behind the name it may be said
how it is to be drawn, as a picture or as a letter. A name that is not known stays as it is.

* `Text.emoji?` : the emoji of a name;
* `Text.expandEmoji` : a text with its emoji in place of their names;
* `Text.expandEmoji_of_not_mem` : **a text without colons stays as it is.**
-/

namespace TapeMachine.Text

/-- Words taken two at a time. -/
def paired {α : Type} : List α → List (α × α)
  | first :: second :: rest => (first, second) :: paired rest
  | _ => []

/-- The names of emoji, each with its emoji. -/
def emojiTable : List (List Char × List Char) :=
  paired (wordsOf emojiNames.toList)

/-- The emoji of a name in small letters. -/
def emoji? (name : List Char) : Option (List Char) :=
  emojiTable.lookup name

/-- The endings of a call that say how the emoji is to be drawn, each with the character that says so. -/
def emojiStyles : List (List Char × Char) :=
  [("-emoji".toList, '\ufe0f'), ("-text".toList, '\ufe0e')]

/-- What is between the colons of a call: the name, and the character for the way to draw it. -/
def cutEmojiStyle (call : List Char) : List Char × List Char :=
  match emojiStyles.find? (·.1.isSuffixOf call) with
  | some (ending, c) => (call.take (call.length - ending.length), [c])
  | none => (call, [])

/-- The emoji that is called between two colons. -/
def calledEmoji? (call : List Char) : Option (List Char) :=
  let (name, style) := cutEmojiStyle call
  (emoji? (lower name)).map (· ++ style)

/-- Whether a character can stand in a call. -/
def inCall (c : Char) : Bool :=
  c ≠ ':' && !isBlank c

/-- The call at the start of a text behind its first colon, and what follows its second one. -/
def cutCall (cs : List Char) : Option (List Char × List Char) :=
  match _h : cs.dropWhile inCall with
  | ':' :: after => some (cs.takeWhile inCall, after)
  | _ => none

theorem length_lt_of_cutCall {cs call after : List Char} (h : cutCall cs = some (call, after)) :
    after.length < cs.length := by
  unfold cutCall at h
  split at h
  · rename_i rest hdrop
    have hle := (List.dropWhile_suffix (l := cs) inCall).length_le
    rw [hdrop, List.length_cons] at hle
    simp only [Option.some.injEq, Prod.mk.injEq] at h
    rw [← h.2]
    omega
  · simp at h

/-- A text with its emoji in place of their names. -/
def expandEmoji : List Char → List Char
  | [] => []
  | c :: cs =>
      if c = ':' then
        match _h : cutCall cs with
        | some (call, after) => (calledEmoji? call).getD (':' :: (call ++ [':'])) ++ expandEmoji after
        | none => c :: expandEmoji cs
      else c :: expandEmoji cs
termination_by cs => cs.length
decreasing_by
  · have := length_lt_of_cutCall _h
    simp only [List.length_cons]
    omega
  all_goals simp

/-- **A text without colons stays as it is.** -/
theorem expandEmoji_of_not_mem {cs : List Char} (h : ':' ∉ cs) : expandEmoji cs = cs := by
  induction cs with
  | nil => rw [expandEmoji]
  | cons c cs ih =>
      simp only [List.mem_cons, not_or] at h
      rw [expandEmoji, if_neg (Ne.symm h.1), ih h.2]

end TapeMachine.Text
