import TapeMachine.Markup.Handler
import TapeMachine.Markup.Style
import TapeMachine.Markup.Token
import TapeMachine.Text.Emoji
/-!
# Rendering markup

What is seen of a text in markup: the text without its tags. Tags must be closed in a way that fits: a tag
that closes a style needs one that has opened it, and a bare closing tag needs any that is still open. What
is left open at the end does no harm. When a tag with a handler is closed, its parameters are checked.

* `Markup.pieces` : the ordinary text of a markup in pieces, and its tags with their positions;
* `Markup.render` : what is seen, or the closing tag that fits no other one.
-/

namespace TapeMachine.Markup

/-! ## 1. Ordinary text -/

/-- Whether a character rings the bell or moves the carriage other than by a new line: it is never shown. -/
def isControl (c : Char) : Bool :=
  c = '\x07' || c = '\x08' || c = '\x0b' || c = '\x0c' || c = '\r'

/-- A text without the characters that are never shown. -/
def dropControls (cs : List Char) : List Char :=
  cs.filter (!isControl ·)

/-- Plain text as it is seen: its emoji are expanded, and some characters are never shown. -/
def shownText (s : String) : String :=
  String.ofList (dropControls (Text.expandEmoji s.toList))

/-- A backslash in front of a bracket that opens no tag is left out. -/
def freeBrackets : List Char → List Char
  | [] => []
  | '\\' :: '[' :: cs => '[' :: freeBrackets cs
  | c :: cs => c :: freeBrackets cs

/-- Ordinary text between tags as it is seen. -/
def shownPiece (cs : List Char) : List Char :=
  dropControls (Text.expandEmoji (freeBrackets cs))

/-! ## 2. Pieces -/

/-- A piece of ordinary text, or a tag and the position of its opening bracket. -/
inductive Piece where
  | text (cs : List Char)
  | tag (position : Nat) (inner : List Char)
  deriving DecidableEq, Repr

/-- Characters as a piece in front of others, unless there are none. -/
def textBefore (cs : List Char) (pieces : List Piece) : List Piece :=
  if cs.isEmpty then pieces else .text cs :: pieces

/-- The pieces that tokens make from a position on, where the characters of `pending` are read already, the
latest first. -/
def piecesFrom (position : Nat) (pending : List Char) : List Token → List Piece
  | [] => textBefore pending.reverse []
  | .char c :: rest => piecesFrom (position + 1) (c :: pending) rest
  | .tag backslashes inner :: rest =>
      let piece : Piece :=
        if backslashes % 2 = 0 then .tag (position + backslashes) inner else .text (tagText 0 inner)
      textBefore pending.reverse (textBefore (List.replicate (backslashes / 2) '\\')
        (piece :: piecesFrom (position + backslashes + inner.length + 2) [] rest))

/-- The pieces of a text in markup. -/
def pieces (cs : List Char) : List Piece :=
  piecesFrom 0 [] (tokens cs)

/-! ## 3. Tags -/

/-- An open tag: the normal form of its name, and its parameters. -/
structure Opened where
  name : String
  parameters : List Char
  deriving DecidableEq, Repr

/-- The name in a tag: what stands in front of its first equals sign. -/
def tagName (inner : List Char) : List Char :=
  inner.takeWhile (· ≠ '=')

/-- The parameters in a tag: what stands behind its first equals sign. -/
def tagParameters (inner : List Char) : List Char :=
  (inner.dropWhile (· ≠ '=')).drop 1

/-- Checks a tag that is closed. -/
def Opened.close (tag : Opened) : Except MarkupError Unit :=
  if tag.name.toList.head? = some '@' then Handler.check tag.parameters else .ok ()

/-- The tag that is closed by a name, the latest one of that name, and the tags that stay open. -/
def closeName (name : String) : List Opened → Option (Opened × List Opened)
  | [] => none
  | tag :: rest =>
      if tag.name = name then some (tag, rest)
      else (closeName name rest).map fun (closed, left) => (closed, tag :: left)

/-- The open tags behind a tag, the latest first. -/
def turn (opened : List Opened) (position : Nat) (inner : List Char) : Except MarkupError (List Opened) := do
  match tagName inner with
  | '/' :: name =>
      let name := Text.trim (String.ofList name)
      if name = "" then
        match opened with
        | [] => throw (.closesNothing position)
        | tag :: rest =>
            tag.close
            return rest
      else match closeName (← Style.normalName name) opened with
        | some (tag, rest) =>
            tag.close
            return rest
        | none => throw (.closesNoStyle (String.ofList (tagText 0 inner)) position)
  | name => return ⟨← Style.normalName (String.ofList name), tagParameters inner⟩ :: opened

/-! ## 4. Rendering -/

/-- What is seen of pieces where some tags are open. -/
def renderPieces (opened : List Opened) : List Piece → Except MarkupError (List Char)
  | [] => .ok []
  | .text cs :: rest => do return shownPiece cs ++ (← renderPieces opened rest)
  | .tag position inner :: rest => do renderPieces (← turn opened position inner) rest

/-- What is seen of a text in markup. -/
def render (s : String) : Except MarkupError String :=
  (renderPieces [] (pieces s.toList)).map String.ofList

/-! ## 5. Laws -/

/-- A tag without a handler is closed whatever its parameters are. -/
theorem close_of_plain {tag : Opened} (h : tag.name.toList.head? ≠ some '@') : tag.close = .ok () := by
  rw [Opened.close, if_neg h]

theorem freeBrackets_of_not_mem {cs : List Char} (h : '[' ∉ cs) : freeBrackets cs = cs := by
  fun_induction freeBrackets cs with
  | case1 => rfl
  | case2 cs ih => simp at h
  | case3 c cs _ ih => simp_all

end TapeMachine.Markup
