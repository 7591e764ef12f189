/-!
# Pieces of a text

A text cut at every occurrence of a separating character.

* `Text.pieces` : the pieces, the empty ones too, at least one;
* `Text.pieces_of_not_mem`, `Text.pieces_append` : **a text without the separator is one piece, and in front
  of a separator it is exactly the first piece.**
-/

namespace TapeMachine.Text

/-- Puts one more character in front of the first piece, or starts a new one. -/
def prependPiece (separator c : Char) : List Char × List (List Char) → List Char × List (List Char)
  | (first, rest) => if c = separator then ([], first :: rest) else (c :: first, rest)

/-- The pieces between separators, the empty ones too. -/
def pieces (separator : Char) (cs : List Char) : List (List Char) :=
  let (first, rest) := cs.foldr (prependPiece separator) ([], [])
  first :: rest

/-! ## Laws -/

section Laws

variable {separator : Char} {piece cs : List Char}

theorem foldr_prependPiece (h : separator ∉ piece) (p : List Char × List (List Char)) :
    piece.foldr (prependPiece separator) p = (piece ++ p.1, p.2) := by
  induction piece with
  | nil => rfl
  | cons c piece ih =>
      simp only [List.mem_cons, not_or] at h
      simp [ih h.2, prependPiece, Ne.symm h.1]

/-- **A text without the separator is one piece.** -/
theorem pieces_of_not_mem (h : separator ∉ piece) : pieces separator piece = [piece] := by
  simp [pieces, foldr_prependPiece h]

/-- **What stands in front of the first separator is the first piece.** -/
theorem pieces_append (h : separator ∉ piece) :
    pieces separator (piece ++ separator :: cs) = piece :: pieces separator cs := by
  simp [pieces, foldr_prependPiece h, prependPiece]

end Laws

end TapeMachine.Text
