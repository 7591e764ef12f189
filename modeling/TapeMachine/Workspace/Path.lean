import TapeMachine.Text.Pieces
/-!
# Paths

A path as text may hold empty and dot components that change nothing. A `Path` is its normal form: the
slashes it starts with, and the components that count. Two dots stay, because they may lead elsewhere.

* `Path.ofText`, `Path.text` : the normal form of a text, and the text of a normal form;
* `Path.name`, `Path.stem` : the last component, and the same without its last ending;
* `joinText`, `splitText` : joining and splitting texts without changing them.
-/

namespace TapeMachine

/-- The components of a path text: what stands between slashes. -/
def pathComponents (path : String) : List String :=
  ((Text.pieces '/' path.toList).filter (· ≠ [])).map String.ofList

/-- A path in normal form. -/
structure Path where
  /-- Nothing for a relative path, else one slash, or the two that some systems treat apart. -/
  root : String
  parts : List String
  deriving DecidableEq, Repr

namespace Path

/-- The slashes that count at the start of a path: two are kept, more are one. -/
def rootOf (path : String) : String :=
  match (path.toList.takeWhile (· = '/')).length with
  | 0 => ""
  | 2 => "//"
  | _ => "/"

/-- The normal form of a path text. -/
def ofText (path : String) : Path :=
  { root := rootOf path, parts := (pathComponents path).filter (· ≠ ".") }

/-- The text of a path; the empty path is a single dot. -/
def text (p : Path) : String :=
  if p.root = "" && p.parts.isEmpty then "." else p.root ++ "/".intercalate p.parts

/-- The last component. -/
def name (p : Path) : String :=
  p.parts.getLast?.getD ""

/-- A name without its last ending. A dot at the start or at the end of the name starts no ending. -/
def stemOf (name : List Char) : List Char :=
  let ending := (name.reverse.takeWhile (· ≠ '.')).length
  let stem := name.take (name.length - ending - 1)
  if ending = 0 || stem.isEmpty then name else stem

/-- The last component without its last ending. -/
def stem (p : Path) : String :=
  String.ofList (stemOf p.name.toList)

/-- The path of `inner` as seen from `p`. -/
def join (p : Path) (inner : String) : Path :=
  let q := ofText inner
  if q.root = "" then { p with parts := p.parts ++ q.parts } else q

end Path

/-- Joins a directory text and a name text with a slash where one is needed; an absolute name stands alone. -/
def joinText (directory name : String) : String :=
  if name.toList.head? = some '/' then name
  else if directory = "" || directory.toList.getLast? = some '/' then directory ++ name
  else directory ++ "/" ++ name

/-- A path text without the slashes at its end, unless it holds nothing else. -/
def dropEndSlashes (cs : List Char) : List Char :=
  if cs.all (· = '/') then cs else (cs.reverse.dropWhile (· = '/')).reverse

/-- What stands in front of the last component, without the slashes between them, and the last component. -/
def splitText (cs : List Char) : List Char × List Char :=
  let tail := (cs.reverse.takeWhile (· ≠ '/')).reverse
  (dropEndSlashes (cs.take (cs.length - tail.length)), tail)

/-- The text in front of the last component of a path, and that component, whether or not a slash follows. -/
def lastComponent (cs : List Char) : List Char × List Char :=
  let (head, tail) := splitText cs
  if tail = [] then splitText head else (head, tail)

/-! ## Laws -/

section Laws

variable {cs : List Char}

theorem length_dropEndSlashes_le : (dropEndSlashes cs).length ≤ cs.length := by
  unfold dropEndSlashes
  split
  · exact Nat.le_refl _
  · simpa using (List.dropWhile_suffix (l := cs.reverse) (· = '/')).length_le

theorem length_splitText_add_le (cs : List Char) :
    (splitText cs).1.length + (splitText cs).2.length ≤ cs.length := by
  have htail : (splitText cs).2.length ≤ cs.length := by
    simpa [splitText] using (List.takeWhile_prefix (l := cs.reverse) (· ≠ '/')).length_le
  have hhead : (splitText cs).1.length ≤ cs.length - (splitText cs).2.length := by
    refine Nat.le_trans length_dropEndSlashes_le ?_
    simp [splitText]
  omega

/-- What stands in front of a last component is shorter than the whole. -/
theorem length_lastComponent_lt (h : ¬ (lastComponent cs).2 = []) :
    (lastComponent cs).1.length < cs.length := by
  have hsum := length_splitText_add_le cs
  have hsum' := length_splitText_add_le (splitText cs).1
  have hpos := List.length_pos_iff.2 h
  simp only [lastComponent] at hpos ⊢
  split <;> simp_all <;> omega

end Laws

end TapeMachine
