import TapeMachine.Proofs.Text.Characters
import TapeMachine.Workspace.FileTree
/-!
# Names at the end of a path

The place of a path ends with the last component of the path, unless this is one of the two that only lead elsewhere.
So paths with different names at their ends never name the same place.

* `FileTree.locate_last` : **the place of a path ends with its last component**;
* `pathComponents_joinText` : the last component of a joined path is the name that was joined;
* `exists_component_joinText` : names joined behind one and the same text give components that start alike;
* `FileTree.locate_end`, `Path.text_join_end` : the last character of a path is that of the name at its end.
-/

namespace TapeMachine

variable {path name : String} {c : Char} {cs : List Char}

/-! ## 1. Components -/

/-- A name behind a slash is a component. -/
theorem pathComponents_append {front : List Char} (hpath : path.toList = front ++ '/' :: name.toList)
    (hslash : '/' ∉ name.toList) (hne : name ≠ "") : ∃ outer, pathComponents path = outer ++ [name] := by
  refine ⟨((Text.pieces '/' front).filter (· ≠ [])).map String.ofList, ?_⟩
  rw [pathComponents, hpath, Text.pieces_append_piece hslash, List.filter_append, List.map_append]
  simp [hne]

/-- A name alone is the only component. -/
theorem pathComponents_name (hslash : '/' ∉ name.toList) (hne : name ≠ "") : pathComponents name = [name] := by
  rw [pathComponents, Text.pieces_of_not_mem hslash]
  simp [hne]

/-- **The last component of a joined path is the name that was joined.** -/
theorem pathComponents_joinText (directory : String) (hslash : '/' ∉ name.toList) (hne : name ≠ "") :
    ∃ outer, pathComponents (joinText directory name) = outer ++ [name] := by
  have hhead : name.toList.head? ≠ some '/' := fun h => hslash (List.mem_of_mem_head? h)
  rw [joinText, if_neg hhead]
  split
  · rename_i hfront
    by_cases hempty : directory = ""
    · rw [hempty, String.empty_append]
      exact ⟨[], pathComponents_name hslash hne⟩
    · simp only [hempty, decide_false, Bool.false_or, decide_eq_true_eq] at hfront
      obtain ⟨front, hfront⟩ := List.getLast?_eq_some_iff.mp hfront
      have hjoined : (directory ++ name).toList = front ++ '/' :: name.toList := by simp [hfront]
      exact pathComponents_append hjoined hslash hne
  · have hjoined : (directory ++ "/" ++ name).toList = directory.toList ++ '/' :: name.toList := by simp
    exact pathComponents_append hjoined hslash hne

/-- The text of a joined path ends with the text that was joined. -/
theorem exists_toList_joinText (directory inner : String) :
    ∃ front, (joinText directory inner).toList = front ++ inner.toList := by
  unfold joinText
  split
  · exact ⟨[], rfl⟩
  · split
    · exact ⟨_, String.toList_append⟩
    · exact ⟨_, String.toList_append⟩

/-- **The last component of a path that ends with a name** has this name at its end, behind a text which does not depend
on it. -/
theorem exists_component_joinText (directory lead : String) : ∃ tail : String, ∀ name : String, '/' ∉ name.toList →
    name ≠ "" → ∃ outer, pathComponents (joinText directory (lead ++ name)) = outer ++ [tail ++ name] := by
  by_cases hslash : '/' ∈ lead.toList
  · obtain ⟨tail, front, hsplit, htail⟩ := List.eq_append_cons_of_mem (List.mem_reverse.mpr hslash)
    have hlead : lead.toList = front.reverse ++ '/' :: tail.reverse := by
      rw [← List.reverse_reverse lead.toList, hsplit]
      simp
    refine ⟨String.ofList tail.reverse, fun name hname hne => ?_⟩
    obtain ⟨outer, houter⟩ := exists_toList_joinText directory (lead ++ name)
    have hpath : (joinText directory (lead ++ name)).toList =
        (outer ++ front.reverse) ++ '/' :: (String.ofList tail.reverse ++ name).toList := by
      rw [houter, String.toList_append, hlead]
      simp
    refine pathComponents_append hpath ?_ ?_
    · simpa [hname] using htail
    · simp [String.append_eq_empty_iff, hne]
  · exact ⟨lead, fun name hname hne => pathComponents_joinText directory (by simp [hslash, hname])
      (by simp [String.append_eq_empty_iff, hne])⟩

/-- A path that does not end with a slash has a last component, which ends as the path does. -/
theorem pathComponents_end (hpath : path.toList.getLast? = some c) (hc : c ≠ '/') :
    ∃ outer name, pathComponents path = outer ++ [name] ∧ name.toList.getLast? = some c := by
  by_cases hslash : '/' ∈ path.toList
  · obtain ⟨name, front, hsplit, hname⟩ := List.eq_append_cons_of_mem (List.mem_reverse.mpr hslash)
    have hsplit : path.toList = front.reverse ++ '/' :: name.reverse := by
      rw [← List.reverse_reverse path.toList, hsplit]
      simp
    have hend : name.reverse.getLast? = some c := by
      rw [hsplit, List.getLast?_append, List.getLast?_cons] at hpath
      cases hlast : name.reverse.getLast? with
      | none =>
          rw [hlast] at hpath
          exact absurd (Option.some.inj hpath).symm hc
      | some d => simpa [hlast] using hpath
    have hne : String.ofList name.reverse ≠ "" := by
      intro heq
      rw [String.ofList_eq_empty_iff.mp heq] at hend
      cases hend
    have hsplit : path.toList = front.reverse ++ '/' :: (String.ofList name.reverse).toList := by simpa using hsplit
    obtain ⟨outer, houter⟩ := pathComponents_append hsplit (by simpa using hname) hne
    exact ⟨outer, _, houter, by simpa using hend⟩
  · refine ⟨[], path, pathComponents_name hslash ?_, hpath⟩
    rintro rfl
    cases hpath

/-! ## 2. Places -/

namespace FileTree

variable {tree : FileTree} {place found outer : List String}

theorem walk_last (hdot : name ≠ ".") (hup : name ≠ "..") (h : tree.walk place (outer ++ [name]) = .ok found) :
    found.getLast? = some name := by
  induction outer generalizing place with
  | nil =>
      rw [List.nil_append, walk, if_neg hdot, if_neg hup] at h
      split at h
      · cases h
      · rw [if_pos List.isEmpty_nil] at h
        cases h
        exact List.getLast?_concat
  | cons first outer ih =>
      rw [List.cons_append, walk] at h
      split at h
      · exact ih h
      · split at h
        · exact ih h
        · split at h
          · cases h
          · rw [if_neg (by simp)] at h
            split at h
            · exact ih h
            · cases h
            · cases h

/-- **The place of a path ends with its last component**, unless this leads elsewhere. -/
theorem locate_last (h : tree.locate path = .ok place) (hpath : pathComponents path = outer ++ [name])
    (hdot : name ≠ ".") (hup : name ≠ "..") : place.getLast? = some name := by
  unfold locate at h
  split at h
  · cases h
  · split at h
    · cases h
    · rw [hpath] at h
      exact walk_last hdot hup h

/-- The name at a place ends as the path of the place. -/
theorem locate_end (h : tree.locate path = .ok place) (hpath : path.toList.getLast? = some c) (hslash : c ≠ '/')
    (hdot : c ≠ '.') : ∃ name, place.getLast? = some name ∧ name.toList.getLast? = some c := by
  obtain ⟨outer, name, hcomponents, hend⟩ := pathComponents_end hpath hslash
  refine ⟨name, locate_last h hcomponents ?_ ?_, hend⟩
  · rintro rfl
    exact hdot (Option.some.inj hend).symm
  · rintro rfl
    exact hdot (Option.some.inj hend).symm

end FileTree

/-! ## 3. Paths in normal form -/

namespace Path

theorem intercalate_end (separator : List Char) {parts : List (List Char)} (hparts : parts.getLast? = some cs)
    (hend : cs.getLast? = some c) : (separator.intercalate parts).getLast? = some c := by
  induction parts with
  | nil => cases hparts
  | cons part parts ih =>
      cases parts with
      | nil =>
          cases hparts
          simpa [List.intercalate] using hend
      | cons next parts =>
          rw [List.intercalate_cons_cons, List.getLast?_append, ih (by simpa using hparts)]
          rfl

/-- The text of a path ends as its last component. -/
theorem text_end {p : Path} (hparts : p.parts.getLast? = some name) (hend : name.toList.getLast? = some c) :
    p.text.toList.getLast? = some c := by
  have hne : p.parts.isEmpty = false := by
    cases hlist : p.parts with
    | nil => rw [hlist] at hparts; cases hparts
    | cons _ _ => rfl
  rw [text, if_neg (by simp [hne]), String.toList_append, String.toList_intercalate, List.getLast?_append,
    intercalate_end _ (by rw [List.getLast?_map, hparts]; rfl) hend]
  rfl

/-- **A path ends as the name that was joined to it.** -/
theorem text_join_end (p : Path) {inner : String} (hinner : inner.toList.getLast? = some c) (hslash : c ≠ '/')
    (hdot : c ≠ '.') : (p.join inner).text.toList.getLast? = some c := by
  obtain ⟨outer, name, hcomponents, hend⟩ := pathComponents_end hinner hslash
  have hname : name ≠ "." := by
    rintro rfl
    exact hdot (Option.some.inj hend).symm
  have hparts : (ofText inner).parts.getLast? = some name := by
    rw [ofText, hcomponents, List.filter_append]
    simp [hname]
  unfold join
  dsimp only
  split
  · refine text_end ?_ hend
    rw [List.getLast?_append, hparts]
    rfl
  · exact text_end hparts hend

end Path

end TapeMachine
