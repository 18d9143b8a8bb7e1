import Mathlib.Data.List.Basic
import Mathlib.Data.List.TakeWhile
import VoiceCursor.Files.Tree
import VoiceCursor.Proofs.Text.Pieces

namespace VoiceCursor

open Text

/-! Paths that are joined, and paths that have a parent. Joining is associative on
relative paths, and a path without a parent leads to a directory or to nothing. -/

namespace Path

section Join

variable {directory name : String}

/-- What goes between a path and a relative one behind it. -/
def gap (path : String) : String :=
  if path.toList.isEmpty ∨ path.toList.getLast? = some '/' then "" else "/"

theorem join_of_isAbsolute (base : String) (habsolute : isAbsolute directory = true) :
    join base directory = directory := if_pos habsolute

theorem join_of_isRelative (base : String) (hrelative : isAbsolute directory = false) :
    join base directory = base ++ gap base ++ directory := by
  rw [join, hrelative, if_neg Bool.false_ne_true, gap]
  split
  · rw [String.append_empty]
  · rfl

theorem gap_append_gap (path : String) : gap (path ++ gap path) = "" := by
  by_cases hclosed : path.toList.isEmpty ∨ path.toList.getLast? = some '/'
  · have hgap : gap path = "" := if_pos hclosed
    rw [hgap, String.append_empty, hgap]
  · have hgap : gap path = "/" := if_neg hclosed
    rw [hgap, gap, if_pos]
    right
    simp

theorem gap_append (base : String) {path : String} (hpath : path ≠ "") :
    gap (base ++ path) = gap path := by
  have hchars : path.toList ≠ [] := fun hnil => hpath (String.toList_eq_nil_iff.mp hnil)
  have hlast : (base ++ path).toList.getLast? = path.toList.getLast? := by
    rw [String.toList_append, List.getLast?_append_of_ne_nil _ hchars]
  have hempty : (base ++ path).toList.isEmpty = path.toList.isEmpty := by
    rw [String.toList_append, Bool.eq_iff_iff, List.isEmpty_iff, List.isEmpty_iff,
      List.append_eq_nil_iff]
    exact ⟨And.right, fun hnil => absurd hnil hchars⟩
  rw [gap, hlast, hempty, gap]

theorem isAbsolute_append {path : String} (hpath : path ≠ "") (rest : String) :
    isAbsolute (path ++ rest) = isAbsolute path := by
  obtain ⟨first, chars, hchars⟩ := List.exists_cons_of_ne_nil
    fun hnil => hpath (String.toList_eq_nil_iff.mp hnil)
  rw [isAbsolute, String.toList_append, hchars, List.cons_append, isAbsolute, hchars]
  split <;> simp_all

theorem isAbsolute_join (hdirectory : isAbsolute directory = false)
    (hname : isAbsolute name = false) : isAbsolute (join directory name) = false := by
  rw [join_of_isRelative directory hname]
  by_cases hempty : directory = ""
  · rw [hempty]
    exact hname
  · rw [String.append_assoc, isAbsolute_append hempty, hdirectory]

theorem join_join (base : String) (hdirectory : isAbsolute directory = false)
    (hname : isAbsolute name = false) :
    join (join base directory) name = join base (join directory name) := by
  rw [join_of_isRelative _ hname, join_of_isRelative _ hdirectory,
    join_of_isRelative base (isAbsolute_join hdirectory hname), join_of_isRelative _ hname]
  by_cases hempty : directory = ""
  · have hnothing : gap "" = "" := rfl
    rw [hempty, String.append_empty, gap_append_gap, hnothing, String.append_empty,
      String.append_empty, String.empty_append]
  · rw [gap_append _ hempty]
    simp only [String.append_assoc]

end Join

section Parent

theorem trimIdle_eq_nil_iff {parts : List (List Char)} :
    trimIdle parts = [] ↔ ∀ part ∈ parts, isIdle part = true := by
  rw [trimIdle, List.reverse_eq_nil_iff, List.dropWhile_eq_nil_iff]
  exact forall_congr' fun part => imp_congr_left List.mem_reverse

theorem joinWith_parts (path : String) : joinWith ['/'] (parts path) = path.toList :=
  joinWith_splitWhere (fun _ hc => of_decide_eq_true hc) path.toList

theorem isAbsolute_of_parts {path : String} {rest : List (List Char)}
    (hparts : parts path = [] :: rest) (hrest : rest ≠ []) : isAbsolute path = true := by
  rw [isAbsolute, ← joinWith_parts, hparts, joinWith_cons _ _ hrest]
  rfl

/-- The three cases are those of `parent?`: a root, a path that starts with a dot, and
any other. -/
theorem idle_of_parent?_eq_none {path : String} (hnone : parent? path = none) :
    (path = "" ∨ isAbsolute path = true) ∧ ∀ part ∈ parts path, isIdle part = true := by
  rw [parent?] at hnone
  dsimp only at hnone
  split at hnone
  · rename_i hparts
    exact absurd hparts (splitWhere_ne_nil isSlash path.toList)
  · rename_i first rest hparts
    split at hnone
    · rename_i hroot
      obtain ⟨hfirst, hrest⟩ := Bool.and_eq_true_iff.mp hroot
      have hnil : first = [] := List.isEmpty_iff.mp hfirst
      have hbehind : rest ≠ [] := by simpa using hrest
      subst hnil
      refine ⟨.inr (isAbsolute_of_parts hparts hbehind), ?_⟩
      split at hnone
      · rename_i hidle
        rw [hparts, List.forall_mem_cons]
        exact ⟨rfl, trimIdle_eq_nil_iff.mp hidle⟩
      · nomatch hnone
    · rename_i hroot
      split at hnone
      · split at hnone <;> nomatch hnone
      · rename_i hdot
        split at hnone
        · rename_i htrimmed
          have hidle := trimIdle_eq_nil_iff.mp htrimmed
          have hfirst : first = [] := by
            simpa [isIdle, hdot] using hidle first List.mem_cons_self
          have hrest : rest = [] := by simpa [hfirst] using hroot
          rw [hparts]
          refine ⟨.inl ?_, hidle⟩
          rw [← String.toList_eq_nil_iff, ← joinWith_parts, hparts, hfirst, hrest]
          rfl
        · nomatch hnone

end Parent

end Path

namespace Tree

variable (tree : Tree)

theorem follow_outside {parts : List (List Char)}
    (hidle : ∀ part ∈ parts, Path.isIdle part = true) :
    tree.follow .outside parts = .ok .directory := by
  induction parts with
  | nil => rfl
  | cons part rest ih =>
      obtain ⟨hpart, hrest⟩ := List.forall_mem_cons.mp hidle
      have hshort : ¬(String.ofList part).utf8ByteSize > Path.maxNameLength := by
        rw [Path.isIdle, Bool.or_eq_true, List.isEmpty_iff, decide_eq_true_iff] at hpart
        rcases hpart with rfl | rfl <;> decide
      have hnext : Place.next? .outside part = some .outside := if_pos hpart
      rw [follow]
      dsimp only [find?]
      rw [if_neg hshort, hnext]
      exact ih hrest

theorem exists_parent_of_read {path text : String} (hread : tree.read path = .ok text) :
    ∃ base, Path.parent? path = some base := by
  cases hparent : Path.parent? path with
  | some base => exact ⟨base, rfl⟩
  | none =>
      obtain ⟨hempty | habsolute, hidle⟩ := Path.idle_of_parent?_eq_none hparent
      · subst hempty
        nomatch hread
      · rw [read] at hread
        dsimp only at hread
        rw [if_pos habsolute, tree.follow_outside hidle] at hread
        split at hread <;> nomatch hread

end Tree

end VoiceCursor
