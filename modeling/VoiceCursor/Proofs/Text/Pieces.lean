import Mathlib.Algebra.Ring.Nat
import Mathlib.Data.List.TakeWhile
import VoiceCursor.Text.Pieces

namespace VoiceCursor.Text

/-! Cutting at separators: a separator ends one piece and begins the next, and no
piece has a separator in it. Joining the pieces undoes the cutting. -/

variable {separator : α → Bool}

theorem splitWhere_append_separator (before after : List α) {c : α}
    (hc : separator c = true) :
    splitWhere separator (before ++ c :: after) =
      splitWhere separator before ++ splitWhere separator after := by
  induction before with
  | nil => simp [splitWhere, hc]
  | cons first rest ih =>
      by_cases hfirst : separator first = true
      · simp [splitWhere, hfirst, ih]
      · simp only [List.cons_append, splitWhere, hfirst, Bool.false_eq_true,
          if_false, ih]
        obtain ⟨piece, pieces, hpieces⟩ :=
          List.exists_cons_of_ne_nil (splitWhere_ne_nil separator rest)
        simp [hpieces]

theorem splitWhere_of_forall_not {text : List α}
    (hwhole : ∀ c ∈ text, separator c = false) :
    splitWhere separator text = [text] := by
  induction text with
  | nil => rfl
  | cons first rest ih =>
      rw [splitWhere, if_neg (by simp [hwhole first]),
        ih fun c hc => hwhole c (List.mem_cons_of_mem first hc)]

theorem not_separator_of_mem_splitWhere {text piece : List α}
    (hpiece : piece ∈ splitWhere separator text) {c : α} (hc : c ∈ piece) :
    separator c = false := by
  induction text generalizing piece with
  | nil =>
      simp only [splitWhere, List.mem_singleton] at hpiece
      subst hpiece
      contradiction
  | cons first rest ih =>
      by_cases hfirst : separator first = true
      · simp only [splitWhere, hfirst, if_true, List.mem_cons] at hpiece
        rcases hpiece with rfl | hrest
        · contradiction
        · exact ih hrest hc
      · obtain ⟨head, tail, hsplit⟩ :=
          List.exists_cons_of_ne_nil (splitWhere_ne_nil separator rest)
        rw [hsplit] at ih
        simp only [splitWhere, hfirst, Bool.false_eq_true, if_false, hsplit,
          List.mem_cons] at hpiece
        rcases hpiece with rfl | htail
        · rcases List.mem_cons.mp hc with rfl | hhead
          · exact Bool.eq_false_iff.mpr hfirst
          · exact ih List.mem_cons_self hhead
        · exact ih (List.mem_cons_of_mem head htail) hc

theorem mem_of_mem_splitWhere {text piece : List α}
    (hpiece : piece ∈ splitWhere separator text) {c : α} (hc : c ∈ piece) : c ∈ text := by
  induction text generalizing piece with
  | nil =>
      rw [splitWhere, List.mem_singleton] at hpiece
      subst hpiece
      contradiction
  | cons first rest ih =>
      rw [splitWhere] at hpiece
      split at hpiece
      · rcases List.mem_cons.mp hpiece with rfl | hrest
        · contradiction
        · exact List.mem_cons_of_mem first (ih hrest hc)
      · obtain ⟨head, tail, hsplit⟩ :=
          List.exists_cons_of_ne_nil (splitWhere_ne_nil separator rest)
        rw [hsplit] at hpiece ih
        rcases List.mem_cons.mp hpiece with rfl | htail
        · rcases List.mem_cons.mp hc with rfl | hhead
          · exact List.mem_cons_self
          · exact List.mem_cons_of_mem first (ih List.mem_cons_self hhead)
        · exact List.mem_cons_of_mem first (ih (List.mem_cons_of_mem head htail) hc)

theorem splitWhere_append_of_forall_not {before after first : List α}
    {pieces : List (List α)} (hwhole : ∀ c ∈ before, separator c = false)
    (hafter : splitWhere separator after = first :: pieces) :
    splitWhere separator (before ++ after) = (before ++ first) :: pieces := by
  induction before with
  | nil => exact hafter
  | cons c rest ih =>
      obtain ⟨hc, hrest⟩ := List.forall_mem_cons.mp hwhole
      rw [List.cons_append, splitWhere, hc, ih hrest]
      rfl

section JoinWith

variable (separator : List α)

theorem joinWith_cons (piece : List α) {pieces : List (List α)} (hpieces : pieces ≠ []) :
    joinWith separator (piece :: pieces) =
      piece ++ separator ++ joinWith separator pieces := by
  cases pieces with
  | nil => contradiction
  | cons next pieces => rfl

theorem joinWith_cons_cons (c : α) (piece : List α) (pieces : List (List α)) :
    joinWith separator ((c :: piece) :: pieces) =
      c :: joinWith separator (piece :: pieces) := by
  cases pieces <;> rfl

theorem joinWith_concat {pieces : List (List α)} (hpieces : pieces ≠ []) (last : List α) :
    joinWith separator (pieces ++ [last]) =
      joinWith separator pieces ++ separator ++ last := by
  induction pieces with
  | nil => contradiction
  | cons piece pieces ih =>
      cases pieces with
      | nil => rfl
      | cons next pieces =>
          have hrest : next :: pieces ≠ [] := List.cons_ne_nil next pieces
          have hmore : next :: pieces ++ [last] ≠ [] := List.cons_ne_nil next _
          rw [List.cons_append, joinWith_cons separator piece hmore, ih hrest,
            joinWith_cons separator piece hrest]
          simp only [List.append_assoc]

theorem joinWith_append_cut (above below : List (List α)) (before after : List α) :
    joinWith separator (above ++ (before ++ after) :: below) =
      joinWith separator (above ++ [before]) ++ joinWith separator (after :: below) := by
  induction above with
  | nil =>
      cases below with
      | nil => rfl
      | cons next below => simp only [List.nil_append, joinWith, List.append_assoc]
  | cons piece above ih =>
      have hwhole : above ++ (before ++ after) :: below ≠ [] := by simp
      have hfront : above ++ [before] ≠ [] := by simp
      rw [List.cons_append, List.cons_append, joinWith_cons _ _ hwhole, ih,
        joinWith_cons _ _ hfront]
      simp only [List.append_assoc]

theorem joinWith_append_joinWith (above : List (List α)) {pieces : List (List α)}
    (hpieces : pieces ≠ []) :
    joinWith separator (above ++ [joinWith separator pieces]) =
      joinWith separator (above ++ pieces) := by
  induction above with
  | nil => rfl
  | cons piece above ih =>
      rw [List.cons_append, List.cons_append, joinWith_cons _ _ (by simp), ih,
        joinWith_cons _ _ (by simp [hpieces])]

theorem length_joinWith_concat (mark : α) (above : List (List α)) (last : List α) :
    (joinWith [mark] (above ++ [last])).length =
      (above.map fun piece => piece.length + 1).sum + last.length := by
  induction above with
  | nil => simp [joinWith]
  | cons piece above ih =>
      rw [List.cons_append, joinWith_cons _ _ (by simp), List.length_append, ih,
        List.length_append, List.map_cons, List.sum_cons, List.length_singleton]
      omega

end JoinWith

theorem joinWith_splitWhere {mark : α} (honly : ∀ c, separator c = true → c = mark)
    (text : List α) : joinWith [mark] (splitWhere separator text) = text := by
  induction text with
  | nil => rfl
  | cons c rest ih =>
      obtain ⟨piece, pieces, hpieces⟩ :=
        List.exists_cons_of_ne_nil (splitWhere_ne_nil separator rest)
      rw [hpieces] at ih
      by_cases hc : separator c = true
      · rw [splitWhere, if_pos hc, hpieces, joinWith_cons _ _ (by simp), ih, honly c hc]
        rfl
      · rw [splitWhere, if_neg hc, hpieces, joinWith_cons_cons, ih]

theorem splitWhere_joinWith {mark : α} (hmark : separator mark = true)
    {pieces : List (List α)} (hpieces : pieces ≠ [])
    (hwhole : ∀ piece ∈ pieces, ∀ c ∈ piece, separator c = false) :
    splitWhere separator (joinWith [mark] pieces) = pieces := by
  induction pieces with
  | nil => contradiction
  | cons piece pieces ih =>
      obtain ⟨hpiece, hrest⟩ := List.forall_mem_cons.mp hwhole
      cases pieces with
      | nil => exact splitWhere_of_forall_not hpiece
      | cons next pieces =>
          rw [joinWith_cons _ _ (by simp), List.append_assoc, List.singleton_append,
            splitWhere_append_separator _ _ hmark, ih (by simp) hrest,
            splitWhere_of_forall_not hpiece]
          rfl

theorem splitWhere_flatMap_closed {mark : α} (hmark : separator mark = true)
    {pieces : List (List α)} (hwhole : ∀ piece ∈ pieces, ∀ c ∈ piece, separator c = false) :
    splitWhere separator (pieces.flatMap fun piece => piece ++ [mark]) = pieces ++ [[]] := by
  induction pieces with
  | nil => rfl
  | cons piece pieces ih =>
      obtain ⟨hpiece, hrest⟩ := List.forall_mem_cons.mp hwhole
      rw [List.flatMap_cons, List.append_assoc, List.singleton_append,
        splitWhere_append_separator _ _ hmark, ih hrest, splitWhere_of_forall_not hpiece]
      rfl

section TrimEnd

variable {unwanted : α → Bool}

theorem mem_of_mem_trimEnd {text : List α} {c : α} (hc : c ∈ trimEnd unwanted text) :
    c ∈ text := by
  have hreversed := (List.dropWhile_sublist unwanted).mem (List.mem_reverse.mp hc)
  exact List.mem_reverse.mp hreversed

theorem mem_of_mem_trim {text : List α} {c : α} (hc : c ∈ trim unwanted text) : c ∈ text :=
  (List.dropWhile_sublist unwanted).mem (mem_of_mem_trimEnd hc)

theorem trimEnd_append_of_forall (text : List α) {marks : List α}
    (hmarks : ∀ c ∈ marks, unwanted c = true) :
    trimEnd unwanted (text ++ marks) = trimEnd unwanted text := by
  have hreversed : ∀ c ∈ marks.reverse, unwanted c = true := fun c hc =>
    hmarks c (List.mem_reverse.mp hc)
  rw [trimEnd, List.reverse_append, List.dropWhile_append_of_pos hreversed, trimEnd]

theorem trim_append_of_forall {start finish : List α} (text : List α)
    (hstart : ∀ c ∈ start, unwanted c = true) (hfinish : ∀ c ∈ finish, unwanted c = true) :
    trim unwanted (start ++ text ++ finish) = trim unwanted text := by
  rw [trim, trim, List.append_assoc, List.dropWhile_append_of_pos hstart, List.dropWhile_append]
  split
  · rename_i hempty
    rw [List.isEmpty_iff.mp hempty, List.dropWhile_eq_nil_iff.mpr hfinish]
  · exact trimEnd_append_of_forall _ hfinish

theorem trimEnd_eq_self {text : List α}
    (hlast : ∀ c, text.getLast? = some c → unwanted c = false) :
    trimEnd unwanted text = text := by
  rw [← List.head?_reverse] at hlast
  rw [trimEnd]
  cases hreversed : text.reverse with
  | nil => rw [← List.reverse_reverse text, hreversed]; rfl
  | cons c rest =>
      rw [hreversed] at hlast
      rw [List.dropWhile_cons_of_neg (by simp [hlast c rfl]), ← hreversed, List.reverse_reverse]

theorem not_unwanted_of_getLast?_trimEnd {text : List α} {c : α}
    (hlast : (trimEnd unwanted text).getLast? = some c) : unwanted c = false := by
  rw [trimEnd, List.getLast?_reverse] at hlast
  have hhead := List.head?_dropWhile_not unwanted text.reverse
  rw [hlast] at hhead
  exact hhead

end TrimEnd

end VoiceCursor.Text
