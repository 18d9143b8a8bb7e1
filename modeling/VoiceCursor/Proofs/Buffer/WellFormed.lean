import VoiceCursor.Proofs.Buffer

namespace VoiceCursor

open Text

/-! A buffer is well formed when its cursor cuts its rows in two, and stays so under
edits and moves. -/

namespace Buffer

/-- The buffer of a text, or one without any text to start from. -/
def opened : Option String → Buffer
  | none => .empty
  | some text => .ofText text

theorem wellFormed_cut (above below : List (List Char)) (before after : List Char)
    (hrows : ∀ row ∈ above ++ (before ++ after) :: below, '\n' ∉ row) :
    WellFormed ⟨above ++ (before ++ after) :: below, ⟨above.length, before.length⟩⟩ := by
  refine ⟨hrows, ?_, ?_⟩
  · show above.length < (above ++ (before ++ after) :: below).length
    simp
  · intro row hrow
    rw [List.getElem?_append_right (Nat.le_refl _), Nat.sub_self,
      List.getElem?_cons_zero, Option.some.injEq] at hrow
    subst row
    simp

namespace WellFormed

variable {buffer : Buffer}

theorem rows_ne_nil (hwell : buffer.WellFormed) : buffer.rows ≠ [] := by
  intro hnil
  have hrow := hwell.row_lt
  rw [hnil] at hrow
  exact Nat.not_lt_zero _ hrow

theorem exists_cut (hwell : buffer.WellFormed) :
    ∃ above before after below,
      buffer = ⟨above ++ (before ++ after) :: below, ⟨above.length, before.length⟩⟩ := by
  obtain ⟨rows, ⟨row, column⟩⟩ := buffer
  have hlt : row < rows.length := hwell.row_lt
  have hcolumn : column ≤ rows[row].length :=
    hwell.column_le rows[row] (List.getElem?_eq_getElem hlt)
  have habove : (rows.take row).length = row :=
    List.length_take_of_le (Nat.le_of_lt hlt)
  have hbefore : (rows[row].take column).length = column :=
    List.length_take_of_le hcolumn
  refine ⟨rows.take row, rows[row].take column, rows[row].drop column,
    rows.drop (row + 1), ?_⟩
  rw [habove, hbefore, List.take_append_drop, List.getElem_cons_drop,
    List.take_append_drop]

theorem insert (hwell : buffer.WellFormed) (text : List Char) :
    (buffer.insert text).WellFormed := by
  by_cases htext : text = []
  · subst text
    exact hwell
  · obtain ⟨above, before, after, below, rfl⟩ := hwell.exists_cut
    obtain ⟨habove, hrow, hbelow⟩ :
        (∀ row ∈ above, '\n' ∉ row) ∧ '\n' ∉ before ++ after ∧
          ∀ row ∈ below, '\n' ∉ row := by
      have hrows := hwell.newline_notMem
      rw [List.forall_mem_append, List.forall_mem_cons] at hrows
      exact hrows
    obtain ⟨opened, last, hpieces⟩ :
        ∃ opened last, splitWhere isNewline (before ++ text) = opened ++ [last] :=
      ⟨_, _, (List.dropLast_concat_getLast (splitWhere_ne_nil _ _)).symm⟩
    have hwhole : ∀ piece ∈ opened ++ [last], '\n' ∉ piece := by
      intro piece hpiece hnewline
      rw [← hpieces] at hpiece
      exact isNewline_eq_false_iff.mp (not_separator_of_mem_splitWhere hpiece hnewline) rfl
    rw [insert_pieces above below before after htext hpieces, ← List.length_append]
    apply wellFormed_cut
    rw [List.forall_mem_append] at hwhole
    rw [List.forall_mem_append, List.forall_mem_append, List.forall_mem_cons,
      List.mem_append, not_or]
    have hafter : '\n' ∉ after := fun hnewline => hrow (List.mem_append_right _ hnewline)
    exact ⟨⟨habove, hwhole.1⟩, ⟨hwhole.2 last List.mem_cons_self, hafter⟩, hbelow⟩

theorem setCursor (hwell : buffer.WellFormed) (cursor : Cursor) :
    (buffer.setCursor cursor).WellFormed := by
  have hlength : 0 < buffer.rows.length := List.length_pos_iff.mpr hwell.rows_ne_nil
  refine ⟨hwell.newline_notMem, ?_, ?_⟩
  · show min cursor.row (buffer.rows.length - 1) < buffer.rows.length
    omega
  · intro row hrow
    show min cursor.column (buffer.rows.getD (min cursor.row (buffer.rows.length - 1)) []).length
      ≤ row.length
    have hsame : buffer.rows[min cursor.row (buffer.rows.length - 1)]? = some row := hrow
    rw [List.getD_eq_getElem?_getD, hsame, Option.getD_some]
    exact Nat.min_le_right _ _

end WellFormed

theorem wellFormed_opened (text : Option String) : (opened text).WellFormed := by
  have hofText (text : String) : (ofText text).WellFormed := by
    obtain ⟨first, rest, hrows⟩ :=
      List.exists_cons_of_ne_nil (rowsOfText_ne_nil text.toList)
    have hwhole : ∀ row ∈ rowsOfText text.toList, '\n' ∉ row :=
      fun row hrow => newline_notMem_rowsOfText hrow
    rw [ofText]
    rw [hrows] at hwhole ⊢
    exact wellFormed_cut [] rest [] first hwhole
  cases text with
  | none => exact hofText ""
  | some text => exact hofText text

end Buffer

end VoiceCursor
