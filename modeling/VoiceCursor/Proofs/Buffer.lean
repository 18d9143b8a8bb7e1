import VoiceCursor.Buffer
import VoiceCursor.Proofs.Text.Pieces

namespace VoiceCursor

open Text

/-! What edits and moves do to a buffer, seen from the cursor: the rows above it, the
two parts of its row, and the rows below it. -/

theorem isNewline_eq_false_iff {c : Char} : isNewline c = false ↔ c ≠ '\n' := by
  simp [isNewline]

theorem splitWhere_isNewline_of_notMem {text : List Char} (hwhole : '\n' ∉ text) :
    splitWhere isNewline text = [text] := by
  apply splitWhere_of_forall_not
  intro c hc
  rw [isNewline_eq_false_iff]
  intro hnewline
  exact hwhole (hnewline ▸ hc)

namespace Buffer

theorem rowsOfText_ne_nil (text : List Char) : rowsOfText text ≠ [] := by
  intro hnil
  have hpieces := congrArg List.length hnil
  simp only [rowsOfText, List.length_nil] at hpieces
  split at hpieces
  · rename_i hclosed
    rw [List.length_dropLast] at hpieces
    omega
  · exact splitWhere_ne_nil _ _ (List.length_eq_zero_iff.mp hpieces)

theorem newline_notMem_rowsOfText {text row : List Char} (hrow : row ∈ rowsOfText text) :
    '\n' ∉ row := by
  have hpiece : row ∈ splitWhere isNewline text := by
    rw [rowsOfText] at hrow
    split at hrow
    · exact List.dropLast_subset _ hrow
    · exact hrow
  intro hnewline
  exact isNewline_eq_false_iff.mp (not_separator_of_mem_splitWhere hpiece hnewline) rfl

theorem currentRow_at (above below : List (List Char)) (row : List Char) (column : Nat) :
    currentRow ⟨above ++ row :: below, ⟨above.length, column⟩⟩ = row := by
  rw [currentRow, List.getD_eq_getElem?_getD, List.getElem?_append_right (Nat.le_refl _),
    Nat.sub_self, List.getElem?_cons_zero, Option.getD_some]

/-- The first part of the row and the text make new rows; the second part of the row
goes behind the last of them. -/
theorem insert_pieces (above below : List (List Char)) (before after : List Char)
    {text last : List Char} {opened : List (List Char)} (htext : text ≠ [])
    (hpieces : splitWhere isNewline (before ++ text) = opened ++ [last]) :
    Buffer.insert ⟨above ++ (before ++ after) :: below, ⟨above.length, before.length⟩⟩ text =
      ⟨above ++ opened ++ (last ++ after) :: below,
        ⟨above.length + opened.length, last.length⟩⟩ := by
  rw [insert, if_neg (by simpa using htext)]
  simp only [currentRow_at, List.take_left, List.drop_left, hpieces]
  simp

theorem insert_at (above below : List (List Char)) (before after : List Char)
    {text : List Char} (htext : text ≠ []) (hbefore : '\n' ∉ before)
    (hwhole : '\n' ∉ text) :
    Buffer.insert ⟨above ++ (before ++ after) :: below, ⟨above.length, before.length⟩⟩ text =
      ⟨above ++ (before ++ text ++ after) :: below,
        ⟨above.length, (before ++ text).length⟩⟩ := by
  have hpieces : splitWhere isNewline (before ++ text) = [] ++ [before ++ text] := by
    apply splitWhere_isNewline_of_notMem
    rw [List.mem_append, not_or]
    exact ⟨hbefore, hwhole⟩
  rw [insert_pieces above below before after htext hpieces, List.append_nil]
  rfl

theorem setCursor_start (buffer : Buffer) (hrows : buffer.rows ≠ []) (row : Nat) :
    ∃ landed < buffer.rows.length,
      buffer.setCursor ⟨row, 0⟩ = { buffer with cursor := ⟨landed, 0⟩ } := by
  refine ⟨min row (buffer.rows.length - 1), ?_, ?_⟩
  · have hlength := List.length_pos_iff.mpr hrows
    omega
  · rw [setCursor, Nat.zero_min]

end Buffer

end VoiceCursor
