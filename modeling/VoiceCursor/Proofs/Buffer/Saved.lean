import VoiceCursor.Proofs.Buffer.WellFormed

namespace VoiceCursor

open Text

/-! A document is saved as its text with one newline more. The rows of what is saved are
the rows of the document, and a text that ends in a newline is saved as it was. -/

theorem eq_newline_of_isNewline (c : Char) (hc : isNewline c = true) : c = '\n' := by
  simpa [isNewline] using hc

theorem splitWhere_joinWith_newline {rows : List (List Char)} (hrows : rows ≠ [])
    (hwhole : ∀ row ∈ rows, '\n' ∉ row) :
    splitWhere isNewline (joinWith ['\n'] rows) = rows := by
  apply splitWhere_joinWith rfl hrows
  intro row hrow c hc
  rw [isNewline_eq_false_iff]
  rintro rfl
  exact hwhole row hrow hc

namespace Buffer

theorem rowsOfText_append_newline (text : List Char) :
    rowsOfText (text ++ ['\n']) = splitWhere isNewline text := by
  have hpieces : splitWhere isNewline (text ++ ['\n']) =
      splitWhere isNewline text ++ [[]] :=
    splitWhere_append_separator text [] rfl
  have hlength : 0 < (splitWhere isNewline text).length :=
    List.length_pos_iff.mpr (splitWhere_ne_nil _ _)
  have hclosed : (splitWhere isNewline text ++ [[]]).length > 1 ∧
      (splitWhere isNewline text ++ [[]]).getLast? = some [] := by
    rw [List.length_append, List.getLast?_concat]
    exact ⟨Nat.lt_add_of_pos_left hlength, rfl⟩
  simp only [rowsOfText, hpieces, if_pos hclosed, List.dropLast_concat]

theorem joinWith_rowsOfText (text : List Char) :
    joinWith ['\n'] (rowsOfText text) ++ ['\n'] =
      if text.getLast? = some '\n' then text else text ++ ['\n'] := by
  have hjoin (text : List Char) : joinWith ['\n'] (splitWhere isNewline text) = text :=
    joinWith_splitWhere eq_newline_of_isNewline text
  by_cases hlast : text.getLast? = some '\n'
  · obtain ⟨before, rfl⟩ := List.getLast?_eq_some_iff.mp hlast
    rw [if_pos hlast, rowsOfText_append_newline, hjoin]
  · have hopen : rowsOfText text = splitWhere isNewline text := by
      rw [rowsOfText]
      apply if_neg
      rintro ⟨hlength, hempty⟩
      obtain ⟨pieces, hpieces⟩ := List.getLast?_eq_some_iff.mp hempty
      have hne : pieces ≠ [] := by
        rintro rfl
        simp [hpieces] at hlength
      have hends : text = joinWith ['\n'] pieces ++ ['\n'] := by
        rw [← hjoin text, hpieces, joinWith_concat _ hne, List.append_nil]
      rw [hends, List.getLast?_concat] at hlast
      exact hlast rfl
    rw [if_neg hlast, hopen, hjoin]

theorem text_ofText (text : String) :
    (ofText text).text ++ "\n" =
      if text.toList.getLast? = some '\n' then text else text ++ "\n" := by
  have hchars := joinWith_rowsOfText text.toList
  rw [← String.toList_inj, String.toList_append, Buffer.text, String.toList_ofList, ofText]
  refine hchars.trans ?_
  split
  · rfl
  · rw [String.toList_append]
    rfl

theorem WellFormed.ofText_text {buffer : Buffer} (hwell : buffer.WellFormed) :
    ofText (buffer.text ++ "\n") = ⟨buffer.rows, ⟨0, 0⟩⟩ := by
  have hrows : rowsOfText (buffer.text ++ "\n").toList = buffer.rows := by
    rw [String.toList_append, Buffer.text, String.toList_ofList]
    exact (rowsOfText_append_newline _).trans
      (splitWhere_joinWith_newline hwell.rows_ne_nil hwell.newline_notMem)
  rw [ofText, hrows]

end Buffer

end VoiceCursor
