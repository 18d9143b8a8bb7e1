import VoiceCursor.Proofs.Buffer.Checked
import VoiceCursor.Proofs.Buffer.Saved

namespace VoiceCursor

open Text

/-! An insertion seen on the whole document. The cursor cuts the text of a buffer in two;
what is inserted goes between the two parts, with the cursor behind it. A well-formed buffer
is known by its text and by where the cursor cuts it. -/

namespace Buffer

/-- The place of the cursor in the whole text. A newline ends each row above it. -/
def offset (buffer : Buffer) : Nat :=
  ((buffer.rows.take buffer.cursor.row).map fun row => row.length + 1).sum +
    buffer.cursor.column

section Cut

variable (above below : List (List Char)) (before after : List Char)

theorem toList_text_cut :
    (text ⟨above ++ (before ++ after) :: below, ⟨above.length, before.length⟩⟩).toList =
      joinWith ['\n'] (above ++ [before]) ++ joinWith ['\n'] (after :: below) := by
  rw [text, String.toList_ofList, joinWith_append_cut]

theorem offset_cut :
    offset ⟨above ++ (before ++ after) :: below, ⟨above.length, before.length⟩⟩ =
      (joinWith ['\n'] (above ++ [before])).length := by
  rw [offset, List.take_left, length_joinWith_concat]

variable {above below before after}

theorem WellFormed.newline_notMem_cut
    (hwell : WellFormed
      ⟨above ++ (before ++ after) :: below, ⟨above.length, before.length⟩⟩) :
    (∀ row ∈ above ++ [before], '\n' ∉ row) ∧ ∀ row ∈ after :: below, '\n' ∉ row := by
  obtain ⟨habove, hrow, hbelow⟩ :
      (∀ row ∈ above, '\n' ∉ row) ∧ '\n' ∉ before ++ after ∧
        ∀ row ∈ below, '\n' ∉ row := by
    have hrows := hwell.newline_notMem
    rw [List.forall_mem_append, List.forall_mem_cons] at hrows
    exact hrows
  rw [List.mem_append, not_or] at hrow
  constructor
  · rw [List.forall_mem_append, List.forall_mem_singleton]
    exact ⟨habove, hrow.1⟩
  · rw [List.forall_mem_cons]
    exact ⟨hrow.2, hbelow⟩

end Cut

namespace WellFormed

variable {buffer other : Buffer}

theorem offset_le_length (hwell : buffer.WellFormed) :
    buffer.offset ≤ buffer.text.toList.length := by
  obtain ⟨above, before, after, below, rfl⟩ := hwell.exists_cut
  rw [offset_cut, toList_text_cut, List.length_append]
  exact Nat.le_add_right _ _

theorem eq_of_text_of_offset (hwell : buffer.WellFormed) (hother : other.WellFormed)
    (htext : buffer.text.toList = other.text.toList) (hoffset : buffer.offset = other.offset) :
    buffer = other := by
  obtain ⟨above, before, after, below, rfl⟩ := hwell.exists_cut
  obtain ⟨otherAbove, otherBefore, otherAfter, otherBelow, rfl⟩ := hother.exists_cut
  obtain ⟨hfront, hback⟩ := hwell.newline_notMem_cut
  obtain ⟨hotherFront, hotherBack⟩ := hother.newline_notMem_cut
  rw [toList_text_cut, toList_text_cut] at htext
  rw [offset_cut, offset_cut] at hoffset
  obtain ⟨hfronts, hbacks⟩ := List.append_inj htext hoffset
  have habove : above ++ [before] = otherAbove ++ [otherBefore] := by
    rw [← splitWhere_joinWith_newline (by simp) hfront, hfronts,
      splitWhere_joinWith_newline (by simp) hotherFront]
  have hbelow : after :: below = otherAfter :: otherBelow := by
    rw [← splitWhere_joinWith_newline (by simp) hback, hbacks,
      splitWhere_joinWith_newline (by simp) hotherBack]
  obtain ⟨rfl, hbefore⟩ := List.append_inj' habove rfl
  obtain rfl := List.singleton_inj.mp hbefore
  obtain ⟨rfl, rfl⟩ := List.cons.inj hbelow
  rfl

theorem insert_cut (hwell : buffer.WellFormed) (inserted : List Char) :
    (buffer.insert inserted).text.toList =
        buffer.text.toList.take buffer.offset ++ inserted ++
          buffer.text.toList.drop buffer.offset ∧
      (buffer.insert inserted).offset = buffer.offset + inserted.length := by
  by_cases hinserted : inserted = []
  · subst inserted
    refine ⟨?_, rfl⟩
    rw [List.append_nil, List.take_append_drop]
    rfl
  · obtain ⟨above, before, after, below, rfl⟩ := hwell.exists_cut
    obtain ⟨opened, last, hpieces⟩ :
        ∃ opened last, splitWhere isNewline (before ++ inserted) = opened ++ [last] :=
      ⟨_, _, (List.dropLast_concat_getLast (splitWhere_ne_nil _ _)).symm⟩
    -- The rows that are opened, joined again, are the row up to the cursor and the insertion.
    have hfront : joinWith ['\n'] (above ++ opened ++ [last]) =
        joinWith ['\n'] (above ++ [before]) ++ inserted := by
      calc
        joinWith ['\n'] (above ++ opened ++ [last]) =
            joinWith ['\n'] (above ++ [joinWith ['\n'] (opened ++ [last])]) := by
          rw [joinWith_append_joinWith _ _ (by simp), List.append_assoc]
        _ = joinWith ['\n'] (above ++ [before ++ inserted]) := by
          rw [← hpieces, joinWith_splitWhere eq_newline_of_isNewline]
        _ = joinWith ['\n'] (above ++ [before]) ++ inserted :=
          joinWith_append_cut _ above [] before inserted
    rw [insert_pieces above below before after hinserted hpieces, ← List.length_append,
      toList_text_cut, toList_text_cut, offset_cut, offset_cut, hfront, List.take_left,
      List.drop_left, List.length_append]
    exact ⟨rfl, rfl⟩

end WellFormed

/-- Two insertions one after the other are the insertion of both texts, since they give the
same text with the cursor at the same place. -/
theorem insert_splices_document {buffer : Buffer} (hwell : buffer.WellFormed)
    (inserted : List Char) :
    let whole := buffer.text.toList
    let next := buffer.insert inserted
    buffer.offset ≤ whole.length ∧
      next.text.toList =
        whole.take buffer.offset ++ inserted ++ whole.drop buffer.offset ∧
      next.offset = buffer.offset + inserted.length ∧
      next.WellFormed ∧
      buffer.insert? inserted = some next ∧
      (∀ more, next.insert more = buffer.insert (inserted ++ more)) ∧
      (∀ cursor, (buffer.setCursor cursor).WellFormed) ∧
      ∀ text, (opened text).WellFormed := by
  intro whole next
  have hnext : next.WellFormed := hwell.insert inserted
  obtain ⟨htext, hoffset⟩ := hwell.insert_cut inserted
  refine ⟨hwell.offset_le_length, htext, hoffset, hnext, hwell.insert?_eq inserted, ?_,
    hwell.setCursor, wellFormed_opened⟩
  intro more
  obtain ⟨hmoreText, hmoreOffset⟩ := hnext.insert_cut more
  obtain ⟨hbothText, hbothOffset⟩ := hwell.insert_cut (inserted ++ more)
  apply (hnext.insert more).eq_of_text_of_offset (hwell.insert (inserted ++ more))
  · have hlength : (whole.take buffer.offset ++ inserted).length = next.offset := by
      rw [List.length_append, List.length_take_of_le hwell.offset_le_length, hoffset]
    rw [hmoreText, hbothText, htext, List.take_left' hlength, List.drop_left' hlength]
    simp only [List.append_assoc]
    rfl
  · rw [hmoreOffset, hbothOffset, hoffset, List.length_append, Nat.add_assoc]

theorem insert_splices_document_within_row :
    let buffer : Buffer := ⟨["né".toList, "x".toList], ⟨0, 1⟩⟩
    let next := buffer.insert "1\n\n2".toList
    buffer.WellFormed ∧ next.text.toList = "n1\n\n2é\nx".toList ∧ next.offset = 5 ∧
      next.insert "\n".toList = buffer.insert "1\n\n2\n".toList := by
  intro buffer next
  have hwell : buffer.WellFormed := wellFormed_cut [] ["x".toList] ['n'] ['é'] (by decide)
  obtain ⟨-, htext, hoffset, -, -, hmore, -⟩ :=
    insert_splices_document hwell "1\n\n2".toList
  refine ⟨hwell, htext.trans ?_, hoffset.trans ?_, hmore "\n".toList⟩
  · decide
  · decide

end Buffer

end VoiceCursor
