import VoiceCursor.Proofs.Buffer.WellFormed
import VoiceCursor.Text.Position

namespace VoiceCursor

open Text

/-! Edits and moves in small steps that may fail: a row may be missing, a cut may fall
within a character, a difference may be below zero. In a well-formed buffer none does,
and the steps come to the same as the edit or the move. -/

/-- The two parts of a text at a number of bytes, which must not lie past its end or
within a character. -/
def splitAtByte? : Nat → List Char → Option (List Char × List Char)
  | 0, text => some ([], text)
  | _ + 1, [] => none
  | bytes + 1, c :: rest =>
      if c.utf8Size ≤ bytes + 1 then
        (splitAtByte? (bytes + 1 - c.utf8Size) rest).map fun parts =>
          (c :: parts.1, parts.2)
      else none

def difference? (first second : Nat) : Option Nat :=
  if second ≤ first then some (first - second) else none

theorem splitAtByte?_append (before after : List Char) :
    splitAtByte? (byteLength before) (before ++ after) = some (before, after) := by
  induction before with
  | nil => cases after <;> rfl
  | cons c rest ih =>
      obtain ⟨bytes, hbytes⟩ : ∃ bytes, byteLength (c :: rest) = bytes + 1 := by
        have hpositive := Char.utf8Size_pos c
        exact ⟨c.utf8Size - 1 + byteLength rest, by rw [byteLength]; omega⟩
      have hfits : c.utf8Size ≤ bytes + 1 := by
        rw [← hbytes, byteLength]
        omega
      have hrest : bytes + 1 - c.utf8Size = byteLength rest := by
        rw [← hbytes, byteLength]
        omega
      rw [hbytes, List.cons_append, splitAtByte?, if_pos hfits, hrest, ih]
      rfl

theorem difference?_of_le {first second : Nat} (hle : second ≤ first) :
    difference? first second = some (first - second) := if_pos hle

namespace Buffer

/-- The place of the cursor in its row, counted in bytes. -/
def cursorByte? (buffer : Buffer) : Option Nat := do
  let row ← buffer.row? buffer.cursor.row
  return byteLength (row.take buffer.cursor.column)

def replaceRow? (buffer : Buffer) (row : List Char) : Option Buffer :=
  if buffer.cursor.row < buffer.rows.length then
    some { buffer with rows := buffer.rows.set buffer.cursor.row row }
  else none

def openRow? (buffer : Buffer) (row : List Char) : Option Buffer :=
  if buffer.cursor.row + 1 ≤ buffer.rows.length then
    some ⟨buffer.rows.insertIdx (buffer.cursor.row + 1) row,
      ⟨buffer.cursor.row + 1, buffer.cursor.column⟩⟩
  else none

/-- Cuts the row of the cursor there, types the text piece by piece, and puts the
second part of the row behind it. -/
def insert? (buffer : Buffer) (text : List Char) : Option Buffer :=
  if text.isEmpty then some buffer
  else do
    let byte ← buffer.cursorByte?
    let row ← buffer.row? buffer.cursor.row
    let (before, after) ← splitAtByte? byte row
    let pieces := splitWhere isNewline text
    let typed ← buffer.replaceRow? (before ++ pieces.headD [])
    let opened ← pieces.tail.foldlM openRow? typed
    let last ← opened.row? opened.cursor.row
    let closed ← opened.replaceRow? (last ++ after)
    return { closed with cursor := ⟨opened.cursor.row, last.length⟩ }

def setCursor? (buffer : Buffer) (cursor : Cursor) : Option Buffer := do
  let lastRow ← difference? buffer.rows.length 1
  let row := min cursor.row lastRow
  let text ← buffer.row? row
  return { buffer with cursor := ⟨row, min cursor.column text.length⟩ }

def moveToLine? (buffer : Buffer) (requested : Nat) : Option (Buffer × Nat) := do
  let line := landingLine buffer.lineCount requested
  let row ← difference? line 1
  let moved ← buffer.setCursor? ⟨row, 0⟩
  return (moved, line)

section Rows

variable (above below : List (List Char)) (row : List Char) (column : Nat)

theorem row?_at :
    row? ⟨above ++ row :: below, ⟨above.length, column⟩⟩ above.length = some row := by
  rw [row?, List.getElem?_append_right (Nat.le_refl _), Nat.sub_self,
    List.getElem?_cons_zero]

theorem replaceRow?_at (other : List Char) :
    replaceRow? ⟨above ++ row :: below, ⟨above.length, column⟩⟩ other =
      some ⟨above ++ other :: below, ⟨above.length, column⟩⟩ := by
  have hlt : above.length < (above ++ row :: below).length := by simp
  rw [replaceRow?, if_pos hlt, List.set_append_right _ _ (Nat.le_refl _), Nat.sub_self,
    List.set_cons_zero]

theorem openRow?_at (other : List Char) :
    openRow? ⟨above ++ row :: below, ⟨above.length, column⟩⟩ other =
      some ⟨(above ++ [row]) ++ other :: below, ⟨(above ++ [row]).length, column⟩⟩ := by
  have hle : above.length + 1 ≤ (above ++ row :: below).length := by simp
  have hinsert : (above ++ row :: below).insertIdx (above.length + 1) other =
      (above ++ [row]) ++ other :: below := by
    induction above with
    | nil => rfl
    | cons first rest ih => simpa using ih
  rw [openRow?, if_pos hle, hinsert, List.length_append]
  rfl

/-- Of the row of the cursor and the rows opened below it, the last is where the
cursor ends up. -/
theorem foldlM_openRow?_at {pieces opened : List (List Char)} {last : List Char}
    (hpieces : row :: pieces = opened ++ [last]) :
    pieces.foldlM openRow? ⟨above ++ row :: below, ⟨above.length, column⟩⟩ =
      some ⟨(above ++ opened) ++ last :: below, ⟨(above ++ opened).length, column⟩⟩ := by
  induction pieces generalizing above row opened with
  | nil =>
      cases opened with
      | nil =>
          obtain rfl : row = last := List.cons.inj hpieces |>.1
          rw [List.append_nil]
          rfl
      | cons first opened => simp at hpieces
  | cons piece pieces ih =>
      cases opened with
      | nil => simp at hpieces
      | cons first opened =>
          obtain ⟨rfl, hrest⟩ := List.cons.inj hpieces
          rw [List.foldlM_cons, openRow?_at, Option.bind_eq_bind, Option.bind_some,
            ih (above ++ [row]) piece hrest, List.append_assoc above, List.singleton_append]

end Rows

namespace WellFormed

variable {buffer : Buffer}

theorem insert?_eq (hwell : buffer.WellFormed) (text : List Char) :
    buffer.insert? text = some (buffer.insert text) := by
  by_cases htext : text = []
  · subst text
    rfl
  · obtain ⟨above, before, after, below, rfl⟩ := hwell.exists_cut
    obtain ⟨first, pieces, hpieces⟩ :=
      List.exists_cons_of_ne_nil (splitWhere_ne_nil isNewline text)
    have hbefore : ∀ c ∈ before, isNewline c = false := by
      intro c hc
      rw [isNewline_eq_false_iff]
      rintro rfl
      exact hwell.newline_notMem (before ++ after) (by simp) (List.mem_append_left _ hc)
    obtain ⟨opened, last, hopened⟩ :
        ∃ opened last, (before ++ first) :: pieces = opened ++ [last] :=
      ⟨_, _, (List.dropLast_concat_getLast (List.cons_ne_nil _ _)).symm⟩
    have hall : splitWhere isNewline (before ++ text) = opened ++ [last] :=
      (splitWhere_append_of_forall_not hbefore hpieces).trans hopened
    have hbyte : cursorByte?
        ⟨above ++ (before ++ after) :: below, ⟨above.length, before.length⟩⟩ =
          some (byteLength before) := by
      rw [cursorByte?, row?_at]
      simp
    rw [insert_pieces above below before after htext hall, insert?,
      if_neg (by simpa using htext), hbyte]
    simp only [Option.bind_eq_bind, Option.bind_some, row?_at, splitAtByte?_append, hpieces,
      List.headD_cons, List.tail_cons, replaceRow?_at,
      foldlM_openRow?_at above below (before ++ first) before.length hopened]
    simp

theorem setCursor?_eq (hwell : buffer.WellFormed) (cursor : Cursor) :
    buffer.setCursor? cursor = some (buffer.setCursor cursor) := by
  have hlength : 0 < buffer.rows.length := List.length_pos_iff.mpr hwell.rows_ne_nil
  have hlt : min cursor.row (buffer.rows.length - 1) < buffer.rows.length := by omega
  rw [setCursor?, difference?_of_le hlength, Buffer.setCursor, List.getD_eq_getElem?_getD,
    List.getElem?_eq_getElem hlt]
  simp only [Option.bind_eq_bind, Option.bind_some, row?, List.getElem?_eq_getElem hlt]
  rfl

theorem moveToLine?_eq (hwell : buffer.WellFormed) (requested : Nat) :
    buffer.moveToLine? requested = some (VoiceCursor.moveToLine buffer requested) := by
  have hline : 1 ≤ landingLine buffer.lineCount requested := Nat.le_max_left _ _
  rw [moveToLine?, difference?_of_le hline, Option.bind_eq_bind, Option.bind_some,
    hwell.setCursor?_eq]
  rfl

/-- A move lands on the row that it asks for: clamping the line to the document leaves
the row nothing to clamp. -/
theorem cursor_moveToLine (hwell : buffer.WellFormed) (requested : Nat) :
    (VoiceCursor.moveToLine buffer requested).1.cursor =
      ⟨(VoiceCursor.moveToLine buffer requested).2 - 1, 0⟩ := by
  have hlength : 0 < buffer.rows.length := List.length_pos_iff.mpr hwell.rows_ne_nil
  have hrow : landingLine buffer.rows.length requested - 1 ≤ buffer.rows.length - 1 := by
    rw [landingLine]
    omega
  show Cursor.mk (min (landingLine buffer.rows.length requested - 1)
    (buffer.rows.length - 1)) (min 0 _) = ⟨landingLine buffer.rows.length requested - 1, 0⟩
  rw [Nat.min_eq_left hrow, Nat.zero_min]

end WellFormed

end Buffer

end VoiceCursor
