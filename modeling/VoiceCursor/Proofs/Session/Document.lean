import VoiceCursor.Proofs.Buffer.Checked
import VoiceCursor.Proofs.Session.Utterance

namespace VoiceCursor.Session

open Buffer

/-! The document of a session. Whatever edits and moves keep is kept by a session, and
so its document is always well formed and nothing done to it fails. -/

section Kept

variable {kept : Buffer → Prop}
  (hinsert : ∀ buffer text, kept buffer → kept (buffer.insert text))
  (hmove : ∀ buffer cursor, kept buffer → kept (buffer.setCursor cursor))

include hmove in
theorem kept_listen {session : Session} (hkept : kept session.editor) (text : String) :
    kept (session.listen text).1.editor :=
  session.editor_listen kept text (fun buffer row => hmove buffer ⟨row, 0⟩) hkept

include hinsert hmove

theorem kept_takeUtterance {session : Session} (hkept : kept session.editor)
    (text : String) : kept (session.takeUtterance text).1.editor := by
  by_cases htaken : session.takenFrom text = []
  · rw [(session.takeUtterance_dictation text htaken).1]
    exact hinsert _ _ hkept
  · rw [(session.takeUtterance_command text htaken).1]
    exact kept_listen hmove hkept text

theorem kept_after {session : Session} (hkept : kept session.editor)
    (operation : Operation) : kept (session.after operation).editor := by
  cases operation with
  | takeLine line =>
      rw [after]
      cases hspoken : isSpoken line with
      | true =>
          rw [session.takeLine_of_isSpoken hspoken]
          exact kept_takeUtterance hinsert hmove hkept _
      | false =>
          rcases session.takeLine_of_not_isSpoken hspoken with hsame | habandon
          · rw [hsame]
            exact hkept
          · rw [habandon]
            exact hkept
  | takeUtterance text =>
      rw [after]
      exact kept_takeUtterance hinsert hmove hkept text
  | listen text =>
      rw [after]
      exact kept_listen hmove hkept text
  | abandon => exact hkept
  | insert text => exact hinsert _ _ hkept
  | setCursor cursor => exact hmove _ _ hkept
  | moveToLine line => exact hmove _ _ hkept

theorem kept_afterAll {session : Session} (hkept : kept session.editor)
    (operations : List Operation) : kept (session.afterAll operations).editor := by
  induction operations generalizing session with
  | nil => exact hkept
  | cons operation operations ih => exact ih (kept_after hinsert hmove hkept operation)

end Kept

theorem wellFormed_afterAll (grammar : Grammar) (text : Option String)
    (operations : List Operation) :
    ((start grammar (opened text)).afterAll operations).editor.WellFormed := by
  apply kept_afterAll
  · intro buffer text hwell
    exact hwell.insert text
  · intro buffer cursor hwell
    exact hwell.setCursor cursor
  · exact wellFormed_opened text

theorem wellFormed_hearAll (grammar : Grammar) (text : Option String)
    (operations : List Operation) (words : List String) :
    (((start grammar (opened text)).afterAll operations).hearAll words).1.editor.WellFormed :=
  Listener.editor_hearAll ((start grammar (opened text)).afterAll operations)
    Buffer.WellFormed words (fun _ row hwell => hwell.setCursor ⟨row, 0⟩)
    (wellFormed_afterAll grammar text operations)

def listed (session : Session) (index : Nat) (row : List Char) : String :=
  (if index = session.editor.cursor.row then ">" else " ") ++ lineLabel (index + 1) ++
    " " ++ String.ofList row

/-- Lists the rows one by one, each of which must be there. -/
def listing? (session : Session) : Option (List String) :=
  (List.range session.editor.lineCount).mapM fun index =>
    (session.editor.row? index).map (session.listed index)

theorem mapM_eq_some_map {f : α → Option β} {g : α → β} {list : List α}
    (hsome : ∀ item ∈ list, f item = some (g item)) :
    list.mapM f = some (list.map g) := by
  induction list with
  | nil => rfl
  | cons item list ih =>
      obtain ⟨hitem, hrest⟩ := List.forall_mem_cons.mp hsome
      rw [List.mapM_cons, hitem, ih hrest]
      rfl

theorem listing?_eq (session : Session) : session.listing? = some session.listing := by
  have hrows : ∀ index ∈ List.range session.editor.lineCount,
      (session.editor.row? index).map (session.listed index) =
        some (session.listed index (session.editor.rows.getD index [])) := by
    intro index hindex
    have hlt : index < session.editor.rows.length := List.mem_range.mp hindex
    rw [row?, List.getD_eq_getElem?_getD, List.getElem?_eq_getElem hlt]
    rfl
  rw [listing?, mapM_eq_some_map hrows, Option.some.injEq]
  apply List.ext_getElem
  · simp [listing, lineCount]
  · intro index hlt hother
    have hrow : index < session.editor.rows.length := by
      simpa [lineCount] using hlt
    simp [listing, listed, List.getElem?_eq_getElem hrow]

/-- Whatever is done to a session, and whichever words of one more utterance it has
heard, the cursor is in the document and every step of every edit and move succeeds. -/
theorem document_sound (grammar : Grammar) (text : Option String)
    (operations : List Operation) (words : List String) :
    let session : Session :=
      (((start grammar (opened text)).afterAll operations).hearAll words).1
    let buffer := session.editor
    (buffer.rows ≠ [] ∧ (∀ row ∈ buffer.rows, '\n' ∉ row) ∧
        buffer.cursor.row < buffer.rows.length ∧
        buffer.cursor.column ≤ buffer.currentRow.length) ∧
      (∀ text, buffer.insert? text = some (buffer.insert text)) ∧
      (∀ cursor, buffer.setCursor? cursor = some (buffer.setCursor cursor)) ∧
      (∀ line, buffer.moveToLine? line = some (moveToLine buffer line)) ∧
      (∀ line, (moveToLine buffer line).1.cursor = ⟨(moveToLine buffer line).2 - 1, 0⟩ ∧
        (moveToLine buffer line).2 = (moveToLine buffer line).1.cursor.row + 1) ∧
      session.listing? = some session.listing := by
  intro session buffer
  have hwell : buffer.WellFormed := wellFormed_hearAll grammar text operations words
  have hrow : buffer.rows[buffer.cursor.row]? = some buffer.currentRow := by
    rw [currentRow, List.getD_eq_getElem?_getD, List.getElem?_eq_getElem hwell.row_lt]
    rfl
  refine ⟨⟨hwell.rows_ne_nil, hwell.newline_notMem, hwell.row_lt,
    hwell.column_le _ hrow⟩, hwell.insert?_eq, hwell.setCursor?_eq, hwell.moveToLine?_eq,
    ?_, session.listing?_eq⟩
  intro line
  have hcursor := hwell.cursor_moveToLine line
  have hline : 1 ≤ (moveToLine buffer line).2 := Nat.le_max_left _ _
  refine ⟨hcursor, ?_⟩
  rw [hcursor]
  show (moveToLine buffer line).2 = (moveToLine buffer line).2 - 1 + 1
  omega

end VoiceCursor.Session
