import VoiceCursor.Proofs.Buffer
import VoiceCursor.Proofs.Session.Utterance

namespace VoiceCursor

open Text

/-! Dictation keeps every text whole. A row grows by whole texts put in front of what
it held at first, and the cursor never enters one of them. -/

structure GrownRow where
  pieces : List (List Char)
  original : List Char

def GrownRow.text (row : GrownRow) : List Char := row.pieces.flatten ++ row.original

theorem GrownRow.text_append (before after : List (List Char)) (original : List Char) :
    text ⟨before ++ after, original⟩ = before.flatten ++ text ⟨after, original⟩ := by
  rw [text, text, List.flatten_append, List.append_assoc]

namespace Buffer

/-- Only whole texts stand between the start of a row and the cursor in it. -/
structure Grown (rows : List GrownRow) (buffer : Buffer) : Prop where
  rows_eq : buffer.rows = rows.map GrownRow.text
  newline_notMem : ∀ row ∈ rows, '\n' ∉ row.text
  boundary : ∃ above before after original below,
    rows = above ++ ⟨before ++ after, original⟩ :: below ∧
      buffer.cursor = ⟨above.length, before.flatten.length⟩

/-- The rows with some texts more among their pieces. -/
def GrownBy (rows : List GrownRow) (texts : List (List Char)) (buffer : Buffer) : Prop :=
  ∃ next, Grown next buffer ∧
    next.map GrownRow.original = rows.map GrownRow.original ∧
    (next.flatMap GrownRow.pieces).Perm (texts ++ rows.flatMap GrownRow.pieces)

def ungrown (buffer : Buffer) : List GrownRow := buffer.rows.map fun row => ⟨[], row⟩

theorem grown_ofText (text : String) : Grown (ungrown (ofText text)) (ofText text) := by
  refine ⟨?_, ?_, ?_⟩
  · rw [ungrown, List.map_map]
    exact (List.map_id _).symm
  · intro grown hgrown
    obtain ⟨row, hrow, rfl⟩ := List.mem_map.mp hgrown
    exact newline_notMem_rowsOfText hrow
  · obtain ⟨row, rows, hrows⟩ := List.exists_cons_of_ne_nil (rowsOfText_ne_nil text.toList)
    refine ⟨[], [], [], row, rows.map fun row => ⟨[], row⟩, ?_, rfl⟩
    rw [ungrown, ofText, hrows]
    rfl

namespace Grown

variable {rows : List GrownRow} {buffer : Buffer}

theorem grownBy_nil (hgrown : Grown rows buffer) : GrownBy rows [] buffer :=
  ⟨rows, hgrown, rfl, .refl _⟩

theorem setCursor_start (hgrown : Grown rows buffer) (row : Nat) :
    Grown rows (buffer.setCursor ⟨row, 0⟩) := by
  have hrows : buffer.rows ≠ [] := by
    obtain ⟨above, before, after, original, below, hboundary, -⟩ := hgrown.boundary
    rw [hgrown.rows_eq, hboundary]
    simp
  obtain ⟨landed, hlanded, hmoved⟩ := buffer.setCursor_start hrows row
  rw [hgrown.rows_eq, List.length_map] at hlanded
  rw [hmoved]
  refine ⟨hgrown.rows_eq, hgrown.newline_notMem, ?_⟩
  refine ⟨rows.take landed, [], rows[landed].pieces, rows[landed].original,
    rows.drop (landed + 1), ?_, ?_⟩
  · rw [List.nil_append, List.getElem_cons_drop, List.take_append_drop]
  · rw [List.length_take, Nat.min_eq_left (Nat.le_of_lt hlanded)]
    rfl

theorem insert (hgrown : Grown rows buffer) {text : List Char} (htext : text ≠ [])
    (hwhole : '\n' ∉ text) : GrownBy rows [text] (buffer.insert text) := by
  obtain ⟨above, before, after, original, below, hrows, hcursor⟩ := hgrown.boundary
  subst hrows
  obtain ⟨habove, hrow, hbelow⟩ :
      (∀ row ∈ above, '\n' ∉ row.text) ∧
        '\n' ∉ GrownRow.text ⟨before ++ after, original⟩ ∧
          ∀ row ∈ below, '\n' ∉ row.text := by
    have hrows := hgrown.newline_notMem
    rw [List.forall_mem_append, List.forall_mem_cons] at hrows
    exact hrows
  rw [GrownRow.text_append, List.mem_append, not_or] at hrow
  have hbuffer : buffer =
      ⟨above.map GrownRow.text ++
          (before.flatten ++ GrownRow.text ⟨after, original⟩) :: below.map GrownRow.text,
        ⟨(above.map GrownRow.text).length, before.flatten.length⟩⟩ := by
    rw [List.length_map, ← hcursor, ← GrownRow.text_append, ← List.map_cons,
      ← List.map_append, ← hgrown.rows_eq]
  have hpieces : (before ++ [text]).flatten = before.flatten ++ text := by
    rw [List.flatten_append, List.flatten_singleton]
  rw [hbuffer, insert_at _ _ _ _ htext hrow.1 hwhole]
  refine ⟨above ++ ⟨(before ++ [text]) ++ after, original⟩ :: below, ⟨?_, ?_, ?_⟩, ?_, ?_⟩
  · rw [List.map_append, List.map_cons, GrownRow.text_append, hpieces]
  · rw [List.forall_mem_append, List.forall_mem_cons, GrownRow.text_append, hpieces,
      List.mem_append, List.mem_append, not_or, not_or]
    exact ⟨habove, ⟨⟨hrow.1, hwhole⟩, hrow.2⟩, hbelow⟩
  · refine ⟨above, before ++ [text], after, original, below, rfl, ?_⟩
    rw [hpieces, List.length_map]
  · rw [List.map_append, List.map_append, List.map_cons, List.map_cons]
  · have hmiddle := @List.perm_middle _ text (above.flatMap GrownRow.pieces ++ before)
      (after ++ below.flatMap GrownRow.pieces)
    simpa only [List.flatMap_append, List.flatMap_cons, List.append_assoc,
      List.singleton_append, List.cons_append, List.nil_append] using hmiddle

end Grown

end Buffer

namespace Session

open Buffer

def dictation? (session : Session) (line : String) : Option (List Char) :=
  let text := trim isBlank line.toList
  if isSpoken line ∧ session.takenFrom (.ofList text) = [] then some (text ++ [' '])
  else none

def takeLines (session : Session) (lines : List String) : Session :=
  lines.foldl (fun session line => (session.takeLine line).session) session

/-- The texts that lines dictate, each taken as the lines before it leave the session. -/
def dictations (session : Session) : List String → List (List Char)
  | [] => []
  | line :: lines =>
      (session.dictation? line).toList ++ (session.takeLine line).session.dictations lines

variable {session : Session} {rows : List GrownRow}

theorem grown_listen (hgrown : Grown rows session.editor) (text : String) :
    Grown rows (session.listen text).1.editor := by
  apply session.editor_listen (Grown rows)
  · intro buffer row hbuffer
    exact hbuffer.setCursor_start row
  · exact hgrown

theorem grownBy_takeLine (hgrown : Grown rows session.editor) {line : String}
    (hline : '\n' ∉ line.toList) :
    GrownBy rows (session.dictation? line).toList (session.takeLine line).session.editor := by
  cases hspoken : isSpoken line with
  | false =>
      have hnone : session.dictation? line = none := by simp [dictation?, hspoken]
      rw [hnone]
      apply Grown.grownBy_nil
      rcases session.takeLine_of_not_isSpoken hspoken with hsame | habandon
      · rw [hsame]
        exact hgrown
      · rw [habandon]
        exact hgrown
  | true =>
      rw [session.takeLine_of_isSpoken hspoken]
      by_cases htaken : session.takenFrom (.ofList (trim isBlank line.toList)) = []
      · have hdictated : session.dictation? line =
            some (trim isBlank line.toList ++ [' ']) := by
          rw [dictation?, if_pos ⟨hspoken, htaken⟩]
        have hwhole : '\n' ∉ trim isBlank line.toList ++ [' '] := by
          rw [List.mem_append, not_or]
          exact ⟨fun hnewline => hline (mem_of_mem_trim hnewline), by decide⟩
        rw [(session.takeUtterance_dictation _ htaken).1, hdictated, String.toList_ofList]
        exact hgrown.insert (by simp) hwhole
      · have hnone : session.dictation? line = none := by simp [dictation?, htaken]
        rw [hnone, (session.takeUtterance_command _ htaken).1]
        exact (grown_listen hgrown _).grownBy_nil

theorem grownBy_takeLines (hgrown : Grown rows session.editor) {lines : List String}
    (hlines : ∀ line ∈ lines, '\n' ∉ line.toList) :
    GrownBy rows (session.dictations lines) (session.takeLines lines).editor := by
  induction lines generalizing session rows with
  | nil => exact hgrown.grownBy_nil
  | cons line lines ih =>
      rw [List.forall_mem_cons] at hlines
      obtain ⟨middle, hmiddle, horiginal, hpieces⟩ := grownBy_takeLine hgrown hlines.1
      obtain ⟨next, hnext, hsame, hperm⟩ := ih hmiddle hlines.2
      refine ⟨next, hnext, hsame.trans horiginal, ?_⟩
      rw [dictations, List.append_assoc]
      exact (hperm.trans (hpieces.append_left _)).trans (List.perm_append_comm_assoc _ _ _)

/-- Every text dictated stands in the document once and whole, and what a row held at
first stands whole behind the texts dictated into it. -/
theorem takeLines_keeps_texts (grammar : Grammar) (text : String) {lines : List String}
    (hlines : ∀ line ∈ lines, '\n' ∉ line.toList) :
    let first := start grammar (ofText text)
    let last := first.takeLines lines
    last.editor.rows.length = first.editor.rows.length ∧
      ∃ rows : List GrownRow,
        rows.map GrownRow.original = first.editor.rows ∧
        rows.map GrownRow.text = last.editor.rows ∧
        (rows.flatMap GrownRow.pieces).Perm (first.dictations lines) := by
  intro first last
  have hfirst : Grown (ungrown first.editor) first.editor := grown_ofText text
  obtain ⟨rows, hgrown, horiginal, hpieces⟩ := grownBy_takeLines hfirst hlines
  have hrows : rows.map GrownRow.original = first.editor.rows := by
    rw [horiginal, ungrown, List.map_map]
    exact List.map_id _
  have hnothing : (ungrown first.editor).flatMap GrownRow.pieces = [] := by
    rw [List.flatMap_eq_nil_iff]
    intro row hrow
    obtain ⟨original, -, rfl⟩ := List.mem_map.mp hrow
    rfl
  rw [hnothing, List.append_nil] at hpieces
  refine ⟨?_, rows, hrows, hgrown.rows_eq.symm, hpieces⟩
  rw [hgrown.rows_eq, List.length_map, ← hrows, List.length_map]

theorem takeLines_keeps_texts_between_moves :
    (∀ line ∈ ["hello", "down", " day ", "/reset", "up", "world"], '\n' ∉ line.toList) ∧
    ((start (.ofVocabulary ⟨.empty, .empty, .empty⟩) (ofText "one\ntwo")).takeLines
        ["hello", "down", " day ", "/reset", "up", "world"]).editor.rows =
      ["world hello one".toList, "day two".toList] ∧
    ∃ rows : List GrownRow,
      rows.map GrownRow.original = ["one".toList, "two".toList] ∧
      rows.map GrownRow.text = ["world hello one".toList, "day two".toList] ∧
      (rows.flatMap GrownRow.pieces).Perm
        ["hello ".toList, "day ".toList, "world ".toList] := by
  have hlines : ∀ line ∈ ["hello", "down", " day ", "/reset", "up", "world"],
      '\n' ∉ line.toList := by decide
  have hfirst :
      (start (.ofVocabulary ⟨.empty, .empty, .empty⟩) (ofText "one\ntwo")).editor.rows =
        ["one".toList, "two".toList] := by decide +kernel
  have hlast :
      ((start (.ofVocabulary ⟨.empty, .empty, .empty⟩) (ofText "one\ntwo")).takeLines
          ["hello", "down", " day ", "/reset", "up", "world"]).editor.rows =
        ["world hello one".toList, "day two".toList] := by decide +kernel
  have hdictations :
      (start (.ofVocabulary ⟨.empty, .empty, .empty⟩) (ofText "one\ntwo")).dictations
          ["hello", "down", " day ", "/reset", "up", "world"] =
        ["hello ".toList, "day ".toList, "world ".toList] := by decide +kernel
  have hkept :=
    takeLines_keeps_texts (.ofVocabulary ⟨.empty, .empty, .empty⟩) "one\ntwo" hlines
  dsimp only at hkept
  rw [hfirst, hlast, hdictations] at hkept
  exact ⟨hlines, hlast, hkept.2⟩

end Session

end VoiceCursor
