import VoiceCursor.Proofs.Buffer.WellFormed
import VoiceCursor.Proofs.Session.Utterance
import VoiceCursor.Run

namespace VoiceCursor

open Text

/-! The document as it is printed on request. The rows come in order, each on a line of its
own behind its number, so that what is printed tells the rows and the row of the cursor. -/

/-- A row on its line: a mark if the cursor is in it, its number in four columns or more, and
its text. -/
def printedRow (marked : Bool) (number : Nat) (row : List Char) : List Char :=
  let digits := Nat.toDigits 10 number
  (if marked then '>' else ' ') ::
    (List.replicate (4 - digits.length) ' ' ++ digits ++ ' ' :: row)

theorem printedRow_inj {marked other : Bool} {number : Nat} {row others : List Char} :
    printedRow marked number row = printedRow other number others ↔
      marked = other ∧ row = others := by
  constructor
  · intro hprinted
    obtain ⟨hmark, hbehind⟩ := List.cons.inj hprinted
    constructor
    · cases marked <;> cases other <;> first | rfl | nomatch hmark
    · exact (List.cons.inj (List.append_cancel_left hbehind)).2
  · rintro ⟨rfl, rfl⟩
    rfl

theorem head?_printedRow (marked : Bool) (number : Nat) (row : List Char) :
    (printedRow marked number row).head? = some '>' ↔ marked = true := by
  cases marked with
  | true => exact iff_of_true rfl rfl
  | false => exact iff_of_false nofun nofun

theorem newline_notMem_printedRow (marked : Bool) (number : Nat) {row : List Char}
    (hrow : '\n' ∉ row) : '\n' ∉ printedRow marked number row := by
  have hmark : '\n' ≠ if marked then '>' else ' ' := by
    cases marked <;> decide
  have hdigits : '\n' ∉ Nat.toDigits 10 number := by
    intro hnewline
    have hdigit := Nat.isDigit_of_mem_toDigits (by decide) (by decide) hnewline
    contradiction
  have hblanks : '\n' ∉ List.replicate (4 - (Nat.toDigits 10 number).length) ' ' :=
    fun hnewline => nomatch List.eq_of_mem_replicate hnewline
  have hblank : '\n' ≠ ' ' := by decide
  simp only [printedRow, List.mem_cons, List.mem_append, not_or]
  exact ⟨hmark, ⟨hblanks, hdigits⟩, hblank, hrow⟩

theorem toList_lineLabel (number : Nat) :
    (Session.lineLabel number).toList =
      List.replicate (4 - (Nat.toDigits 10 number).length) ' ' ++ Nat.toDigits 10 number := by
  rw [Session.lineLabel, String.toList_append, String.toList_ofList, Nat.toString_eq_repr,
    Nat.toList_repr, ← String.length_toList, Nat.toList_repr]

namespace Buffer

def printedRows (buffer : Buffer) : List (List Char) :=
  buffer.rows.mapIdx fun index row =>
    printedRow (index = buffer.cursor.row) (index + 1) row

theorem getElem?_printedRows (buffer : Buffer) (index : Nat) :
    buffer.printedRows[index]? =
      buffer.rows[index]?.map (printedRow (index = buffer.cursor.row) (index + 1)) :=
  List.getElem?_mapIdx

theorem WellFormed.newline_notMem_printedRows {buffer : Buffer} (hwell : buffer.WellFormed) :
    ∀ line ∈ buffer.printedRows, '\n' ∉ line := by
  intro line hline
  obtain ⟨index, hindex, rfl⟩ := List.mem_mapIdx.mp hline
  exact newline_notMem_printedRow _ _ (hwell.newline_notMem _ (List.getElem_mem hindex))

theorem WellFormed.marked_iff {buffer : Buffer} (hwell : buffer.WellFormed) (index : Nat) :
    (∃ line, buffer.printedRows[index]? = some line ∧ line.head? = some '>') ↔
      index = buffer.cursor.row := by
  constructor
  · rintro ⟨line, hline, hmark⟩
    rw [getElem?_printedRows, Option.map_eq_some_iff] at hline
    obtain ⟨row, -, rfl⟩ := hline
    exact of_decide_eq_true ((head?_printedRow _ _ _).mp hmark)
  · rintro rfl
    refine ⟨_, ?_, (head?_printedRow true (buffer.cursor.row + 1) buffer.currentRow).mpr rfl⟩
    have hrow : buffer.rows[buffer.cursor.row]? = some buffer.currentRow := by
      rw [currentRow, List.getD_eq_getElem?_getD, List.getElem?_eq_getElem hwell.row_lt,
        Option.getD_some]
    rw [getElem?_printedRows, hrow, decide_eq_true rfl]
    rfl

theorem rows_eq_of_printedRows_eq {buffer other : Buffer}
    (hprinted : buffer.printedRows = other.printedRows) : buffer.rows = other.rows := by
  apply List.ext_getElem?
  intro index
  have hline := congrArg (·[index]?) hprinted
  simp only [getElem?_printedRows] at hline
  cases hrow : buffer.rows[index]? with
  | none =>
      rw [hrow, Option.map_none] at hline
      exact (Option.map_eq_none_iff.mp hline.symm).symm
  | some row =>
      rw [hrow, Option.map_some] at hline
      obtain ⟨others, hothers, hsame⟩ := Option.map_eq_some_iff.mp hline.symm
      rw [hothers, (printedRow_inj.mp hsame).2]

end Buffer

theorem Session.map_toList_listing (session : Session) :
    session.listing.map String.toList = session.editor.printedRows := by
  apply List.ext_getElem?
  intro index
  rw [List.getElem?_map, listing, List.getElem?_mapIdx, Option.map_map,
    Buffer.getElem?_printedRows]
  congr 1
  funext row
  simp only [Function.comp_apply, String.toList_append, toList_lineLabel, String.toList_ofList]
  by_cases hmarked : index = session.editor.cursor.row <;> simp [printedRow, hmarked]

namespace Run

variable (run : Run)

theorem takeLine_print :
    run.takeLine "/print" =
      (run, String.join (run.session.listing.map fun line => line ++ "\n"), false) := by
  have hslash : trim isBlank "/print".toList = '/' :: "print".toList := by decide
  have hname : Command.ofName (.ofList "print".toList) = .print := by decide +kernel
  rw [takeLine, Session.takeLine_of_slash _ hslash, hname]
  simp only [Session.obey, List.map_map]
  rfl

theorem splitWhere_print (hwell : run.session.editor.WellFormed) :
    splitWhere isNewline (run.takeLine "/print").2.1.toList =
      run.session.editor.printedRows ++ [[]] := by
  have htold : (run.takeLine "/print").2.1.toList =
      run.session.editor.printedRows.flatMap fun line => line ++ ['\n'] := by
    rw [takeLine_print, String.toList_join, ← Session.map_toList_listing, List.flatMap_map,
      List.flatMap_map]
    simp only [String.toList_append]
    rfl
  rw [htold]
  apply splitWhere_flatMap_closed rfl
  intro line hline c hc
  rw [isNewline_eq_false_iff]
  rintro rfl
  exact hwell.newline_notMem_printedRows line hline hc

end Run

/-- Printing shows all of a document: its rows with their numbers and the row of the cursor.
It changes nothing. -/
theorem print_shows_document :
    (∀ first second : Run, first.session.editor.WellFormed → second.session.editor.WellFormed →
      (first.takeLine "/print").2.1 = (second.takeLine "/print").2.1 →
      first.session.editor.rows = second.session.editor.rows ∧
        first.session.editor.cursor.row = second.session.editor.cursor.row) ∧
    ∀ run : Run, run.session.editor.WellFormed →
      let buffer := run.session.editor
      (∃ lines, splitWhere isNewline (run.takeLine "/print").2.1.toList = lines ++ [[]] ∧
        lines.length = buffer.rows.length ∧
        (∀ index row, buffer.rows[index]? = some row →
          lines[index]? = some (printedRow (index = buffer.cursor.row) (index + 1) row)) ∧
        ∀ index, (∃ line, lines[index]? = some line ∧ line.head? = some '>') ↔
          index = buffer.cursor.row) ∧
      (run.takeLine "/print").1 = run ∧ (run.takeLine "/print").2.2 = false := by
  constructor
  · intro first second hfirst hsecond htold
    have hcut := congrArg (splitWhere isNewline ·.toList) htold
    simp only [Run.splitWhere_print _ hfirst, Run.splitWhere_print _ hsecond] at hcut
    have hprinted := List.append_cancel_right hcut
    refine ⟨Buffer.rows_eq_of_printedRows_eq hprinted, ?_⟩
    rw [← hsecond.marked_iff, ← hprinted, hfirst.marked_iff]
  · intro run hwell buffer
    refine ⟨⟨buffer.printedRows, run.splitWhere_print hwell, ?_, ?_, hwell.marked_iff⟩, ?_⟩
    · exact List.length_mapIdx
    · intro index row hrow
      rw [Buffer.getElem?_printedRows, hrow, Option.map_some]
    · rw [run.takeLine_print]
      exact ⟨rfl, rfl⟩

theorem print_shows_document_marks_in_rows :
    let rows := ["> 1 x".toList, []]
    let run (cursor : Cursor) : Run :=
      ⟨(Log.Filter.ofText "debug").1, Session.start (.ofVocabulary .empty) ⟨rows, cursor⟩⟩
    (run ⟨0, 1⟩).session.editor.WellFormed ∧ (run ⟨0, 5⟩).session.editor.WellFormed ∧
      ((run ⟨0, 1⟩).takeLine "/print").2.1 = ((run ⟨0, 5⟩).takeLine "/print").2.1 ∧
      (run ⟨0, 1⟩).session.editor.cursor.row = (run ⟨0, 5⟩).session.editor.cursor.row ∧
      ∃ lines, splitWhere isNewline ((run ⟨0, 1⟩).takeLine "/print").2.1.toList = lines ++ [[]] ∧
        lines[0]? = some ">   1 > 1 x".toList ∧ lines[1]? = some "    2 ".toList := by
  intro rows run
  have hwell (column : Nat) (hcolumn : column ≤ 5) :
      (run ⟨0, column⟩).session.editor.WellFormed := by
    have hrows : ∀ row ∈ rows, '\n' ∉ row := by decide
    refine ⟨hrows, Nat.zero_lt_two, ?_⟩
    intro row hrow
    obtain rfl : "> 1 x".toList = row := Option.some.inj hrow
    exact hcolumn
  have hsame : ((run ⟨0, 1⟩).takeLine "/print").2.1 = ((run ⟨0, 5⟩).takeLine "/print").2.1 := by
    rw [Run.takeLine_print, Run.takeLine_print]
    rfl
  obtain ⟨hfaithful, hshown⟩ := print_shows_document
  obtain ⟨⟨lines, hcut, -, hrows, -⟩, -⟩ := hshown (run ⟨0, 1⟩) (hwell 1 (by decide))
  refine ⟨hwell 1 (by decide), hwell 5 (by decide), hsame,
    (hfaithful _ _ (hwell 1 (by decide)) (hwell 5 (by decide)) hsame).2, lines, hcut, ?_, ?_⟩
  · exact (hrows 0 _ rfl).trans (by decide)
  · exact (hrows 1 _ rfl).trans (by decide)

end VoiceCursor
