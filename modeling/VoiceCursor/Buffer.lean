import VoiceCursor.Surface
import VoiceCursor.Text.Pieces

namespace VoiceCursor

open Text

/-! A text document in memory, with a cursor. -/

structure Buffer where
  rows : List (List Char)
  cursor : Cursor
  deriving DecidableEq

def isNewline (c : Char) : Bool := c = '\n'

namespace Buffer

/-- What every buffer satisfies that comes from a text by edits and moves. -/
structure WellFormed (buffer : Buffer) : Prop where
  newline_notMem : ∀ row ∈ buffer.rows, '\n' ∉ row
  row_lt : buffer.cursor.row < buffer.rows.length
  column_le : ∀ row, buffer.rows[buffer.cursor.row]? = some row →
    buffer.cursor.column ≤ row.length

def empty : Buffer := ⟨[[]], ⟨0, 0⟩⟩

/-- The rows of a text. A newline at its end closes the last row and does not
begin another. -/
def rowsOfText (text : List Char) : List (List Char) :=
  let rows := splitWhere isNewline text
  if rows.length > 1 ∧ rows.getLast? = some [] then rows.dropLast else rows

def ofText (text : String) : Buffer := ⟨rowsOfText text.toList, ⟨0, 0⟩⟩

def text (buffer : Buffer) : String := .ofList (joinWith ['\n'] buffer.rows)

def row? (buffer : Buffer) (row : Nat) : Option (List Char) := buffer.rows[row]?

def currentRow (buffer : Buffer) : List Char :=
  buffer.rows.getD buffer.cursor.row []

def lineCount (buffer : Buffer) : Nat := buffer.rows.length

/-- Puts the cursor at the nearest row and column that the document has. -/
def setCursor (buffer : Buffer) (cursor : Cursor) : Buffer :=
  let row := min cursor.row (buffer.rows.length - 1)
  { buffer with
    cursor := ⟨row, min cursor.column (buffer.rows.getD row []).length⟩ }

/-- Inserts a text at the cursor, which ends up behind it. The row of the cursor
gives way to the rows of the text with the parts of that row around it. -/
def insert (buffer : Buffer) (text : List Char) : Buffer :=
  if text.isEmpty then buffer
  else
    let current := buffer.currentRow
    let column := buffer.cursor.column
    let inserted := splitWhere isNewline (current.take column ++ text)
    let lastRow := inserted.getLastD []
    { rows := buffer.rows.take buffer.cursor.row ++
        (inserted.dropLast ++ [lastRow ++ current.drop column]) ++
          buffer.rows.drop (buffer.cursor.row + 1)
      cursor := ⟨buffer.cursor.row + (inserted.length - 1), lastRow.length⟩ }

end Buffer

instance : LineSurface Buffer where
  insert buffer text := buffer.insert text.toList
  lineCount := Buffer.lineCount
  cursor := Buffer.cursor
  setCursor := Buffer.setCursor

end VoiceCursor
