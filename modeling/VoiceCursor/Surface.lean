namespace VoiceCursor

/-! What a listener acts on: a place to edit text with a cursor in it, and a place
to show the words of a command in progress. -/

/-- Row and column count from zero, and columns count characters. -/
structure Cursor where
  row : Nat
  column : Nat
  deriving DecidableEq, Repr

class LineSurface (E : Type) where
  insert : E → String → E
  lineCount : E → Nat
  cursor : E → Cursor
  setCursor : E → Cursor → E

class WordSurface (F : Type) where
  put : F → List String → F
  clear : F → F

/-- The line that a jump to `requested` lands on, counted from one, in a document
of `lineCount` lines. -/
def landingLine (lineCount requested : Nat) : Nat :=
  max 1 (min requested (max lineCount 1))

/-- Moves the cursor to the start of a line, and tells which line that was. A
request beyond either end of the document reaches the line at that end. -/
def moveToLine {E : Type} [LineSurface E] (editor : E) (requested : Nat) : E × Nat :=
  let line := landingLine (LineSurface.lineCount editor) requested
  (LineSurface.setCursor editor ⟨line - 1, 0⟩, line)

/-- An editor of which only the number of lines and the cursor are known. It
keeps any cursor, also one outside of its lines. -/
structure Viewport where
  lineCount : Nat
  cursor : Cursor

instance : LineSurface Viewport where
  insert view _ := view
  lineCount view := view.lineCount
  cursor view := view.cursor
  setCursor view cursor := { view with cursor := cursor }

end VoiceCursor
