namespace VoiceCursor.Text

/-! Places in a text, counted in bytes of its UTF-8 form. -/

/-- A line, counted from one, and the bytes of it that come before the place. -/
structure Position where
  line : Nat
  column : Nat
  deriving DecidableEq, Repr

/-- The place a number of bytes further on, or the end of the text if that comes
first. -/
def Position.advance (position : Position) : List Char → Nat → Position
  | [], _ => position
  | c :: rest, bytes =>
      if bytes = 0 then position
      else if c = '\n' then advance ⟨position.line + 1, 0⟩ rest (bytes - 1)
      else
        advance ⟨position.line, position.column + min bytes c.utf8Size⟩ rest
          (bytes - c.utf8Size)

def positionAfter (text : List Char) (bytes : Nat) : Position :=
  Position.advance ⟨1, 0⟩ text bytes

def byteLength : List Char → Nat
  | [] => 0
  | c :: rest => c.utf8Size + byteLength rest

/-- The characters that start within the first bytes of a text. -/
def takeBytes (bytes : Nat) : List Char → List Char
  | [] => []
  | c :: rest => if bytes = 0 then [] else c :: takeBytes (bytes - c.utf8Size) rest

def dropBytes (bytes : Nat) : List Char → List Char
  | [] => []
  | c :: rest => if bytes = 0 then c :: rest else dropBytes (bytes - c.utf8Size) rest

end VoiceCursor.Text
