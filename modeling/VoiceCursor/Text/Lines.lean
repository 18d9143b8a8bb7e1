import VoiceCursor.Text.Pieces

namespace VoiceCursor.Text

/-! Lines of a text that arrives as bytes. -/

/-- A carriage return before the end of a line belongs to the end. -/
def dropCarriageReturn (line : List UInt8) : List UInt8 :=
  if line.getLast? = some 13 then line.dropLast else line

/-- Lines end with a newline each. What follows the last newline is a line too,
unless it is empty. -/
def cutLines (bytes : List UInt8) : List (List UInt8) :=
  let pieces := splitWhere (· = 10) bytes
  let ended := pieces.dropLast.map dropCarriageReturn
  match pieces.getLast? with
  | none | some [] => ended
  | some rest => ended ++ [rest]

def decodeLine? (line : List UInt8) : Option String :=
  String.fromUTF8? ⟨line.toArray⟩

end VoiceCursor.Text
