import VoiceCursor.Table

namespace VoiceCursor

/-! Spoken numbers: digits, or words listed in a table. -/

abbrev NumberTable := Table Nat

/-- The largest number; every larger one counts as this one. -/
def largestNumber : Nat := Nat.pow 2 64 - 1

def isDigitRun (word : String) : Bool :=
  !word.toList.isEmpty && word.toList.all Char.isDigit

def digitValue (digit : Char) : Nat := digit.toNat - '0'.toNat

def readDecimal (digits : List Char) : Nat :=
  digits.foldl (fun value digit => min (10 * value + digitValue digit) largestNumber) 0

/-- The value of a word of digits, which may follow a plus sign. Any other word
has the largest number for its value. -/
def cappedValue (word : String) : Nat :=
  let digits :=
    match word.toList with
    | '+' :: rest => rest
    | chars => chars
  if !digits.isEmpty && digits.all Char.isDigit then readDecimal digits
  else largestNumber

/-- The number that a word stands for. Digits never need the table. -/
def NumberTable.number? (table : NumberTable) (word : String) : Option Nat :=
  if isDigitRun word then some (cappedValue word) else table.lookup? word

end VoiceCursor
