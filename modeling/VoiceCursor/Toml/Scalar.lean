import VoiceCursor.SpokenNumber
import VoiceCursor.Text.Pieces
import VoiceCursor.Toml.Item

namespace VoiceCursor.Toml

open Text

/-! Values that are written without quotes and brackets: truth values, integers,
floats, and points in time. -/

/-- Digits with single underscores between them, less the underscores. -/
def digitGroups? (isDigit : Char → Bool) (text : List Char) : Option (List Char) :=
  let groups := splitWhere (· = '_') text
  if groups.all fun group => !group.isEmpty && group.all isDigit then
    some groups.flatten
  else none

def numeral (base : Nat) (digits : List Char) : Nat :=
  digits.foldl (fun value digit => base * value + (hexDigit? digit).getD 0) 0

/-- Decimal digits that do not start with a zero unless it is the only one. -/
def decimalDigits? (text : List Char) : Option (List Char) :=
  match text with
  | '0' :: _ :: _ => none
  | _ => digitGroups? Char.isDigit text

def splitSign : List Char → Bool × List Char
  | '-' :: rest => (true, rest)
  | '+' :: rest => (false, rest)
  | text => (false, text)

/-- An integer has to fit sixty-four bits with a sign. -/
def signedInteger? (negative : Bool) (magnitude : Nat) : Option Item :=
  if negative then
    if magnitude ≤ Nat.pow 2 63 then some (.integer (-(magnitude : Int))) else none
  else if magnitude < Nat.pow 2 63 then some (.integer magnitude)
  else none

def basedInteger? (base : Nat) (digits : List Char) : Option Item := do
  let valid (digit : Char) : Bool :=
    match hexDigit? digit with
    | some value => value < base
    | none => false
  let digits ← digitGroups? valid digits
  signedInteger? false (numeral base digits)

def integer? (text : List Char) : Option Item :=
  match text with
  | '0' :: 'x' :: digits => basedInteger? 16 digits
  | '0' :: 'o' :: digits => basedInteger? 8 digits
  | '0' :: 'b' :: digits => basedInteger? 2 digits
  | _ => do
      let (negative, unsigned) := splitSign text
      let digits ← decimalDigits? unsigned
      signedInteger? negative (numeral 10 digits)

/-- The double nearest to `digits * 10 ^ exponent`. -/
def decimalFloat (digits : List Char) (exponent : Int) : Float :=
  let mantissa := numeral 10 digits
  if mantissa = 0 then 0
  else if exponent > 400 then 1 / 0
  else if exponent < -400 - digits.length then 0
  else Float.ofScientific mantissa (exponent < 0) exponent.natAbs

/-- A number with a fraction, an exponent or both. One too large for a double is no
value unless it is negative. -/
def decimal? (negative : Bool) (text : List Char) : Option Item := do
  let isMark (c : Char) : Bool := c = 'e' || c = 'E'
  let significand := text.takeWhile fun c => !isMark c
  let tail := text.dropWhile fun c => !isMark c
  let whole := significand.takeWhile (· ≠ '.')
  let point := significand.dropWhile (· ≠ '.')
  if tail.isEmpty && point.isEmpty then none
  let wholeDigits ← decimalDigits? whole
  let fraction ← if point.isEmpty then some [] else digitGroups? Char.isDigit point.tail
  let exponent ←
    if tail.isEmpty then some 0
    else do
      let (below, unsigned) := splitSign tail.tail
      let digits ← digitGroups? Char.isDigit unsigned
      let magnitude : Int := numeral 10 digits
      some (if below then -magnitude else magnitude)
  let value := decimalFloat (wholeDigits ++ fraction) (exponent - fraction.length)
  if negative then some (.float (-value))
  else if value.isInf then none
  else some (.float value)

def float? (text : List Char) : Option Item :=
  let (negative, unsigned) := splitSign text
  if unsigned = ['i', 'n', 'f'] then
    some (.float (if negative then -(1 / 0) else 1 / 0))
  else if unsigned = ['n', 'a', 'n'] then some (.float (0 / 0))
  else decimal? negative unsigned

def field? (digits low high : Nat) (text : List Char) : Option (Nat × List Char) :=
  let front := text.take digits
  let value := numeral 10 front
  if front.length = digits ∧ front.all Char.isDigit ∧ low ≤ value ∧ value ≤ high then
    some (value, text.drop digits)
  else none

def expect? (c : Char) : List Char → Option (List Char)
  | first :: rest => if first = c then some rest else none
  | [] => none

def daysIn (year month : Nat) : Nat :=
  if month = 2 then
    if year % 4 = 0 ∧ (year % 100 ≠ 0 ∨ year % 400 = 0) then 29 else 28
  else if [4, 6, 9, 11].contains month then 30
  else 31

def date? (text : List Char) : Option (List Char) := do
  let (year, rest) ← field? 4 0 9999 text
  let rest ← expect? '-' rest
  let (month, rest) ← field? 2 1 12 rest
  let rest ← expect? '-' rest
  let (_, rest) ← field? 2 1 (daysIn year month) rest
  some rest

def time? (text : List Char) : Option (List Char) := do
  let (_, rest) ← field? 2 0 23 text
  let rest ← expect? ':' rest
  let (_, rest) ← field? 2 0 59 rest
  let rest ← expect? ':' rest
  let (_, rest) ← field? 2 0 60 rest
  match rest with
  | '.' :: digit :: digits =>
      if digit.isDigit then some (digits.dropWhile Char.isDigit) else none
  | _ => some rest

def offset? (text : List Char) : Option (List Char) :=
  match text with
  | 'Z' :: rest | 'z' :: rest => some rest
  | sign :: rest =>
      if sign = '+' ∨ sign = '-' then do
        let (_, rest) ← field? 2 0 23 rest
        let rest ← expect? ':' rest
        let (_, rest) ← field? 2 0 59 rest
        some rest
      else none
  | [] => none

def isComplete (rest : Option (List Char)) : Bool := rest = some []

/-- Whether the text is a date, a time, or both, with an offset if both. -/
def isDatetime (text : List Char) : Bool :=
  isComplete (time? text) ||
    match date? text with
    | some [] => true
    | some (separator :: rest) =>
        (separator = 'T' || separator = 't' || separator = ' ') &&
          match time? rest with
          | some [] => true
          | some rest => isComplete (offset? rest)
          | none => false
    | none => false

def scalar? (text : List Char) : Option Item :=
  if text = ['t', 'r', 'u', 'e'] then some (.boolean true)
  else if text = ['f', 'a', 'l', 's', 'e'] then some (.boolean false)
  else if isDatetime text then some .datetime
  else integer? text <|> float? text

end VoiceCursor.Toml
