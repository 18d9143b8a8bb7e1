import VoiceCursor.Json.Failure
import VoiceCursor.SpokenNumber

namespace VoiceCursor.Json

/-! Numbers of a JSON document: the parts in which they are written, and their
values. A number without fraction and exponent is an integer when it fits sixty-four
bits, with or without a sign; any other is a double. -/

structure Numeral where
  negative : Bool
  whole : List Char
  fraction : List Char
  hasFraction : Bool
  exponentNegative : Bool
  exponent : List Char
  hasExponent : Bool

inductive NumberValue where
  | natural (value : Nat)
  /-- The opposite of a number from one on. -/
  | negative (value : Nat)
  | float (value : Float)

namespace Numeral

def empty : Numeral := ⟨false, [], [], false, false, [], false⟩

/-- Reads digits behind those already read while the result is a number of
sixty-four bits, and tells how many digits were read. -/
def significand (start : Nat) : List Char → Nat × Nat
  | [] => (start, 0)
  | digit :: rest =>
      let next := 10 * start + digitValue digit
      if next > largestNumber then (start, 0)
      else
        let (value, count) := significand next rest
        (value, count + 1)

/-- The leading digits that count, and the power of ten that they are multiplied
by. Digits of the whole part that do not count are made up for by the power;
digits of the fraction are then still read as long as they fit. -/
def parts (numeral : Numeral) : Nat × Int :=
  let (whole, wholeCount) := significand 0 numeral.whole
  let (value, count) := significand whole numeral.fraction
  (value, Int.ofNat (numeral.whole.length - wholeCount) - Int.ofNat count)

def exponentValue (digits : List Char) : Nat :=
  digits.foldl (fun value digit => 10 * value + digitValue digit) 0

def largestExponent : Nat := Nat.pow 2 31 - 1

/-- Whether the exponent is too large for any double, which only a zero outlives. -/
def overflows (numeral : Numeral) : Bool :=
  exponentValue numeral.exponent > largestExponent &&
    !numeral.exponentNegative && numeral.parts.1 ≠ 0

def powerOfTen (exponent : Nat) : Float := Float.ofScientific 1 false exponent

/-- Divides by a power of ten, in steps when the power is no double. -/
def shrink (value : Float) (exponent : Nat) : Float :=
  if exponent ≤ 308 then value / powerOfTen exponent
  else if value == 0 then value
  else shrink (value / powerOfTen 308) (exponent - 308)
termination_by exponent

/-- The double `value * 10 ^ exponent`, rounded at each step. -/
def scale (value : Float) : Int → Option Float
  | .ofNat exponent =>
      if exponent ≤ 308 then
        let scaled := value * powerOfTen exponent
        if scaled.isInf then none else some scaled
      else if value == 0 then some value
      else none
  | .negSucc exponent => some (shrink value (exponent + 1))

def float (numeral : Numeral) : Except Problem Float :=
  let (value, power) := numeral.parts
  let exponent := exponentValue numeral.exponent
  let shift : Int :=
    if numeral.exponentNegative then power - exponent else power + exponent
  let magnitude : Option Float :=
    if exponent > largestExponent then some 0
    else scale value.toUInt64.toFloat shift
  match magnitude with
  | none => .error .numberOutOfRange
  | some magnitude => .ok (if numeral.negative then -magnitude else magnitude)

def value (numeral : Numeral) : Except Problem NumberValue :=
  let (digits, count) := significand 0 numeral.whole
  if numeral.hasFraction || numeral.hasExponent || count < numeral.whole.length then
    numeral.float.map .float
  else if !numeral.negative then .ok (.natural digits)
  else if digits = 0 || digits > Nat.pow 2 63 then
    .ok (.float (-digits.toUInt64.toFloat))
  else .ok (.negative digits)

end Numeral

end VoiceCursor.Json
