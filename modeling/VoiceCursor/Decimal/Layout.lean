import VoiceCursor.Decimal.Shortest

namespace VoiceCursor.Decimal

/-! How a double is written: its shortest digits, positionally or with an
exponent. -/

structure Layout where
  /-- Which numbers are written in full, told by the place of the first digit as a
  power of ten. -/
  inFull : Int → Bool
  tie : Tie

/-- A point stands among, before or behind the digits, with zeros to fill the gap
and at least one digit on either side. -/
def positional (digits : List Char) (exponent : Int) : List Char :=
  if 0 ≤ exponent then digits ++ List.replicate exponent.toNat '0' ++ ['.', '0']
  else
    let places := (-exponent).toNat
    if places < digits.length then
      digits.take (digits.length - places) ++ ['.'] ++
        digits.drop (digits.length - places)
    else ['0', '.'] ++ List.replicate (places - digits.length) '0' ++ digits

/-- The exponent always has a sign. -/
def scientific (digits : List Char) (leading : Int) : List Char :=
  let point := if digits.length > 1 then ['.'] else []
  let sign := if leading < 0 then '-' else '+'
  digits.take 1 ++ point ++ digits.drop 1 ++ ['e', sign] ++
    Nat.toDigits 10 leading.natAbs

def Layout.writeDecimal (layout : Layout) (decimal : Decimal) : List Char :=
  let digits := Nat.toDigits 10 decimal.digits
  let leading := decimal.exponent + digits.length - 1
  if layout.inFull leading then positional digits decimal.exponent
  else scientific digits leading

/-- Writes a double. What is not a number has no sign. -/
def Layout.write (layout : Layout) (value : Float) : String :=
  let bits := value.toBits
  let sign := if bits.toNat / Nat.pow 2 63 = 1 then "-" else ""
  if value.isNaN then "NaN"
  else if value.isInf then sign ++ "inf"
  else
    let binary := Binary.ofBits bits
    if binary.mantissa = 0 then sign ++ "0.0"
    else sign ++ String.ofList (layout.writeDecimal (binary.shortest layout.tie))

def Layout.plain : Layout := ⟨fun _ => true, .toLarger⟩

/-- An exponent for numbers below a hundred thousandth and from ten to the sixteenth
on. -/
def Layout.compact : Layout := ⟨fun leading => -5 ≤ leading && leading ≤ 15, .toEven⟩

end VoiceCursor.Decimal
