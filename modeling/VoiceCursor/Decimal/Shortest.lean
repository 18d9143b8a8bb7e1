namespace VoiceCursor

/-! The shortest decimal that reads back as a given double.

A finite double other than zero is `mantissa * 2 ^ exponent`. The reals that round
to it form an interval, whose ends belong to it when the mantissa is even. Of the
decimal grids `10 ^ k` the coarsest that meets the interval gives the fewest
digits, and the point of it nearest to the double is taken. Of two points equally near
either may be asked for. -/

/-- `digits * 10 ^ exponent`. -/
structure Decimal where
  digits : Nat
  exponent : Int
  deriving DecidableEq, Repr

/-- `mantissa * 2 ^ exponent`. -/
structure Binary where
  mantissa : Nat
  exponent : Int
  deriving DecidableEq, Repr

inductive Tie where
  | toEven
  | toLarger
  deriving DecidableEq, Repr

def Tie.takesBelow (tie : Tie) (below : Nat) : Bool :=
  match tie with
  | .toEven => below % 2 = 0
  | .toLarger => false

def Binary.ofBits (bits : UInt64) : Binary :=
  let fraction : Nat := bits.toNat % Nat.pow 2 52
  let biased : Nat := bits.toNat / Nat.pow 2 52 % Nat.pow 2 11
  if biased = 0 then ⟨fraction, -1074⟩
  else ⟨fraction + Nat.pow 2 52, Int.ofNat biased - 1075⟩

/-- The fraction `factor * 2 ^ shift / 10 ^ grid` as numerator and denominator. -/
def inGrid (factor : Nat) (shift grid : Int) : Nat × Nat :=
  (factor * Nat.pow 2 shift.toNat * Nat.pow 10 (-grid).toNat,
    Nat.pow 2 (-shift).toNat * Nat.pow 10 grid.toNat)

/-- The point of the grid `10 ^ grid` that is nearest to the double among those
that read back as it. -/
def Binary.nearest? (value : Binary) (tie : Tie) (grid : Int) : Option Decimal :=
  let shift := value.exponent - 2
  let atPowerOfTwo := value.mantissa = Nat.pow 2 52 ∧ value.exponent > -1074
  let (middle, unit) := inGrid (4 * value.mantissa) shift grid
  let (low, _) :=
    inGrid (if atPowerOfTwo then 4 * value.mantissa - 1 else 4 * value.mantissa - 2)
      shift grid
  let (high, _) := inGrid (4 * value.mantissa + 2) shift grid
  let reads (digits : Nat) : Bool :=
    let scaled := digits * unit
    0 < digits &&
      if value.mantissa % 2 = 0 then low ≤ scaled && scaled ≤ high
      else low < scaled && scaled < high
  let below := middle / unit
  let above := below + 1
  match reads below, reads above with
  | true, true =>
      let toBelow := middle - below * unit
      let toAbove := above * unit - middle
      if toBelow < toAbove ∨ toBelow = toAbove ∧ tie.takesBelow below then
        some ⟨below, grid⟩
      else some ⟨above, grid⟩
  | true, false => some ⟨below, grid⟩
  | false, true => some ⟨above, grid⟩
  | false, false => none

def Binary.shortest (value : Binary) (tie : Tie) : Decimal :=
  ((List.range 660).findSome? fun step => value.nearest? tie (309 - Int.ofNat step)).getD
    ⟨0, 0⟩

end VoiceCursor
