/-!
# Shortest decimals of doubles

A finite double is an integer times a power of two. The reals that round to it
form an interval around it, and among the decimals in that interval one with
the fewest digits is chosen, the nearest to the double when there are two. All
arithmetic is on natural numbers, so nothing here depends on a floating-point
unit.
-/

namespace LspGateway.Decimal

/-- A finite magnitude `mantissa * 2 ^ exponent`. -/
structure Binary where
  /-- The integer factor. -/
  mantissa : Nat
  /-- The power of two. -/
  exponent : Int
  /-- Whether the neighbour below is only half as far away as the one above. -/
  lowerHalf : Bool
  deriving DecidableEq, Repr

/-- A decimal magnitude `digits * 10 ^ exponent`. -/
structure Scaled where
  /-- The integer factor. -/
  digits : Nat
  /-- The power of ten. -/
  exponent : Int
  deriving DecidableEq, Repr

/-- The magnitude that the lower 63 bits of a double stand for; `none` for
infinities and NaN. -/
def Binary.ofBits? (bits : UInt64) : Option Binary :=
  let fraction := (bits &&& 0x000FFFFFFFFFFFFF).toNat
  let biased := ((bits >>> 52) &&& 0x7FF).toNat
  if biased == 0x7FF then none
  else if biased == 0 then some ⟨fraction, -1074, false⟩
  else some ⟨fraction + 0x10000000000000, (biased : Int) - 1075, fraction == 0 && 1 < biased⟩

/-- A nonnegative rational, as numerator and denominator. -/
structure Ratio where
  /-- The numerator. -/
  num : Nat
  /-- The denominator, positive in every use. -/
  den : Nat

/-- Order of two nonnegative rationals, by cross multiplication. -/
def Ratio.le (a b : Ratio) : Bool :=
  a.num * b.den ≤ b.num * a.den

/-- Strict order of two nonnegative rationals. -/
def Ratio.lt (a b : Ratio) : Bool :=
  a.num * b.den < b.num * a.den

/-- An integer times a power of a base, as a ratio. -/
def Ratio.ofPower (factor base : Nat) : Int → Ratio
  | .ofNat n => ⟨factor * Nat.pow base n, 1⟩
  | .negSucc n => ⟨factor, Nat.pow base (n + 1)⟩

/-- The distance between two nonnegative rationals. -/
def Ratio.distance (a b : Ratio) : Ratio :=
  let left := a.num * b.den
  let right := b.num * a.den
  ⟨(left - right) + (right - left), a.den * b.den⟩

/-- The reals that round to a double: between two midpoints, the ends belonging
to it when its mantissa is even. -/
structure Rounding where
  /-- The midpoint below. -/
  low : Ratio
  /-- The midpoint above. -/
  high : Ratio
  /-- Whether the midpoints round to the double themselves. -/
  closed : Bool

/-- The rounding interval of a magnitude. -/
def Binary.rounding (b : Binary) : Rounding :=
  { low := Ratio.ofPower (4 * b.mantissa - (if b.lowerHalf then 1 else 2)) 2 (b.exponent - 2)
    high := Ratio.ofPower (4 * b.mantissa + 2) 2 (b.exponent - 2)
    closed := b.mantissa % 2 == 0 }

/-- Whether a rational rounds to the double of the interval. -/
def Rounding.admits (r : Rounding) (x : Ratio) : Bool :=
  if r.closed then r.low.le x && x.le r.high else r.low.lt x && x.lt r.high

/-- The two neighbours of a magnitude on the grid of multiples of
`10 ^ exponent`, those kept that read back as the magnitude, the nearer one
first chosen. -/
def Binary.onGrid? (b : Binary) (exponent : Int) : Option Scaled :=
  let value := Ratio.ofPower b.mantissa 2 b.exponent
  let unit := Ratio.ofPower 1 10 exponent
  let below := (value.num * unit.den) / (value.den * unit.num)
  let candidate (digits : Nat) : Option (Nat × Ratio) :=
    let x := Ratio.ofPower digits 10 exponent
    if 0 < digits && b.rounding.admits x then some (digits, value.distance x) else none
  match candidate below, candidate (below + 1) with
  | some (d, near), some (d', far) => some ⟨if near.le far then d else d', exponent⟩
  | some (d, _), none => some ⟨d, exponent⟩
  | none, some (d', _) => some ⟨d', exponent⟩
  | none, none => none

/-- The number of decimal digits of a positive number. -/
def digitCount (n : Nat) : Nat :=
  (Nat.toDigits 10 n).length

/-- An upper bound for the power of ten of the first digit of a magnitude. -/
def Binary.leading (b : Binary) : Int :=
  let value := Ratio.ofPower b.mantissa 2 b.exponent
  (digitCount value.num : Int) - (digitCount value.den : Int)

/-- The coarsest grid, from `exponent` downwards, that holds a decimal reading
back as the magnitude. -/
def Binary.search (b : Binary) : Nat → Int → Scaled
  | 0, exponent => ⟨0, exponent⟩
  | fuel + 1, exponent =>
    match b.onGrid? exponent with
    | some s => s
    | none => b.search fuel (exponent - 1)

/-- The shortest decimal of a positive finite magnitude. Nineteen grids below
the leading digit always suffice, since seventeen digits tell any two doubles
apart. -/
def Binary.shortest (b : Binary) : Scaled :=
  b.search 22 (b.leading + 1)

/-- How a decimal is laid out: from which to which power of ten of the first
digit the point is written positionally, and how a positive exponent is
introduced. -/
structure Layout where
  /-- Least power of ten of the first digit that is written positionally. -/
  lowest : Int
  /-- Greatest power of ten of the first digit that is written positionally. -/
  highest : Int
  /-- What stands before a nonnegative exponent. -/
  positiveSign : List Char

/-- The characters of a scaled decimal under a layout. Positional numbers have
a digit on both sides of the point; exponents have no leading zeros. -/
def Scaled.chars (s : Scaled) (layout : Layout) : List Char :=
  let digits := Nat.toDigits 10 s.digits
  let first : Int := s.exponent + digits.length - 1
  if layout.lowest ≤ first && first ≤ layout.highest then
    if first < 0 then
      '0' :: '.' :: (List.replicate (-first - 1).toNat '0' ++ digits)
    else
      let whole := digits.take (first.toNat + 1)
      let padding := List.replicate (first.toNat + 1 - digits.length) '0'
      let fraction := digits.drop (first.toNat + 1)
      whole ++ padding ++ '.' :: (if fraction.isEmpty then ['0'] else fraction)
  else
    let tail := digits.drop 1
    digits.take 1 ++ (if tail.isEmpty then [] else '.' :: tail) ++
      'e' :: (if first < 0 then ['-'] else layout.positiveSign) ++ Nat.toDigits 10 first.natAbs

end LspGateway.Decimal
