/-!
# Reading decimal fractions

A decimal fraction stands for the double nearest to it, a tie going to the even
neighbour. The exponent is looked at before anything is computed, so that a short
text cannot ask for a long number.
-/

namespace LspGateway.Decimal

/-- A decimal number: digits, and the power of ten that they are multiplied by. -/
structure Fraction where
  /-- Whether there is a minus sign. -/
  negative : Bool
  /-- The digits as a number. -/
  significand : Nat
  /-- The exponent of ten. -/
  exponent : Int
  deriving DecidableEq, Repr

namespace Fraction

/-- Beyond this many places before the point no double is finite, and beyond as
many behind it none differs from zero. -/
def reach : Nat := 400

/-- The double nearest to a number. -/
def toFloat (fraction : Fraction) : Float :=
  let places : Int := (Nat.toDigits 10 fraction.significand).length + fraction.exponent
  let size : Float :=
    if fraction.significand == 0 || places < -(reach : Int) then 0
    else if (reach : Int) < places then 1.0 / 0.0
    else Float.ofScientific fraction.significand (fraction.exponent < 0) fraction.exponent.natAbs
  if fraction.negative then -size else size

/-- The value of digits behind those that make up the number given. -/
def digitsValue (value : Nat) (digits : List Char) : Nat :=
  digits.foldl (fun value c => value * 10 + (c.toNat - '0'.toNat)) value

/-- Reads a sign; tells whether it is a minus sign. -/
def readSign : List Char → Bool × List Char
  | '-' :: rest => (true, rest)
  | '+' :: rest => (false, rest)
  | rest => (false, rest)

/-- Reads the exponent, from its letter on; without one it is zero. -/
def readExponent? : List Char → Option Int
  | [] => some 0
  | c :: rest =>
    if c != 'e' && c != 'E' then none
    else
      let (negative, digits) := readSign rest
      if digits.isEmpty || !digits.all Char.isDigit then none
      else
        let value : Int := digitsValue 0 digits
        some (if negative then -value else value)

/-- Reads a decimal fraction: an optional sign, digits with an optional point among
them or at one end, and an optional exponent. -/
def read? (text : String) : Option Fraction :=
  let (negative, rest) := readSign text.toList
  let whole := rest.takeWhile Char.isDigit
  let (digits, rest) := match rest.dropWhile Char.isDigit with
    | '.' :: rest => (rest.takeWhile Char.isDigit, rest.dropWhile Char.isDigit)
    | rest => ([], rest)
  if whole.isEmpty && digits.isEmpty then none
  else (readExponent? rest).map fun exponent =>
    ⟨negative, digitsValue (digitsValue 0 whole) digits, exponent - digits.length⟩

end Fraction

end LspGateway.Decimal
