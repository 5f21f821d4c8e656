/-!
# Unsigned numbers

Numbers of a bounded size, written in decimal digits with an optional plus sign.
They are read from left to right, and the first fault counts: a character that is
no digit before a later overflow, an overflow before a later character.
-/

namespace LspGateway.Text

/-- Why a text is no unsigned number. -/
inductive UnsignedFault where
  /-- There is no text. -/
  | empty
  /-- Something is no digit. -/
  | invalidDigit
  /-- The number is too large. -/
  | tooLarge
  deriving DecidableEq, Repr

/-- The wording of a fault. -/
def UnsignedFault.message : UnsignedFault → String
  | .empty => "cannot parse integer from empty string"
  | .invalidDigit => "invalid digit found in string"
  | .tooLarge => "number too large to fit in target type"

/-- The greatest number of 64 bits, `2 ^ 64 - 1`. -/
def maxWord : Nat := 0xFFFFFFFFFFFFFFFF

/-- Reads digits behind those that make up the number given. -/
def readDigits (max : Nat) : Nat → List Char → Except UnsignedFault Nat
  | value, [] => .ok value
  | value, c :: rest =>
    if !c.isDigit then .error .invalidDigit
    else
      let next := value * 10 + (c.toNat - '0'.toNat)
      if max < next then .error .tooLarge else readDigits max next rest

/-- Reads an unsigned number that is at most `max`. -/
def readUnsigned (max : Nat) (text : String) : Except UnsignedFault Nat :=
  match text.toList with
  | [] => .error .empty
  | ['+'] => .error .invalidDigit
  | '+' :: digits => readDigits max 0 digits
  | digits => readDigits max 0 digits

/-- What is read is within the bound. -/
theorem readDigits_le {max value n : Nat} {digits : List Char} (hv : value ≤ max)
    (h : readDigits max value digits = .ok n) : n ≤ max := by
  induction digits generalizing value with
  | nil =>
    simp only [readDigits, Except.ok.injEq] at h
    omega
  | cons c rest ih =>
    simp only [readDigits] at h
    split at h
    · cases h
    · split at h
      · cases h
      · exact ih (by omega) h

end LspGateway.Text
