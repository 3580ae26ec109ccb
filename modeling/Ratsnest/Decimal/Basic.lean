import Ratsnest.Decimal.Binary64

/-!
# Decimal numbers

A decimal is a sign, a natural number and a power of ten.
-/

namespace Ratsnest

/-- The number `± digits * 10 ^ exponent`. -/
structure Decimal where
  negative : Bool
  digits : Nat
  exponent : Int
  deriving DecidableEq, Repr

namespace Decimal

/-- The decimal digits of `n`, the first one first. -/
def digitChars (n : Nat) : List Char := Nat.toDigits 10 n

/-- How many decimal digits `n` is written with. -/
def digitCount (n : Nat) : Nat := (digitChars n).length

/-- The exponent of the leading digit: `d` is its first digit times `10 ^ d.leading`, and less
than one more. -/
def leading (d : Decimal) : Int := d.exponent + digitCount d.digits - 1

/-- `10 ^ e` as a numerator and a denominator. -/
def tenPower (e : Int) : Nat × Nat :=
  if 0 ≤ e then (Nat.pow 10 e.toNat, 1) else (1, Nat.pow 10 (-e).toNat)

end Decimal

end Ratsnest
