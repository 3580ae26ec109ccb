/-!
# Binary floating-point numbers as whole numbers of units

Every finite 64-bit floating-point number is a sign and a whole number of units of `2 ^ -1074`,
the least positive magnitude.  Read this way, comparing, rounding and printing numbers is
arithmetic on natural numbers.

* `roundDiv` rounds a quotient to the nearest whole number, a tie to the even neighbour.
* `units` and `spacing` say what number a bit pattern stands for.
* `nearestBits` is the bit pattern of the number nearest to a quotient.
-/

namespace Ratsnest

/-- The whole number nearest to `n / d`; of two nearest ones, the even one. -/
def roundDiv (n d : Nat) : Nat :=
  let q := n / d
  let r := n % d
  if 2 * r < d then q else if d < 2 * r then q + 1 else q + q % 2

namespace Binary64

/-- The number of significand bits below the leading one. -/
def fractionBits : Nat := 52

/-- The number of bit patterns with one exponent: between two powers of two there are so many
magnitudes. -/
def binade : Nat := Nat.pow 2 fractionBits

/-- One unit is `2 ^ -unitExponent`. -/
def unitExponent : Nat := 1074

/-- How many units make one. -/
def unitsPerOne : Nat := Nat.pow 2 unitExponent

/-- The sign bit alone. -/
def signBit : Nat := Nat.pow 2 63

/-- The bits of an infinite magnitude. -/
def infinityBits : Nat := 0x7FF * binade

/-- The bit pattern without its sign. -/
def magnitudeBits (x : Float) : Nat := x.toBits.toNat % signBit

/-- Whether the sign bit is set. -/
def negative (x : Float) : Bool := x.toBits.toNat / signBit == 1

/-- The distance, in units, from a magnitude to the next one above it. -/
def spacing (bits : Nat) : Nat := Nat.pow 2 (bits / binade - 1)

/-- The magnitude, in units, that the bits stand for. -/
def units (bits : Nat) : Nat :=
  let exponent := bits / binade
  let fraction := bits % binade
  if exponent = 0 then fraction else (binade + fraction) * spacing bits

/-- The bits of the magnitude nearest to `n / d` units, a tie going to the even bit pattern.
The result is at least `infinityBits` when the quotient is beyond the greatest finite magnitude. -/
def nearestBits (n d : Nat) : Nat :=
  let shift := (n / d).log2 - fractionBits
  shift * binade + roundDiv n (d * Nat.pow 2 shift)

/-- The number with the given sign and magnitude bits. -/
def ofBits (negative : Bool) (bits : Nat) : Float :=
  Float.ofBits (UInt64.ofNat (if negative then signBit + bits else bits))

/-- The number nearest to `n`. -/
def ofNat (n : Nat) : Float := ofBits false (nearestBits (n * unitsPerOne) 1)

end Binary64

end Ratsnest
