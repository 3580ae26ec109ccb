import Ratsnest.Decimal.Binary64
import Ratsnest.Scalar

/-!
# Floating-point scalars

64-bit floating-point numbers as scalars.  An operand that is not a number never wins a minimum
or a maximum; of equal operands the first is taken.  The remainder of an angle is computed on the
exact value, so it is free of rounding up to the last addition.
-/

namespace Ratsnest

namespace FloatScalar

/-- The smaller operand; the other one if either is not a number. -/
def least (x y : Float) : Float :=
  if x.isNaN then y else if y < x then y else x

/-- The greater operand; the other one if either is not a number. -/
def greatest (x y : Float) : Float :=
  if x.isNaN then y else if x < y then y else x

/-- The greatest finite number. -/
def top : Float := Binary64.ofBits false (Binary64.infinityBits - 1)

/-- The least finite number. -/
def bottom : Float := Binary64.ofBits true (Binary64.infinityBits - 1)

/-- What is left of `x` after taking off as many whole multiples of `m` units as fit in it, with
the sign of `x`.  The result needs no rounding: it is a multiple of the last place of `x`. -/
def truncatedRemainder (m : Nat) (x : Float) : Float :=
  let units := Binary64.units (Binary64.magnitudeBits x)
  Binary64.ofBits (Binary64.negative x) (Binary64.nearestBits (units % m) 1)

/-- The remainder of an angle by 360 degrees. -/
def turnRemainder (x : Float) : Float :=
  if x.isFinite then
    let r := truncatedRemainder (360 * Binary64.unitsPerOne) x
    if r < 0 then r + 360 else r
  else 0 / 0

/-- Degrees to radians. -/
def radians (x : Float) : Float := x * (3.141592653589793 / 180)

/-- Radians to degrees. -/
def degrees (x : Float) : Float := x * 57.29577951308232

end FloatScalar

open FloatScalar in
instance : Scalar Float where
  zero := 0
  one := 1
  natCast := Float.ofNat
  min := least
  max := greatest
  decideLT := fun x y => inferInstanceAs (Decidable (x < y))
  decideLE := fun x y => inferInstanceAs (Decidable (x ≤ y))
  magnitude := Float.abs
  finite := Float.isFinite
  capAbove := least top
  capBelow := greatest bottom
  turnRemainder := turnRemainder

open FloatScalar in
instance : AngularScalar Float where
  sqrt := Float.sqrt
  sin x := Float.sin (radians x)
  cos x := Float.cos (radians x)
  atan2 y x := degrees (Float.atan2 y x)

end Ratsnest
