/-!
# Scalars

The numbers that coordinates, lengths and angles are drawn from.  Geometry is written once over
the class `Scalar`, in a fixed order of operations.  With floating-point numbers it is what runs;
with the reals it is what the geometry means.

Angles are in degrees throughout, so a full turn is 360.
-/

namespace Ratsnest

universe u

/-- Ordered numbers with the arithmetic of plane geometry.  Nothing is assumed of the operations
here: rounded numbers are scalars too. -/
class Scalar (α : Type u) extends Zero α, One α, NatCast α, Add α, Sub α, Mul α, Div α, Neg α,
    LT α, LE α, Min α, Max α, BEq α where
  decideLT : DecidableLT α
  decideLE : DecidableLE α
  /-- The absolute value. -/
  magnitude : α → α
  /-- Whether the value is a number, neither overflowed nor undefined. -/
  finite : α → Bool
  /-- The value, or the greatest finite one when it is beyond that. -/
  capAbove : α → α
  /-- The value, or the least finite one when it is beyond that. -/
  capBelow : α → α
  /-- The remainder of an angle by a full turn, from zero up to but not including a turn. -/
  turnRemainder : α → α

instance Scalar.decidableLT {α : Type u} [Scalar α] : DecidableLT α := Scalar.decideLT

instance Scalar.decidableLE {α : Type u} [Scalar α] : DecidableLE α := Scalar.decideLE

/-- Scalars with square roots and the functions that pass between angles and directions. -/
class AngularScalar (α : Type u) extends Scalar α where
  sqrt : α → α
  /-- The sine of an angle in degrees. -/
  sin : α → α
  /-- The cosine of an angle in degrees. -/
  cos : α → α
  /-- The angle in degrees of the direction with ordinate `y` and abscissa `x`. -/
  atan2 (y x : α) : α

namespace Scalar

variable {α : Type u} [Scalar α]

/-- The value moved to the nearer end of `[0, 1]` when it lies outside. -/
def clampUnit (x : α) : α :=
  if x < 0 then 0 else if 1 < x then 1 else x

/-- Whether the value lies in `[0, 1]`. -/
def inUnit (x : α) : Bool := 0 ≤ x && x ≤ 1

/-- Half of a value. -/
def half (x : α) : α := x / ((2 : Nat) : α)

end Scalar

end Ratsnest
