import Ratsnest.Decimal.Numeral

/-!
# Reading numerals

A numeral is read in one pass over its digits and one scaling.  Digits are collected as long as
their value fits 64 bits; a later one counts as a factor of ten before the point and as nothing
behind it.  The value is rounded and then multiplied or divided by a power of ten, which rounds
once more: a number of few digits and a small exponent is read as the nearest floating-point
number, any other one may come out as a neighbour of the nearest.
-/

namespace Ratsnest

/-- Collected digits as a number, and the power of ten to multiply it by. -/
structure Significand where
  value : Nat
  exponent : Int
  deriving DecidableEq, Repr

namespace Significand

/-- The value with one more digit, if it fits 64 bits. -/
def append? (value digit : Nat) : Option Nat :=
  let n := 10 * value + digit
  if n < UInt64.size then some n else none

/-- Collects the digits before the point.  The first one that does not fit, and all behind it,
count as factors of ten. -/
def ofWhole (value : Nat) : List Nat → Significand
  | [] => ⟨value, 0⟩
  | d :: ds =>
    match append? value d with
    | some value => ofWhole value ds
    | none => ⟨value, ds.length + 1⟩

/-- Collects the digits behind the point up to the first one that does not fit. -/
def addFraction (s : Significand) : List Nat → Significand
  | [] => s
  | d :: ds =>
    match append? s.value d with
    | some value => addFraction ⟨value, s.exponent - 1⟩ ds
    | none => s

/-- The greatest power of ten in one scaling. -/
def scaleLimit : Nat := 308

/-- The number nearest to `10 ^ n`. -/
def tenPower (n : Nat) : Float := Binary64.ofNat (Nat.pow 10 n)

/-- The number times `10 ^ e`, if that is within range.  Below the least power of ten the scaling
is done in steps. -/
def scale? (x : Float) (e : Int) : Option Float :=
  if e < 0 then
    if -e ≤ scaleLimit then some (x / tenPower (-e).toNat)
    else if x == 0 then some x
    else scale? (x / tenPower scaleLimit) (e + scaleLimit)
  else if e ≤ scaleLimit then
    let y := x * tenPower e.toNat
    if y.isInf then none else some y
  else if x == 0 then some x
  else none
termination_by (-e).toNat
decreasing_by
  unfold scaleLimit at *
  omega

/-- The number that the digits stand for, if it is within range. -/
def toFloat? (s : Significand) : Option Float := scale? (Binary64.ofNat s.value) s.exponent

end Significand

namespace Numeral

/-- The values of decimal digits. -/
def digitValues (cs : List Char) : List Nat := cs.map fun c => c.toNat - '0'.toNat

/-- The digits that are collected, with the exponent written behind them. -/
def significand (n : Numeral) : Significand :=
  let fraction := if n.places = 0 then [] else paddedDigits n.places n.fraction
  let s := (Significand.ofWhole 0 (digitValues (Decimal.digitChars n.whole))).addFraction
    (digitValues fraction)
  ⟨s.value, s.exponent + n.exponent.getD 0⟩

/-- The number read, if it is within range. -/
def toFloat? (n : Numeral) : Option Float :=
  n.significand.toFloat?.map fun x => if n.negative then -x else x

end Numeral

end Ratsnest
