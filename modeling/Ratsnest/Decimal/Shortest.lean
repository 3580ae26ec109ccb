import Ratsnest.Decimal.Basic

/-!
# The shortest decimal that reads back

Among the decimals that read back as a given floating-point number, `Decimal.ofFloat` takes one
with the fewest digits, and of those the one nearest to the number.  The search goes down the
powers of ten: on each grid only the two neighbours of the number can lie in the interval of
reals that round to it, so the first grid with such a neighbour has the fewest digits.
-/

namespace Ratsnest

namespace Decimal

/-- A magnitude with the interval of reals that round to it, all in quarters of a unit.  The ends
belong to the interval exactly when the bit pattern is even. -/
structure RoundingInterval where
  value : Nat
  low : Nat
  high : Nat
  closed : Bool

/-- The rounding interval of a positive finite magnitude.  Just above a power of two the numbers
below lie twice as close as those above. -/
def RoundingInterval.ofBits (bits : Nat) : RoundingInterval :=
  let value := 4 * Binary64.units bits
  let half := 2 * Binary64.spacing bits
  let atPower := bits % Binary64.binade = 0 ∧ Binary64.binade < bits
  { value := value
    low := value - if atPower then half / 2 else half
    high := value + half
    closed := bits % 2 == 0 }

/-- Whether `n / d` quarters of a unit lie in the interval. -/
def RoundingInterval.contains (i : RoundingInterval) (n d : Nat) : Bool :=
  if i.closed then i.low * d ≤ n && n ≤ i.high * d else i.low * d < n && n < i.high * d

/-- The neighbour of the magnitude on the grid of multiples of `10 ^ e` that reads back, if one
does; the nearer one if both do, and of two equally near ones the even one. -/
def RoundingInterval.gridPoint? (i : RoundingInterval) (e : Int) : Option Nat :=
  let (n, d) := tenPower e
  let step := n * (4 * Binary64.unitsPerOne)
  let below := i.value * d / step
  let rest := i.value * d % step
  let belowFits := below ≠ 0 ∧ i.contains (below * step) d = true
  let aboveFits := i.contains ((below + 1) * step) d = true
  if belowFits ∧ aboveFits then
    some (if 2 * rest < step ∨ 2 * rest = step ∧ below % 2 = 0 then below else below + 1)
  else if belowFits then some below
  else if aboveFits then some (below + 1)
  else none

/-- Whether `10 ^ e` is at most the magnitude of `units` units. -/
def powerLE (e : Int) (units : Nat) : Bool :=
  let (n, d) := tenPower e
  n * Binary64.unitsPerOne ≤ units * d

/-- The exponent of the leading decimal digit of a positive magnitude. -/
def leadingExponent (units : Nat) : Int :=
  let guess := (((units.log2 : Int) - Binary64.unitExponent) * 30103).fdiv 100000
  if powerLE (guess + 1) units then guess + 1
  else if powerLE guess units then guess
  else guess - 1

/-- The shortest decimal that reads back as a finite number, with no sign lost on zero.  Seventeen
digits suffice for every number; were they not to, the answer is its exact value. -/
def ofFloat (x : Float) : Decimal :=
  let bits := Binary64.magnitudeBits x
  let negative := Binary64.negative x
  if bits = 0 then ⟨negative, 0, 0⟩
  else
    let units := Binary64.units bits
    let top := leadingExponent units + 1
    let grids := (List.range 19).map fun (i : Nat) => top - i
    match grids.findSome? fun e => (RoundingInterval.ofBits bits |>.gridPoint? e).map (·, e) with
    | some (digits, e) => ⟨negative, digits, e⟩
    | none => ⟨negative, units * Nat.pow 5 Binary64.unitExponent, -Binary64.unitExponent⟩

end Decimal

end Ratsnest
