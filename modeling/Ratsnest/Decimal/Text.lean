import Ratsnest.Decimal.Numeral
import Ratsnest.Decimal.Shortest

/-!
# Decimal text

Three ways of writing a floating-point number:

* `exactText` writes the shortest decimal that reads back, positionally for exponents near zero
  and with an exponent otherwise;
* `fixedText` writes a fixed number of decimal places;
* `significantText` writes a fixed number of significant digits with an exponent.

The last two round the exact binary value, a tie to the even digit.
-/

namespace Ratsnest

namespace Decimal

/-- The numeral of the shortest decimal that reads back as a finite number. -/
def exactNumeral (x : Float) : Numeral := .ofDecimal .exact (ofFloat x)

/-- The text of a number that is not finite. -/
def nonFiniteText (nan : String) (x : Float) : String :=
  if x.isNaN then nan else if Binary64.negative x then "-inf" else "inf"

/-- The shortest text that reads back.  A positive exponent has a plus sign. -/
def exactText (x : Float) : String :=
  if x.isFinite then String.ofList ((exactNumeral x).chars ['+']) else nonFiniteText "nan" x

/-- The number rounded to `places` decimal places.  The sign stays on a zero. -/
def fixedText (places : Nat) (x : Float) : String :=
  if x.isFinite then
    let units := Binary64.units (Binary64.magnitudeBits x)
    let scaled := roundDiv (units * Nat.pow 10 places) Binary64.unitsPerOne
    let n : Numeral :=
      ⟨Binary64.negative x, scaled / Nat.pow 10 places, places, scaled % Nat.pow 10 places, none⟩
    String.ofList (n.chars [])
  else nonFiniteText "NaN" x

/-- A positive magnitude rounded to `count` significant digits. -/
def roundSignificant (count : Nat) (negative : Bool) (units : Nat) : Decimal :=
  let last := leadingExponent units - (count - 1 : Nat)
  let (n, d) := tenPower (-last)
  let digits := roundDiv (units * n) (d * Binary64.unitsPerOne)
  if digits = Nat.pow 10 count then ⟨negative, digits / 10, last + 1⟩ else ⟨negative, digits, last⟩

/-- The number rounded to `count` significant digits, with an exponent without plus sign. -/
def significantText (count : Nat) (x : Float) : String :=
  if x.isFinite then
    let units := Binary64.units (Binary64.magnitudeBits x)
    let d := roundSignificant count (Binary64.negative x) units
    if units = 0 then "0" else String.ofList ((Numeral.scientific d).chars [])
  else nonFiniteText "nan" x

/-- Nine significant digits, where magnitudes below a millionth count as zero: for values whose
last digits depend on how angles are computed. -/
def approximateText (x : Float) : String :=
  if x.abs < 1e-6 then "0" else significantText 9 x

end Decimal

end Ratsnest
