import Ratsnest.Decimal.Basic

/-!
# Numerals

A number as it is written: a sign, digits with an optional point among them, and an optional
exponent.  Numerals are what number texts are read into and printed from.
-/

namespace Ratsnest

/-- A written number: `whole`, then a point and `fraction` in `places` digits if there are any,
then an exponent if there is one. -/
structure Numeral where
  negative : Bool
  whole : Nat
  places : Nat
  fraction : Nat
  exponent : Option Int
  deriving DecidableEq, Repr

/-- Which exponents of the leading digit are written positionally. -/
structure Layout where
  lowestPlain : Int
  highestPlain : Int
  deriving DecidableEq, Repr

/-- Numbers from the fifth place behind the point to the sixteenth before it are written
positionally. -/
def Layout.exact : Layout := ⟨-5, 15⟩

namespace Numeral

/-- The numeral of a natural number. -/
def ofNat (n : Nat) : Numeral := ⟨false, n, 0, 0, none⟩

/-- The natural number denoted, if the numeral is only digits. -/
def toNat? (n : Numeral) : Option Nat :=
  if n.negative || n.places ≠ 0 || n.exponent.isSome then none else some n.whole

/-- Positional writing, with at least one digit behind the point. -/
def plain (d : Decimal) : Numeral :=
  if 0 ≤ d.exponent then ⟨d.negative, d.digits * Nat.pow 10 d.exponent.toNat, 1, 0, none⟩
  else
    let places := (-d.exponent).toNat
    ⟨d.negative, d.digits / Nat.pow 10 places, places, d.digits % Nat.pow 10 places, none⟩

/-- One digit before the point, the others behind it, and the exponent of the leading digit. -/
def scientific (d : Decimal) : Numeral :=
  let places := Decimal.digitCount d.digits - 1
  ⟨d.negative, d.digits / Nat.pow 10 places, places, d.digits % Nat.pow 10 places, some d.leading⟩

/-- A decimal as the layout writes it; zero is written positionally. -/
def ofDecimal (l : Layout) (d : Decimal) : Numeral :=
  if d.digits = 0 then ⟨d.negative, 0, 1, 0, none⟩
  else if l.lowestPlain ≤ d.leading ∧ d.leading ≤ l.highestPlain then plain d
  else scientific d

/-- The digits of `n` with leading zeros up to at least `width` characters. -/
def paddedDigits (width n : Nat) : List Char :=
  let cs := Decimal.digitChars n
  List.replicate (width - cs.length) '0' ++ cs

/-- The digits of an exponent behind its sign; `plus` stands before one that is not negative. -/
def exponentChars (plus : List Char) (e : Int) : List Char :=
  (if 0 ≤ e then plus else ['-']) ++ Decimal.digitChars e.natAbs

/-- The point and the digits behind it, unless there are no places. -/
def fractionChars (places fraction : Nat) : List Char :=
  if places = 0 then [] else '.' :: paddedDigits places fraction

/-- The exponent with its mark, if there is one. -/
def suffixChars (plus : List Char) : Option Int → List Char
  | none => []
  | some e => 'e' :: exponentChars plus e

/-- The characters of the numeral. -/
def chars (plus : List Char) (n : Numeral) : List Char :=
  (if n.negative then ['-'] else []) ++ Decimal.digitChars n.whole ++
    fractionChars n.places n.fraction ++ suffixChars plus n.exponent

end Numeral

end Ratsnest
