/-!
# Character tables

Sets of characters as lists of ranges, and maps between characters as lists of shifts: the data
on Unicode properties is kept in this form.
-/

namespace Ratsnest

namespace Text

/-- The characters with code points from `first` to `last`. -/
structure CharRange where
  first : Nat
  last : Nat
  deriving DecidableEq, Repr

/-- Moves every `step`-th code point from `first` to `last` by `offset`. -/
structure CharShift where
  first : Nat
  last : Nat
  step : Nat
  offset : Int
  deriving DecidableEq, Repr

/-- Whether a code point lies in one of the ranges. -/
def inRanges (rs : List CharRange) (n : Nat) : Bool :=
  rs.any fun r => r.first ≤ n && n ≤ r.last

/-- Whether the shift moves a code point. -/
def CharShift.moves (s : CharShift) (n : Nat) : Bool :=
  s.first ≤ n && n ≤ s.last && (n - s.first) % s.step == 0

/-- The character that the shifts send `c` to; `c` itself if none moves it. -/
def shiftChar (ss : List CharShift) (c : Char) : Char :=
  match ss.find? (·.moves c.toNat) with
  | some s => Char.ofNat ((c.toNat : Int) + s.offset).toNat
  | none => c

end Text

end Ratsnest
