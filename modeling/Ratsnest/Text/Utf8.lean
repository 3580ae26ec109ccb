import Ratsnest.Text.CharSet

/-!
# Sets of characters as bytes

Text is stored in bytes, one to four for a character.  A set of characters is a list of
sequences of byte ranges, in ascending order: a character belongs to the set when its bytes lie in
the ranges of one sequence.
-/

namespace Ratsnest

namespace Text

/-- The bytes from `first` to `last`. -/
structure ByteRange where
  first : Nat
  last : Nat
  deriving DecidableEq, Repr

namespace ByteRange

/-- Any byte behind the first one of a character. -/
def trailing : ByteRange := ⟨0x80, 0xBF⟩

/-- The sequences for the numbers from `low` to `high` written with a first digit, which is added
to `lead`, and `count` trailing digits of six bits. -/
def spread (lead : Nat) : Nat → Nat → Nat → List (List ByteRange)
  | 0, low, high => [[⟨lead + low, lead + high⟩]]
  | count + 1, low, high =>
    let unit := Nat.pow 64 (count + 1)
    let behind (digit low high : Nat) : List (List ByteRange) :=
      (spread 0x80 count low high).map (⟨lead + digit, lead + digit⟩ :: ·)
    let first := low / unit
    let last := high / unit
    if first = last then behind first (low % unit) (high % unit)
    else
      let fromStart := low % unit = 0
      let toEnd := high % unit = unit - 1
      let firstWhole := if fromStart then first else first + 1
      let endWhole := if toEnd then last + 1 else last
      (if fromStart then [] else behind first (low % unit) (unit - 1)) ++
        (if firstWhole < endWhole then
          [⟨lead + firstWhole, lead + endWhole - 1⟩ :: List.replicate (count + 1) trailing]
        else []) ++
        (if toEnd then [] else behind last 0 (high % unit))

/-- The numbers of a range that lie between two bounds. -/
def clip (low high : Nat) (r : CharRange) : Option (Nat × Nat) :=
  let a := max r.first low
  let b := min r.last high
  if a ≤ b then some (a, b) else none

/-- The sequences for a range of characters: one part for each number of bytes. -/
def ofCharRange (r : CharRange) : List (List ByteRange) :=
  let part (lead count low high : Nat) : List (List ByteRange) :=
    match clip low high r with
    | some (a, b) => spread lead count a b
    | none => []
  part 0 0 0 0x7F ++ part 0xC0 1 0x80 0x7FF ++ part 0xE0 2 0x800 0xFFFF ++
    part 0xF0 3 0x10000 0x10FFFF

end ByteRange

end Text

namespace CharSet

/-- The byte sequences of the characters in the set. -/
def byteRanges (s : CharSet) : List (List Text.ByteRange) :=
  s.ranges.flatMap Text.ByteRange.ofCharRange

end CharSet

end Ratsnest
