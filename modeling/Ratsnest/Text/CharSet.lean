import Ratsnest.Text.Blank
import Ratsnest.Text.CaseTable
import Ratsnest.Text.CategoryTable

/-!
# Sets of characters

A set of characters is a list of ranges of code points in ascending order, with a gap between
neighbours and no surrogates in them.  So every set is written in one way only.

* `CharSet.contains` is membership.
* `CharSet.ofRanges` sorts and joins any ranges; union and complement are built on it, and the
  other operations on those two.
* `CharSet.closeCase` adds the characters that differ in case only.
-/

namespace Ratsnest

open Text

/-- A set of characters. -/
structure CharSet where
  ranges : List CharRange
  deriving DecidableEq, Repr

namespace CharSet

/-- Whether a character belongs to the set. -/
def contains (s : CharSet) (c : Char) : Bool := inRanges s.ranges c.toNat

/-! ## Normal form -/

/-- Joins ascending ranges that overlap or touch. -/
def join : List CharRange → List CharRange
  | a :: b :: rs =>
    if b.first ≤ a.last + 1 then join (⟨a.first, max a.last b.last⟩ :: rs)
    else a :: join (b :: rs)
  | rs => rs
termination_by rs => rs.length

/-- The characters of a range: no surrogates, and nothing beyond the last code point. -/
def scalars (r : CharRange) : List CharRange :=
  [⟨r.first, min r.last 0xD7FF⟩, ⟨max r.first 0xE000, min r.last 0x10FFFF⟩].filter fun r =>
    r.first ≤ r.last

/-- The set of the characters in some ranges. -/
def ofRanges (rs : List CharRange) : CharSet :=
  ⟨join ((rs.flatMap scalars).mergeSort fun a b => a.first ≤ b.first)⟩

/-! ## Operations -/

/-- The set with no character. -/
def none : CharSet := ⟨[]⟩

/-- The characters from `first` to `last`. -/
def range (first last : Char) : CharSet := ofRanges [⟨first.toNat, last.toNat⟩]

/-- The set of one character. -/
def single (c : Char) : CharSet := ⟨[⟨c.toNat, c.toNat⟩]⟩

/-- The character of a set that has no other. -/
def single? (s : CharSet) : Option Char :=
  match s.ranges with
  | [r] => if r.first = r.last then some (Char.ofNat r.first) else Option.none
  | _ => Option.none

/-- The characters in either set. -/
def union (a b : CharSet) : CharSet := ofRanges (a.ranges ++ b.ranges)

/-- The code points from `start` on that lie in none of the ascending ranges. -/
def gaps (start : Nat) : List CharRange → List CharRange
  | [] => [⟨start, 0x10FFFF⟩]
  | r :: rs => if start < r.first then ⟨start, r.first - 1⟩ :: gaps (r.last + 1) rs
    else gaps (r.last + 1) rs

/-- The characters outside the set. -/
def compl (s : CharSet) : CharSet := ofRanges (gaps 0 s.ranges)

/-- The characters in both sets. -/
def inter (a b : CharSet) : CharSet := compl (union (compl a) (compl b))

/-- The characters in `a` but not in `b`. -/
def diff (a b : CharSet) : CharSet := compl (union (compl a) b)

/-- The characters in exactly one of `a` and `b`. -/
def symmDiff (a b : CharSet) : CharSet := union (diff a b) (diff b a)

/-- The number of characters in the set. -/
def size (s : CharSet) : Nat := s.ranges.foldl (fun n r => n + (r.last + 1 - r.first)) 0

/-- Whether all characters of the set are ASCII. -/
def isAscii (s : CharSet) : Bool := s.ranges.all fun r => r.last < 0x80

/-! ## Named sets -/

/-- Decimal digits. -/
def digit : CharSet := ⟨decimalNumberRanges⟩

/-- White space. -/
def blank : CharSet := ⟨blankRanges⟩

/-- The digits of ASCII. -/
def asciiDigit : CharSet := ofRanges [⟨0x30, 0x39⟩]

/-- The white space of ASCII. -/
def asciiBlank : CharSet := ofRanges [⟨0x9, 0xD⟩, ⟨0x20, 0x20⟩]

/-- The letters and digits of ASCII and the underscore. -/
def asciiWord : CharSet := ofRanges [⟨0x30, 0x39⟩, ⟨0x41, 0x5A⟩, ⟨0x5F, 0x5F⟩, ⟨0x61, 0x7A⟩]

/-! ## Letter case -/

/-- The characters that the case folding changes, each with its folded form. -/
def foldings : List (Nat × Nat) :=
  caseFoldShifts.flatMap fun s =>
    (List.range ((s.last - s.first) / s.step + 1)).map fun i =>
      let n := s.first + i * s.step
      (n, ((n : Int) + s.offset).toNat)

/-- The set with all characters that have the same folded form as one of its members. -/
def closeCase (s : CharSet) : CharSet :=
  let forms := (foldings.filter fun e => inRanges s.ranges e.1 || inRanges s.ranges e.2).map (·.2)
  let related := foldings.filter fun e => forms.contains e.2
  ofRanges (s.ranges ++ related.flatMap fun e => [⟨e.1, e.1⟩, ⟨e.2, e.2⟩])

/-- The set with the ASCII letters that differ from one of its members in case only. -/
def closeAsciiCase (s : CharSet) : CharSet :=
  let letters := (List.range 26).filter fun i =>
    inRanges s.ranges (0x41 + i) || inRanges s.ranges (0x61 + i)
  ofRanges (s.ranges ++ letters.flatMap fun i => [⟨0x41 + i, 0x41 + i⟩, ⟨0x61 + i, 0x61 + i⟩])

end CharSet

end Ratsnest
