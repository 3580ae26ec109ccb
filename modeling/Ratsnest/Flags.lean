/-!
# Flags

Marks on board objects, as bits.
-/

namespace Ratsnest

/-- A set of marks. -/
structure Flags where
  bits : UInt32
  deriving DecidableEq, Repr

namespace Flags

/-- No mark. -/
def none : Flags := ⟨0⟩

/-- Marked by a crawl. -/
def found : Flags := ⟨1⟩

/-- Part of a short circuit. -/
def warn : Flags := ⟨2⟩

/-- Selected by the user. -/
def selected : Flags := ⟨4⟩

/-- Whether there is no mark. -/
def isEmpty (f : Flags) : Bool := f.bits == 0

/-- The marks of both sets. -/
def union (f g : Flags) : Flags := ⟨f.bits ||| g.bits⟩

/-- The marks of `f` that are not in `g`. -/
def remove (f g : Flags) : Flags := ⟨f.bits &&& ~~~g.bits⟩

/-- Whether the sets have a mark in common. -/
def meets (f g : Flags) : Bool := f.bits &&& g.bits != 0

/-- Whether `f` has every mark of `g`, which has at least one. -/
def contains (f g : Flags) : Bool := g.bits != 0 && f.bits &&& g.bits == g.bits

/-- Clears the marks of one set, then sets those of another. -/
def change (f set clear : Flags) : Flags := (f.remove clear).union set

end Flags

end Ratsnest
