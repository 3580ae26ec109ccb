import Ratsnest.Geometry.Point

/-!
# Closest approaches

A search for the closest pair of points of two curves offers candidate pairs one after the other
and keeps the first of the closest ones.  A candidate whose squared distance is not finite is
never kept.
-/

namespace Ratsnest

universe u

/-- A point of a first curve with a point of a second one. -/
structure Approach (α : Type u) where
  a : Point α
  b : Point α
  deriving DecidableEq, Repr

namespace Approach

variable {α : Type u} [Scalar α]

/-- The squared distance of the two points. -/
def d2 (p : Approach α) : α := p.a.distance2 p.b

/-- The same pair seen from the second curve. -/
def swap (p : Approach α) : Approach α := ⟨p.b, p.a⟩

/-- The pair kept when `q` is offered to `best`: `q` only if it is strictly closer. -/
def offer (best : Option (Approach α)) (q : Approach α) : Option (Approach α) :=
  match best with
  | none => if Scalar.finite q.d2 then some q else none
  | some p => if q.d2 < p.d2 then some q else some p

/-- The first of the closest candidates. -/
def closest (candidates : List (Approach α)) : Option (Approach α) :=
  candidates.foldl offer none

/-- The point `p` as a pair of its own, where two curves meet. -/
def meeting (p : Point α) : Option (Approach α) := closest [⟨p, p⟩]

end Approach

end Ratsnest
