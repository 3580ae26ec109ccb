import Ratsnest.Geometry.Segment

/-!
# Outlines

Closed outlines given by their corners in order.  The region of an outline is its edges together
with the points around which it winds an odd number of times.
-/

namespace Ratsnest

universe u

/-- The corners of a closed outline in order. -/
abbrev Outline (α : Type u) := List (Point α)

namespace Outline

variable {α : Type u} [Scalar α]

/-- The edges in order; the last one leads back to the first corner. -/
def edges : Outline α → List (Segment α)
  | [] => []
  | p :: ps => List.zipWith Segment.mk (p :: ps) (ps ++ [p])

/-- Whether the edge passes the ray that leaves `p` to the right.  An end level with `p` counts
as below it, so a corner on the ray is passed by exactly one of two edges that go on upwards. -/
def passesRight (p : Point α) (e : Segment α) : Bool :=
  (decide (p.y < e.a.y) != decide (p.y < e.b.y)) &&
    decide (p.x < e.a.x + (p.y - e.a.y) / (e.b.y - e.a.y) * (e.b.x - e.a.x))

/-- Whether `p` lies in the region: on an edge, or with an odd number of edges to its right.  An
outline of fewer than three corners has no region. -/
def contains (o : Outline α) (p : Point α) : Bool :=
  3 ≤ o.length &&
    (o.edges.any (·.covers p) || o.edges.countP (passesRight p) % 2 == 1)

end Outline

end Ratsnest
