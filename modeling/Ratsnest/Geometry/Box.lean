import Ratsnest.Geometry.Point

/-!
# Boxes

Closed boxes with sides parallel to the axes.
-/

namespace Ratsnest

universe u

/-- A closed box, given by its lower left and its upper right corner. -/
structure Box (α : Type u) where
  lo : Point α
  hi : Point α
  deriving DecidableEq, Repr

namespace Box

variable {α : Type u} [Scalar α]

/-- The least box around two points. -/
def around (p q : Point α) : Box α :=
  ⟨⟨min p.x q.x, min p.y q.y⟩, ⟨max p.x q.x, max p.y q.y⟩⟩

/-- The least box around both boxes. -/
def union (b c : Box α) : Box α :=
  ⟨⟨min b.lo.x c.lo.x, min b.lo.y c.lo.y⟩, ⟨max b.hi.x c.hi.x, max b.hi.y c.hi.y⟩⟩

/-- The box that holds only the point `p`, with its corners capped at the finite numbers. -/
def ofPoint (p : Point α) : Box α :=
  ⟨⟨Scalar.capAbove p.x, Scalar.capAbove p.y⟩, ⟨Scalar.capBelow p.x, Scalar.capBelow p.y⟩⟩

/-- The least box around the points, if there are any. -/
def ofPoints? : List (Point α) → Option (Box α)
  | [] => none
  | p :: ps => some (ps.foldl (fun b q => b.union ⟨q, q⟩) (ofPoint p))

def width (b : Box α) : α := b.hi.x - b.lo.x

def height (b : Box α) : α := b.hi.y - b.lo.y

/-- The middle of the box. -/
def center (b : Box α) : Point α :=
  ⟨Scalar.half (b.lo.x + b.hi.x), Scalar.half (b.lo.y + b.hi.y)⟩

/-- The box grown by `d` on every side. -/
def inflate (b : Box α) (d : α) : Box α :=
  ⟨b.lo.translate (-d) (-d), b.hi.translate d d⟩

/-- Whether `p` lies in the box, the border included. -/
def contains (b : Box α) (p : Point α) : Bool :=
  b.lo.x ≤ p.x && p.x ≤ b.hi.x && b.lo.y ≤ p.y && p.y ≤ b.hi.y

/-- Whether two boxes share a point. -/
def intersects (b c : Box α) : Bool :=
  b.lo.x ≤ c.hi.x && c.lo.x ≤ b.hi.x && b.lo.y ≤ c.hi.y && c.lo.y ≤ b.hi.y

end Box

end Ratsnest
