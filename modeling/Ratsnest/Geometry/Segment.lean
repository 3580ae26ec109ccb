import Ratsnest.Geometry.Approach

/-!
# Segments

Straight segments: the point nearest to a given one, the crossing of two segments, and their
closest approach.
-/

namespace Ratsnest

universe u

/-- The segment from `a` to `b`, which may be a single point. -/
structure Segment (α : Type u) where
  a : Point α
  b : Point α
  deriving DecidableEq, Repr

namespace Segment

variable {α : Type u} [Scalar α]

/-- The segment that is the single point `p`. -/
def point (p : Point α) : Segment α := ⟨p, p⟩

/-- The vector from the first end to the second. -/
def direction (s : Segment α) : Point α := s.b - s.a

/-- The point a share `t` of the way along the segment. -/
def along (s : Segment α) (t : α) : Point α := s.a + s.direction.scale t

/-- Whether the segment is horizontal, vertical or a single point. -/
def axisAligned (s : Segment α) : Bool := s.a.x == s.b.x || s.a.y == s.b.y

/-- The point of the segment nearest to `p`: the foot of the perpendicular, moved to an end when
it falls outside. -/
def nearest (s : Segment α) (p : Point α) : Point α :=
  let d := s.direction
  let length2 := d.dot d
  if length2 == 0 then s.a
  else s.along (Scalar.clampUnit ((p - s.a).dot d / length2))

/-- Whether `p` lies on the segment. -/
def covers (s : Segment α) (p : Point α) : Bool := s.nearest p == p

/-- The crossing point of two segments that are not parallel, if they cross.  Where collinear
segments overlap an end of one lies on the other, which `approach` finds at distance zero. -/
def crossing (s t : Segment α) : Option (Point α) :=
  let r := s.direction
  let q := t.direction
  let area := r.cross q
  if area == 0 then none
  else
    let offset := t.a - s.a
    let share := offset.cross q / area
    let otherShare := offset.cross r / area
    if Scalar.inUnit share && Scalar.inUnit otherShare then some (s.along share) else none

/-- The closest approach of two segments: their crossing, or else an end of one and the point of
the other nearest to it. -/
def approach (s t : Segment α) : Option (Approach α) :=
  match s.crossing t with
  | some p => Approach.meeting p
  | none => Approach.closest
      [⟨s.a, t.nearest s.a⟩, ⟨s.b, t.nearest s.b⟩, ⟨s.nearest t.a, t.a⟩, ⟨s.nearest t.b, t.b⟩]

end Segment

end Ratsnest
