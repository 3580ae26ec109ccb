import Ratsnest.Geometry.Box
import Ratsnest.Geometry.Segment

/-!
# Arcs

Circular arcs: which angles the sweep covers, the point nearest to a given one, the bounding box,
and the closest approach to a segment or to another arc.
-/

namespace Ratsnest

universe u

/-- A circular arc.  The sweep goes counter-clockwise from the start angle, and clockwise when it
is negative. -/
structure Arc (α : Type u) where
  center : Point α
  radius : α
  startAngle : α
  sweep : α
  deriving DecidableEq, Repr

namespace Arc

section Sweep

variable {α : Type u} [Scalar α]

/-- Whether the sweep covers an angle.  A clockwise sweep covers what the same sweep covers when
it is run backwards, and a sweep of a full turn covers every angle. -/
def containsAngle (c : Arc α) (angle : α) : Bool :=
  if ((360 : Nat) : α) ≤ Scalar.magnitude c.sweep then true
  else
    let (first, turn) := if c.sweep < 0 then (c.startAngle + c.sweep, -c.sweep)
      else (c.startAngle, c.sweep)
    Scalar.turnRemainder (angle - first) ≤ turn

end Sweep

variable {α : Type u} [AngularScalar α]

/-- The point of the circle at an angle. -/
def pointAt (c : Arc α) (angle : α) : Point α :=
  ⟨c.center.x + c.radius * AngularScalar.cos angle,
    c.center.y + c.radius * AngularScalar.sin angle⟩

/-- The end where the sweep starts. -/
def start (c : Arc α) : Point α := c.pointAt c.startAngle

/-- The end where the sweep stops. -/
def stop (c : Arc α) : Point α := c.pointAt (c.startAngle + c.sweep)

/-- Whether the sweep covers the direction of `p` from the center. -/
def faces (c : Arc α) (p : Point α) : Bool := c.containsAngle (p - c.center).angle

/-- The point of the circle in the direction `v` from the center. -/
def toward (c : Arc α) (v : Point α) : Point α := c.center + v.scale (c.radius / v.length)

/-- The point of the arc nearest to `p`. -/
def nearest (c : Arc α) (p : Point α) : Point α :=
  let v := p - c.center
  if v.x == 0 && v.y == 0 then c.start
  else if c.faces p then c.toward v
  else if p.distance2 c.start ≤ p.distance2 c.stop then c.start
  else c.stop

/-- The least box around the arc: around its ends and the extreme points of the circle that the
sweep covers. -/
def box (c : Arc α) : Box α :=
  let quarters := [0, 90, 180, 270].map fun n : Nat => (n : α)
  let extremes := (quarters.filter c.containsAngle).map c.pointAt
  (extremes.foldl (fun b q => b.union ⟨q, q⟩)
    ((Box.ofPoint c.start).union ⟨c.stop, c.stop⟩))

/-- The shares of the way along a segment at which it meets the full circle. -/
def circleShares (c : Arc α) (s : Segment α) : List α :=
  let d := s.direction
  let f := s.a - c.center
  let qa := d.dot d
  if qa == 0 then []
  else
    let qb := ((2 : Nat) : α) * f.dot d
    let qc := f.dot f - c.radius * c.radius
    let discriminant := qb * qb - ((4 : Nat) : α) * qa * qc
    if discriminant < 0 then []
    else
      let root := AngularScalar.sqrt discriminant
      let scale := ((2 : Nat) : α) * qa
      [(-qb - root) / scale, (-qb + root) / scale].filter Scalar.inUnit

/-- The closest approach of a segment and an arc: a common point; or else an end of one and the
nearest point of the other, or the foot of the perpendicular from the center and the point of the
arc beyond it. -/
def segmentApproach (s : Segment α) (c : Arc α) : Option (Approach α) :=
  match ((c.circleShares s).map s.along).find? c.faces with
  | some p => Approach.meeting p
  | none =>
    let foot := s.nearest c.center
    let v := foot - c.center
    let inner := if 0 < v.length && c.faces foot then [⟨foot, c.toward v⟩] else []
    Approach.closest
      ([⟨s.a, c.nearest s.a⟩, ⟨s.b, c.nearest s.b⟩, ⟨s.nearest c.start, c.start⟩,
        ⟨s.nearest c.stop, c.stop⟩] ++ inner)

/-- The common points of the full circles of two arcs with different centers. -/
def circleCrossings (c e : Arc α) : List (Point α) :=
  let d := c.center.distance e.center
  if d == 0 || decide (c.radius + e.radius < d)
      || decide (d < Scalar.magnitude (c.radius - e.radius)) then []
  else
    let u := (e.center - c.center).scale (1 / d)
    let along := (c.radius * c.radius - e.radius * e.radius + d * d) / (((2 : Nat) : α) * d)
    let aside := AngularScalar.sqrt (max (c.radius * c.radius - along * along) 0)
    let base := c.center + u.scale along
    let normal : Point α := ⟨-u.y, u.x⟩
    [base + normal.scale aside, base - normal.scale aside]

/-- The points of two arcs on the line through their centers, in pairs. -/
def axisPairs (c e : Arc α) : List (Approach α) :=
  let d := c.center.distance e.center
  if 0 < d then
    let u := (e.center - c.center).scale (1 / d)
    let ends (f : Arc α) : List (Point α) :=
      ([1, -1].map fun side => f.center + u.scale (f.radius * side)).filter f.faces
    (ends c).flatMap fun p => (ends e).map fun q => ⟨p, q⟩
  else []

/-- The closest approach of two arcs: a common point; or else an end of one and the nearest point
of the other, or two points on the line through the centers. -/
def approach (c e : Arc α) : Option (Approach α) :=
  match (c.circleCrossings e).find? fun p => c.faces p && e.faces p with
  | some p => Approach.meeting p
  | none => Approach.closest
      ([⟨c.start, e.nearest c.start⟩, ⟨c.stop, e.nearest c.stop⟩,
        ⟨c.nearest e.start, e.start⟩, ⟨c.nearest e.stop, e.stop⟩] ++ c.axisPairs e)

end Arc

end Ratsnest
