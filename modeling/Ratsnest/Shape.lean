import Ratsnest.Geometry.Arc
import Ratsnest.Geometry.Outline
import Ratsnest.Layer
import Ratsnest.ObjectId

/-!
# Shapes

The geometry of a board object: straight and round traces, polygons, padstacks, and rat lines,
which stand for connections that are still to be routed.
-/

namespace Ratsnest

universe u

/-- A straight trace with round caps. -/
structure Trace (α : Type u) where
  layer : LayerId
  segment : Segment α
  thickness : α
  /-- How far a clearing polygon keeps away. -/
  clearance : α
  deriving DecidableEq, Repr

/-- A round trace with round caps. -/
structure ArcTrace (α : Type u) where
  layer : LayerId
  arc : Arc α
  thickness : α
  /-- How far a clearing polygon keeps away. -/
  clearance : α
  deriving DecidableEq, Repr

/-- A filled region of copper. -/
structure Polygon (α : Type u) where
  layer : LayerId
  outline : Outline α
  /-- Whether the polygon keeps away from objects that ask for clearance. -/
  clears : Bool
  deriving DecidableEq, Repr

/-- The copper of a padstack on each of its layers. -/
inductive PadShape (α : Type u) where
  | circle (radius : α)
  | rect (width height : α)
  deriving DecidableEq, Repr

/-- A pad or a via, with the same copper on each of its layers. -/
structure Padstack (α : Type u) where
  center : Point α
  shape : PadShape α
  layers : List LayerId
  /-- How far a clearing polygon keeps away. -/
  clearance : α
  /-- The layers on which a thermal joins the pad to a clearing polygon. -/
  thermals : List LayerId
  deriving DecidableEq, Repr

/-- A rat line: a connection between two objects that is not routed yet. -/
structure RatLine (α : Type u) where
  p1 : Point α
  p2 : Point α
  layer1 : LayerId
  layer2 : LayerId
  anchor1 : ObjectId
  anchor2 : ObjectId
  /-- The ends overlap already and only a change of layers is missing. -/
  viaEquivalent : Bool
  deriving DecidableEq, Repr

/-- The geometry of a board object. -/
inductive Shape (α : Type u) where
  | line (trace : Trace α)
  | arc (trace : ArcTrace α)
  | polygon (polygon : Polygon α)
  | padstack (pad : Padstack α)
  | rat (line : RatLine α)
  deriving DecidableEq, Repr

namespace Padstack

variable {α : Type u} [Scalar α]

/-- How far the pad reaches from its center to the side and upwards. -/
def reach (p : Padstack α) : α × α :=
  match p.shape with
  | .circle r => (r, r)
  | .rect w h => (Scalar.half w, Scalar.half h)

/-- The corners of a rectangular pad, counter-clockwise from the lower left. -/
def outline? (p : Padstack α) : Option (Outline α) :=
  match p.shape with
  | .circle _ => none
  | .rect w h =>
    let hw := Scalar.half w
    let hh := Scalar.half h
    some [p.center.translate (-hw) (-hh), p.center.translate hw (-hh), p.center.translate hw hh,
      p.center.translate (-hw) hh]

/-- The box around the pad. -/
def box (p : Padstack α) : Box α :=
  let (dx, dy) := p.reach
  ⟨p.center.translate (-dx) (-dy), p.center.translate dx dy⟩

end Padstack

namespace RatLine

variable {α : Type u}

/-- The anchor opposite to `id`. -/
def otherAnchor? (r : RatLine α) (id : ObjectId) : Option ObjectId :=
  if r.anchor1 = id then some r.anchor2 else if r.anchor2 = id then some r.anchor1 else none

/-- The length of the line. -/
def length [AngularScalar α] (r : RatLine α) : α := r.p1.distance r.p2

end RatLine

namespace Shape

variable {α : Type u}

/-- The layers with copper of the shape.  A rat line has none. -/
def layers : Shape α → List LayerId
  | line t => [t.layer]
  | arc t => [t.layer]
  | polygon p => [p.layer]
  | padstack p => p.layers
  | rat _ => []

/-- Whether the shape is a rat line. -/
def isRat : Shape α → Bool
  | rat _ => true
  | _ => false

/-- How far a clearing polygon keeps away. -/
def clearance [Scalar α] : Shape α → α
  | line t => t.clearance
  | arc t => t.clearance
  | padstack p => p.clearance
  | polygon _ | rat _ => 0

/-- The word for the kind of shape. -/
def kindName : Shape α → String
  | line _ => "line"
  | arc _ => "arc"
  | polygon _ => "polygon"
  | padstack _ => "padstack"
  | rat _ => "rat"

/-- The box around the shape; a polygon without corners has none. -/
def box? [AngularScalar α] : Shape α → Option (Box α)
  | line t => some ((Box.around t.segment.a t.segment.b).inflate (Scalar.half t.thickness))
  | arc t => some (t.arc.box.inflate (Scalar.half t.thickness))
  | polygon p => Box.ofPoints? p.outline
  | padstack p => some p.box
  | rat r => some (Box.around r.p1 r.p2)

/-- Whether two shapes have a layer in common. -/
def sharesLayer (s t : Shape α) : Bool := s.layers.any fun l => t.layers.contains l

end Shape

end Ratsnest
