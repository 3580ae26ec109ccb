import Ratsnest.Settings
import Ratsnest.Shape

/-!
# Distances between copper

Every shape but a rat line is copper of one of two forms: a stroke, which is a curve swept by a
disc, or an area, which is the region of an outline.  So the closest approach of any two shapes is
one of four cases, found between curves and outlines first and then moved to the border of the
discs.

`Shape.bridge?` is the distance of two shapes with the points and layers that realise it;
`Shape.distance2?` is the distance from a point.
-/

namespace Ratsnest

universe u

/-- The centerline of a stroke. -/
inductive Curve (α : Type u) where
  | segment (s : Segment α)
  | arc (c : Arc α)

/-- The copper of a shape. -/
inductive Copper (α : Type u) where
  /-- A curve swept by a disc. -/
  | stroke (curve : Curve α) (radius : α)
  /-- The region of an outline. -/
  | area (outline : Outline α)

/-- Nearest points of two pieces of copper, with their squared distance. -/
structure Gap (α : Type u) where
  a : Point α
  b : Point α
  d2 : α
  deriving DecidableEq, Repr

/-- Nearest points of two shapes, with the layer at either end and the squared distance. -/
structure Bridge (α : Type u) where
  a : Point α
  b : Point α
  layerA : LayerId
  layerB : LayerId
  d2 : α
  deriving DecidableEq, Repr

namespace Curve

variable {α : Type u} [AngularScalar α]

/-- The first point of the curve. -/
def start : Curve α → Point α
  | segment s => s.a
  | arc c => c.start

/-- The closest approach of two curves. -/
def approach : Curve α → Curve α → Option (Approach α)
  | segment s, segment t => s.approach t
  | segment s, arc c => c.segmentApproach s
  | arc c, segment t => (c.segmentApproach t).map Approach.swap
  | arc c, arc e => c.approach e

/-- The closest approach of a curve to the region of an outline. -/
def areaApproach (c : Curve α) (o : Outline α) : Option (Approach α) :=
  if o.contains c.start then Approach.meeting c.start
  else Approach.closest (o.edges.filterMap fun e => c.approach (segment e))

end Curve

namespace Outline

variable {α : Type u} [Scalar α]

/-- The closest approach of the regions of two outlines. -/
def approach (o q : Outline α) : Option (Approach α) :=
  match (o.find? q.contains).or (q.find? o.contains) with
  | some p => Approach.meeting p
  | none => Approach.closest (o.edges.flatMap fun e => q.edges.filterMap e.approach)

end Outline

namespace Copper

variable {α : Type u} [AngularScalar α]

/-- How far the copper reaches beyond its curve or outline. -/
def radius : Copper α → α
  | stroke _ r => r
  | area _ => 0

/-- The closest approach of two curves or outlines, before the discs are put on. -/
def approach : Copper α → Copper α → Option (Approach α)
  | stroke c _, stroke e _ => c.approach e
  | stroke c _, area o => c.areaApproach o
  | area o, stroke c _ => (c.areaApproach o).map Approach.swap
  | area o, area q => Outline.approach o q

/-- Nearest points of two pieces of copper.  Where they overlap both points are one, at distance
zero. -/
def gap? (c e : Copper α) : Option (Gap α) :=
  (c.approach e).map fun p =>
    let reach := c.radius + e.radius
    if p.d2 ≤ reach * reach then
      let contact := if 0 < p.d2 then p.a + (p.b - p.a).scale (c.radius / reach) else p.a
      ⟨contact, contact, 0⟩
    else
      let direction := (p.b - p.a).scale (1 / AngularScalar.sqrt p.d2)
      let a := p.a + direction.scale c.radius
      let b := p.b - direction.scale e.radius
      ⟨a, b, a.distance2 b⟩

end Copper

namespace Bridge

variable {α : Type u}

/-- The same bridge seen from the second shape. -/
def swap (b : Bridge α) : Bridge α := ⟨b.b, b.a, b.layerB, b.layerA, b.d2⟩

/-- Whether the shapes overlap. -/
def touching [Scalar α] (b : Bridge α) : Bool := b.d2 == 0

/-- The distance of the shapes. -/
def distance [AngularScalar α] (b : Bridge α) : α := AngularScalar.sqrt b.d2

end Bridge

namespace Shape

variable {α : Type u} [AngularScalar α]

/-- The copper of a shape; a rat line has none. -/
def copper? : Shape α → Option (Copper α)
  | line t => some (.stroke (.segment t.segment) (Scalar.half t.thickness))
  | arc t => some (.stroke (.arc t.arc) (Scalar.half t.thickness))
  | polygon p => some (.area p.outline)
  | padstack p =>
    match p.shape with
    | .circle r => some (.stroke (.segment (.point p.center)) r)
    | .rect _ _ => some (.area (p.outline?.getD []))
  | rat _ => none

/-- Whether the shape may carry rat lines when only axis-aligned ones may. -/
def manhattan : Shape α → Bool
  | line t => t.segment.axisAligned
  | arc _ => false
  | _ => true

/-- The layers at the ends of a connection: the first layer of `s` that `t` has too, or else the
first layer of each. -/
def endLayers (s t : Shape α) : LayerId × LayerId :=
  match s.layers.find? t.layers.contains with
  | some l => (l, l)
  | none => (s.layers.headD 0, t.layers.headD 0)

/-- The distance of two shapes, if the policy lets them be joined and it is finite. -/
def bridge? (policy : Policy) (s t : Shape α) : Option (Bridge α) := do
  if policy.manhattanOnly && !(s.manhattan && t.manhattan) then none
  let gap ← (← s.copper?).gap? (← t.copper?)
  let (layerA, layerB) := s.endLayers t
  if Scalar.finite gap.d2 then some ⟨gap.a, gap.b, layerA, layerB, gap.d2⟩ else none

/-- The squared distance from the copper of a shape to a point; zero inside it. -/
def distance2? (s : Shape α) (p : Point α) : Option α := do
  let gap ← (← s.copper?).gap? (.stroke (.segment (.point p)) 0)
  some gap.d2

/-- Whether the copper of a shape covers a point. -/
def covers (s : Shape α) (p : Point α) : Bool := (s.distance2? p).any (· == 0)

end Shape

end Ratsnest
