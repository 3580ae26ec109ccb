import Ratsnest.Document.Settings
import Ratsnest.Shape

/-!
# Shapes as JSON

A shape is written as the variant of its kind, and every shape is a record of numbers, points and
layers.
-/

namespace Ratsnest

variable {α : Type}

/-- A layer number as JSON. -/
def LayerId.toJson (l : LayerId) : Json := .ofNat l.toNat

/-- An object id as JSON. -/
def ObjectId.toJson (id : ObjectId) : Json := .ofNat id.toNat

section Writing

variable [JsonScalar α]

/-- A point as JSON. -/
def Point.toJson (p : Point α) : Json :=
  .record [("x", JsonScalar.toJson p.x), ("y", JsonScalar.toJson p.y)]

/-- A straight trace as JSON. -/
def Trace.toJson (t : Trace α) : Json :=
  .record [("group", t.layer.toJson), ("p1", t.segment.a.toJson), ("p2", t.segment.b.toJson),
    ("thickness", JsonScalar.toJson t.thickness), ("clearance", JsonScalar.toJson t.clearance)]

/-- A round trace as JSON. -/
def ArcTrace.toJson (t : ArcTrace α) : Json :=
  .record [("group", t.layer.toJson), ("center", t.arc.center.toJson),
    ("radius", JsonScalar.toJson t.arc.radius),
    ("start_angle", JsonScalar.toJson t.arc.startAngle),
    ("delta", JsonScalar.toJson t.arc.sweep), ("thickness", JsonScalar.toJson t.thickness),
    ("clearance", JsonScalar.toJson t.clearance)]

/-- A polygon as JSON. -/
def Polygon.toJson (p : Polygon α) : Json :=
  .record [("group", p.layer.toJson), ("points", .array (p.outline.map Point.toJson)),
    ("clears", .bool p.clears)]

/-- The copper of a padstack as JSON. -/
def PadShape.toJson : PadShape α → Json
  | circle r => .variant "Circle" (.record [("radius", JsonScalar.toJson r)])
  | rect w h =>
    .variant "Rect" (.record [("width", JsonScalar.toJson w), ("height", JsonScalar.toJson h)])

/-- A padstack as JSON. -/
def Padstack.toJson (p : Padstack α) : Json :=
  .record [("center", p.center.toJson), ("shape", p.shape.toJson),
    ("groups", .array (p.layers.map LayerId.toJson)),
    ("clearance", JsonScalar.toJson p.clearance),
    ("thermals", .array (p.thermals.map LayerId.toJson))]

/-- A rat line as JSON. -/
def RatLine.toJson (r : RatLine α) : Json :=
  .record [("p1", r.p1.toJson), ("p2", r.p2.toJson), ("group1", r.layer1.toJson),
    ("group2", r.layer2.toJson), ("anchor1", r.anchor1.toJson), ("anchor2", r.anchor2.toJson),
    ("via_equivalent", .bool r.viaEquivalent)]

/-- A shape as JSON. -/
def Shape.toJson : Shape α → Json
  | line t => .variant "Line" t.toJson
  | arc t => .variant "Arc" t.toJson
  | polygon p => .variant "Polygon" p.toJson
  | padstack p => .variant "Padstack" p.toJson
  | rat r => .variant "Rat" r.toJson

end Writing

section Reading

variable [JsonScalar α]

/-- Reads a point. -/
def Point.ofJson? (j : Json) : Option (Point α) := do
  let f ← j.fields? ["x", "y"]
  some ⟨← f.required 0 JsonScalar.ofJson?, ← f.required 1 JsonScalar.ofJson?⟩

/-- Reads a straight trace. -/
def Trace.ofJson? (j : Json) : Option (Trace α) := do
  let f ← j.fields? ["group", "p1", "p2", "thickness", "clearance"]
  some
    { layer := ← f.required 0 Json.toUInt32?
      segment := ⟨← f.required 1 Point.ofJson?, ← f.required 2 Point.ofJson?⟩
      thickness := ← f.required 3 JsonScalar.ofJson?
      clearance := ← f.required 4 JsonScalar.ofJson? }

/-- Reads a round trace. -/
def ArcTrace.ofJson? (j : Json) : Option (ArcTrace α) := do
  let f ← j.fields?
    ["group", "center", "radius", "start_angle", "delta", "thickness", "clearance"]
  some
    { layer := ← f.required 0 Json.toUInt32?
      arc :=
        { center := ← f.required 1 Point.ofJson?
          radius := ← f.required 2 JsonScalar.ofJson?
          startAngle := ← f.required 3 JsonScalar.ofJson?
          sweep := ← f.required 4 JsonScalar.ofJson? }
      thickness := ← f.required 5 JsonScalar.ofJson?
      clearance := ← f.required 6 JsonScalar.ofJson? }

/-- Reads a polygon. -/
def Polygon.ofJson? (j : Json) : Option (Polygon α) := do
  let f ← j.fields? ["group", "points", "clears"]
  some
    { layer := ← f.required 0 Json.toUInt32?
      outline := ← f.required 1 (Json.toList? Point.ofJson?)
      clears := ← f.required 2 Json.toBool? }

/-- Reads the copper of a padstack. -/
def PadShape.ofJson? (j : Json) : Option (PadShape α) := do
  match ← j.variant? with
  | ("Circle", some content) =>
    let f ← content.fields? ["radius"]
    some (.circle (← f.required 0 JsonScalar.ofJson?))
  | ("Rect", some content) =>
    let f ← content.fields? ["width", "height"]
    some (.rect (← f.required 0 JsonScalar.ofJson?) (← f.required 1 JsonScalar.ofJson?))
  | _ => none

/-- Reads a padstack. -/
def Padstack.ofJson? (j : Json) : Option (Padstack α) := do
  let f ← j.fields? ["center", "shape", "groups", "clearance", "thermals"]
  some
    { center := ← f.required 0 Point.ofJson?
      shape := ← f.required 1 PadShape.ofJson?
      layers := ← f.required 2 (Json.toList? Json.toUInt32?)
      clearance := ← f.required 3 JsonScalar.ofJson?
      thermals := ← f.required 4 (Json.toList? Json.toUInt32?) }

/-- Reads a rat line. -/
def RatLine.ofJson? (j : Json) : Option (RatLine α) := do
  let f ← j.fields?
    ["p1", "p2", "group1", "group2", "anchor1", "anchor2", "via_equivalent"]
  some
    { p1 := ← f.required 0 Point.ofJson?
      p2 := ← f.required 1 Point.ofJson?
      layer1 := ← f.required 2 Json.toUInt32?
      layer2 := ← f.required 3 Json.toUInt32?
      anchor1 := ← f.required 4 Json.toUInt64?
      anchor2 := ← f.required 5 Json.toUInt64?
      viaEquivalent := ← f.required 6 Json.toBool? }

/-- Reads a shape. -/
def Shape.ofJson? (j : Json) : Option (Shape α) := do
  match ← j.variant? with
  | ("Line", some content) => (Trace.ofJson? content).map line
  | ("Arc", some content) => (ArcTrace.ofJson? content).map arc
  | ("Polygon", some content) => (Polygon.ofJson? content).map polygon
  | ("Padstack", some content) => (Padstack.ofJson? content).map padstack
  | ("Rat", some content) => (RatLine.ofJson? content).map rat
  | _ => none

end Reading

end Ratsnest
