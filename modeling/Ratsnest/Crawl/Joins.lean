import Ratsnest.Content

/-!
# Joins

When two objects are joined directly: by touching copper, inside a part by standing for the same
pin, or through a rat line.  `ConnectionIndex` holds the look-ups that make the joins of an object
cheap to find; it is built once and describes the board of that moment.
-/

namespace Ratsnest

universe u

/-- What counts as joined. -/
structure JoinRules (α : Type u) where
  /-- Copper closer than this counts as touching. -/
  bloat : α
  /-- Join objects to clearing polygons whatever their clearance. -/
  ignoreClearance : Bool
  /-- Follow rat lines to the objects that they join. -/
  followRats : Bool
  deriving DecidableEq, Repr

/-- How an object was reached. -/
inductive JoinKind where
  /-- It is where the crawl began. -/
  | start
  /-- By touching copper. -/
  | copper
  /-- Inside the part, as the same pin. -/
  | internal
  /-- Through a rat line. -/
  | rat
  deriving DecidableEq, Repr

namespace Shape

variable {α : Type u}

/-- Whether `p` is a polygon that keeps away from `s`: a clearing one, where `s` asks for clearance
and no thermal joins them.  Polygons do not keep away from each other. -/
def keepsAwayFrom [Scalar α] (p s : Shape α) : Bool :=
  match p with
  | polygon q =>
    q.clears && !decide (s.clearance ≤ 0) &&
      match s with
      | padstack d => !d.thermals.contains q.layer
      | polygon _ => false
      | _ => true
  | _ => false

end Shape

/-- Whether the copper of two shapes is electrically joined. -/
def JoinRules.touches {α : Type u} [AngularScalar α] (r : JoinRules α) (s t : Shape α) : Bool :=
  !s.isRat && !t.isRat && s.sharesLayer t &&
    (r.ignoreClearance || !(s.keepsAwayFrom t || t.keepsAwayFrom s)) &&
    (s.bridge? .precise t).any fun b => b.d2 ≤ r.bloat * r.bloat

/-- Look-ups for the joins of the objects of a board. -/
structure ConnectionIndex (α : Type u) where
  /-- The boxes around copper objects. -/
  boxes : SpatialIndex α
  /-- Anchors with the rat lines that end on them. -/
  anchors : List (ObjectId × ObjectId)
  /-- Copper objects under the part and the pin that they stand for. -/
  pads : List ((Uuid × String) × ObjectId)

namespace ConnectionIndex

variable {α : Type u} [AngularScalar α]

/-- The ends of a rat line, each with the line. -/
def anchorsOf (o : BoardObject α) : List (ObjectId × ObjectId) :=
  match o.shape with
  | .rat r => [(r.anchor1, o.id), (r.anchor2, o.id)]
  | _ => []

/-- The part and the pin that an object names, with the object. -/
def padOf? (o : BoardObject α) : Option ((Uuid × String) × ObjectId) := do
  some ((← o.part, ← o.pin), o.id)

/-- The look-ups of a board. -/
def ofContent (c : Content α) : ConnectionIndex α where
  boxes := c.copperIndex
  anchors := c.store.toList.flatMap anchorsOf
  pads := c.copper.filterMap padOf?

/-- The objects that touch `o`, in ascending order, where `o` stands under `id`. -/
def copperJoins (i : ConnectionIndex α) (r : JoinRules α) (s : Store α) (id : ObjectId)
    (o : BoardObject α) : List ObjectId :=
  match o.shape.box? with
  | none => []
  | some b =>
    (i.boxes.meeting (b.inflate r.bloat)).filter fun other =>
      other != id && (s.get? other).any fun p => r.touches o.shape p.shape

/-- The objects that stand for the same pin of the same part as `o`, in ascending order. -/
def internalJoins (i : ConnectionIndex α) (id : ObjectId) (o : BoardObject α) : List ObjectId :=
  match o.part, o.pin with
  | some part, some pin => (i.pads.filter fun e => e.1 == (part, pin) && e.2 != id).map (·.2)
  | _, _ => []

/-- The rat lines that end on an object, in ascending order. -/
def ratJoins (i : ConnectionIndex α) (id : ObjectId) : List ObjectId :=
  (i.anchors.filter (·.1 == id)).map (·.2)

/-- What the object under an id is joined to directly, and how.  From a rat line the way leads
only to its anchors, and only when rat lines are followed. -/
def joins (i : ConnectionIndex α) (r : JoinRules α) (s : Store α) (id : ObjectId) :
    List (ObjectId × JoinKind) :=
  match s.get? id with
  | none => []
  | some o =>
    match o.shape with
    | .rat l => if r.followRats then [(l.anchor1, .rat), (l.anchor2, .rat)] else []
    | _ =>
      (i.copperJoins r s id o).map (·, .copper) ++ (i.internalJoins id o).map (·, .internal) ++
        if r.followRats then (i.ratJoins id).map (·, .rat) else []

end ConnectionIndex

end Ratsnest
