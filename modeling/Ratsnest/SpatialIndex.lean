import Ratsnest.Geometry.Box
import Ratsnest.ObjectId

/-!
# Spatial index

Objects are looked up by the boxes around them.  A query returns the ids of the entries whose
closed box meets the query, in ascending order; an id with several such entries comes several
times.
-/

namespace Ratsnest

universe u

/-- Ids with the boxes around their objects, in ascending order of the ids. -/
structure SpatialIndex (α : Type u) where
  entries : List (ObjectId × Box α)

namespace SpatialIndex

variable {α : Type u} [Scalar α]

/-- The box with the same sides whose corners are in order along both axes. -/
def ordered (b : Box α) : Box α := .around b.lo b.hi

/-- Puts an entry before the first one whose id is not smaller. -/
def insertEntry (e : ObjectId × Box α) : List (ObjectId × Box α) → List (ObjectId × Box α)
  | [] => [e]
  | f :: es => if e.1 ≤ f.1 then e :: f :: es else f :: insertEntry e es

/-- The index of some entries. -/
def ofEntries (es : List (ObjectId × Box α)) : SpatialIndex α :=
  ⟨(es.map fun e => (e.1, ordered e.2)).foldr insertEntry []⟩

/-- The number of entries. -/
def size (i : SpatialIndex α) : Nat := i.entries.length

/-- The ids of the entries whose box meets a box. -/
def meeting (i : SpatialIndex α) (b : Box α) : List ObjectId :=
  (i.entries.filter (·.2.intersects (ordered b))).map (·.1)

/-- The ids of the entries whose box holds a point. -/
def holding (i : SpatialIndex α) (p : Point α) : List ObjectId := i.meeting ⟨p, p⟩

end SpatialIndex

end Ratsnest
