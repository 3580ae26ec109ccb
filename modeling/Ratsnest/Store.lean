import Ratsnest.Flags
import Ratsnest.Shape
import Ratsnest.SortedMap
import Ratsnest.Terminal
import Ratsnest.Uuid

/-!
# Object stores

The objects and parts placed on a board.  Objects are kept under their ids in ascending order; a
counter gives out new ids.
-/

namespace Ratsnest

universe u

/-- An object placed on the board. -/
structure BoardObject (α : Type u) where
  id : ObjectId
  shape : Shape α
  /-- The part that owns the object. -/
  part : Option Uuid := none
  /-- The name of the pin that the object stands for within its part. -/
  pin : Option String := none
  flags : Flags := .none
  deriving DecidableEq

namespace BoardObject

variable {α : Type u}

/-- Whether the object is a rat line. -/
def isRat (o : BoardObject α) : Bool := o.shape.isRat

/-- Whether the object has every mark of a set. -/
def hasFlags (o : BoardObject α) (f : Flags) : Bool := o.flags.contains f

/-- Clears and then sets marks. -/
def changeFlags (o : BoardObject α) (set clear : Flags) : BoardObject α :=
  { o with flags := o.flags.change set clear }

end BoardObject

/-- A placed part: it owns the objects that stand for its pins. -/
structure Part where
  id : Uuid
  refdes : String
  deriving DecidableEq

/-- Everything placed on a board.  The counter wraps around at its end. -/
structure Store (α : Type u) where
  objects : SortedMap ObjectId (BoardObject α)
  parts : SortedMap Uuid Part
  nextId : UInt64
  deriving DecidableEq

namespace Store

variable {α : Type u}

/-- The store without objects. -/
def empty : Store α := ⟨∅, ∅, 0⟩

/-! ## Objects -/

/-- The object under an id. -/
def get? (s : Store α) (id : ObjectId) : Option (BoardObject α) := s.objects.get? id

/-- Whether there is an object under an id. -/
def contains (s : Store α) (id : ObjectId) : Bool := s.objects.contains id

/-- The objects in the order of their ids. -/
def toList (s : Store α) : List (BoardObject α) := s.objects.values

/-- The rat lines in the order of their ids. -/
def rats (s : Store α) : List (BoardObject α) := s.toList.filter (·.isRat)

/-- The number of objects. -/
def size (s : Store α) : Nat := s.objects.size

/-- A new id, and the store that has given it out. -/
def allocate (s : Store α) : ObjectId × Store α := (s.nextId, { s with nextId := s.nextId + 1 })

/-- Places an object under its own id, and moves the counter beyond that id. -/
def insert (s : Store α) (o : BoardObject α) : Store α :=
  { s with
    objects := s.objects.insert o.id o
    nextId := if s.nextId < o.id + 1 then o.id + 1 else s.nextId }

/-- Places a shape under a new id, owned by a part or by none. -/
def add (s : Store α) (shape : Shape α) (part : Option Uuid) (pin : Option String) :
    ObjectId × Store α :=
  let (id, s) := s.allocate
  (id, s.insert { id, shape, part, pin })

/-- Takes the object under an id away. -/
def remove (s : Store α) (id : ObjectId) : Store α := { s with objects := s.objects.erase id }

/-- Changes the object under an id. -/
def modify (s : Store α) (id : ObjectId) (f : BoardObject α → BoardObject α) : Store α :=
  { s with objects := s.objects.modify id f }

/-- The least id. -/
def firstId? (s : Store α) : Option ObjectId := s.objects.firstKey?

/-- The least id above `id`, whether or not there is an object under `id`. -/
def nextId? (s : Store α) (id : ObjectId) : Option ObjectId := s.objects.nextKey? id

/-! ## Marks -/

/-- Clears and then sets marks on the object under an id. -/
def changeFlags (s : Store α) (id : ObjectId) (set clear : Flags) : Store α :=
  s.modify id (·.changeFlags set clear)

/-- Clears marks on every object. -/
def clearFlags (s : Store α) (f : Flags) : Store α :=
  { s with objects := s.objects.map (·.changeFlags .none f) }

/-- The number of objects that have one of some marks. -/
def countFlagged (s : Store α) (f : Flags) : Nat := s.toList.countP (·.flags.meets f)

/-! ## Parts and terminals -/

/-- Places a part under its own id. -/
def addPart (s : Store α) (p : Part) : Store α := { s with parts := s.parts.insert p.id p }

/-- The part under an id. -/
def part? (s : Store α) (id : Uuid) : Option Part := s.parts.get? id

/-- The pin that an object stands for: its name within the part that owns the object. -/
def pinOf? (s : Store α) (o : BoardObject α) : Option Pin := do
  let pin ← o.pin
  let part ← s.part? (← o.part)
  some ⟨part.refdes, pin⟩

/-- The pin that the object under an id stands for. -/
def terminalOf? (s : Store α) (id : ObjectId) : Option Pin := (s.get? id).bind s.pinOf?

/-- The first object, rat lines apart, that stands for a pin. -/
def find? (s : Store α) (p : Pin) : Option ObjectId :=
  (s.toList.find? fun o => !o.isRat && s.pinOf? o == some p).map (·.id)

/-! ## Look-ups after a change -/

theorem get?_insert (s : Store α) (o : BoardObject α) (id : ObjectId) :
    (s.insert o).get? id = if id = o.id then some o else s.get? id :=
  SortedMap.get?_insert s.objects o.id id o

theorem get?_remove (s : Store α) (i id : ObjectId) :
    (s.remove i).get? id = if id = i then none else s.get? id :=
  SortedMap.get?_erase s.objects i id

theorem get?_modify (s : Store α) (i id : ObjectId) (f : BoardObject α → BoardObject α) :
    (s.modify i f).get? id = if id = i then (s.get? id).map f else s.get? id :=
  SortedMap.get?_modify s.objects i id f

theorem get?_clearFlags (s : Store α) (f : Flags) (id : ObjectId) :
    (s.clearFlags f).get? id = (s.get? id).map (·.changeFlags .none f) :=
  SortedMap.get?_map s.objects _ id

end Store

end Ratsnest
