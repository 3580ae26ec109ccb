import Ratsnest.Copper
import Ratsnest.NetList.Basic
import Ratsnest.SpatialIndex
import Ratsnest.Store

/-!
# Board content

What is on a board: its layers, the objects and parts placed on it, and its nets.  The history of
edits is kept beside the content, in `Ratsnest.Journal`.
-/

namespace Ratsnest

universe u

/-- What is on a board. -/
structure Content (α : Type u) where
  id : Uuid
  name : String
  layers : LayerStack
  store : Store α
  netlist : NetList
  /-- Whether an edit has touched the board since it was last saved. -/
  changed : Bool
  deriving DecidableEq

namespace Content

variable {α : Type u}

/-- A board of two copper layers with nothing on it. -/
def empty (id : Uuid) (name : String) : Content α :=
  ⟨id, name, .twoLayer, .empty, .empty, false⟩

/-- Whether an object is no rat line and has a copper layer. -/
def isCopper (b : Content α) (o : BoardObject α) : Bool :=
  !o.isRat && o.shape.layers.any b.layers.isCopper

/-- The copper objects in the order of their ids. -/
def copper (b : Content α) : List (BoardObject α) := b.store.toList.filter b.isCopper

/-- The index of the boxes around all copper objects. -/
def copperIndex [AngularScalar α] (b : Content α) : SpatialIndex α :=
  .ofEntries (b.copper.filterMap fun o => o.shape.box?.map (o.id, ·))

/-- The first object that stands for a pin and whose copper covers a point. -/
def terminalAt? [AngularScalar α] (b : Content α) (p : Point α) : Option ObjectId :=
  (b.copperIndex.holding p).find? fun id =>
    (b.store.terminalOf? id).isSome && (b.store.get? id).any (·.shape.covers p)

/-- The objects with a mark of selection. -/
def selected (b : Content α) : List (BoardObject α) :=
  b.store.toList.filter (·.hasFlags .selected)

/-- The pins of the selected objects, each once. -/
def selectedPins (b : Content α) : List Pin :=
  (b.selected.filterMap b.store.pinOf?).eraseDups

end Content

end Ratsnest
