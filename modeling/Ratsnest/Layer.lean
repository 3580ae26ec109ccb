/-!
# Layers

The stack of layers a board is made of.  Layers that are electrically one copper plane share an
id, so a layer here stands for such a group.
-/

namespace Ratsnest

/-- The number of a layer. -/
abbrev LayerId := UInt32

/-- What a layer is made of. -/
inductive LayerKind where
  | copper
  | silk
  | mask
  | paste
  | outline
  deriving DecidableEq, Repr

/-- A layer of the stack. -/
structure Layer where
  id : LayerId
  name : String
  kind : LayerKind
  deriving DecidableEq, Repr

/-- The layers from top to bottom. -/
structure LayerStack where
  layers : List Layer
  deriving DecidableEq, Repr

namespace LayerStack

/-- The stack without layers. -/
def empty : LayerStack := ⟨[]⟩

/-- Copper on top (0) and copper at the bottom (1). -/
def twoLayer : LayerStack := ⟨[⟨0, "top", .copper⟩, ⟨1, "bottom", .copper⟩]⟩

/-- Puts a layer under the stack. -/
def push (s : LayerStack) (l : Layer) : LayerStack := ⟨s.layers ++ [l]⟩

/-- The first layer with the given id. -/
def get? (s : LayerStack) (id : LayerId) : Option Layer := s.layers.find? (·.id == id)

/-- Whether the first layer with the given id is copper. -/
def isCopper (s : LayerStack) (id : LayerId) : Bool := (s.get? id).any (·.kind == .copper)

/-- The copper layers from top to bottom. -/
def copper (s : LayerStack) : List Layer := s.layers.filter (·.kind == .copper)

end LayerStack

end Ratsnest
