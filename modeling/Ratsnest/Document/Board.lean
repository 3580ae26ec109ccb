import Ratsnest.Document.NetList
import Ratsnest.Document.Shape
import Ratsnest.Journal

/-!
# Boards as text

The content of a board is written as JSON text, and a board that is read has no history.  Objects
are kept under their ids, written in decimal; the id inside an object need not agree with the one
that it is kept under.
-/

namespace Ratsnest

variable {α : Type}

/-! ## Layers -/

namespace LayerKind

/-- The name of a kind of layer. -/
def name : LayerKind → String
  | copper => "Copper"
  | silk => "Silk"
  | mask => "Mask"
  | paste => "Paste"
  | outline => "Outline"

/-- The kind of layer with a name. -/
def ofName? : String → Option LayerKind
  | "Copper" => some copper
  | "Silk" => some silk
  | "Mask" => some mask
  | "Paste" => some paste
  | "Outline" => some outline
  | _ => none

/-- Reads a kind of layer. -/
def ofJson? (j : Json) : Option LayerKind := do
  match ← j.variant? with
  | (name, none) | (name, some .null) => ofName? name
  | _ => none

end LayerKind

/-- A layer as JSON. -/
def Layer.toJson (l : Layer) : Json :=
  .record [("id", l.id.toJson), ("name", .ofString l.name), ("kind", .ofString l.kind.name)]

/-- Reads a layer. -/
def Layer.ofJson? (j : Json) : Option Layer := do
  let f ← j.fields? ["id", "name", "kind"]
  some
    { id := ← f.required 0 Json.toUInt32?
      name := ← f.required 1 Json.toString?
      kind := ← f.required 2 LayerKind.ofJson? }

/-- A stack of layers as JSON. -/
def LayerStack.toJson (s : LayerStack) : Json :=
  .record [("groups", .array (s.layers.map Layer.toJson))]

/-- Reads a stack of layers. -/
def LayerStack.ofJson? (j : Json) : Option LayerStack := do
  let f ← j.fields? ["groups"]
  some ⟨← f.required 0 (Json.toList? Layer.ofJson?)⟩

/-! ## Stores -/

/-- An identifier as JSON. -/
def Uuid.toJson (u : Uuid) : Json := .ofString (Uuid.text u)

/-- Reads an identifier. -/
def Uuid.ofJson? (j : Json) : Option Uuid := j.toString?.bind Uuid.ofText?

/-- Reads a set of marks. -/
def Flags.ofJson? (j : Json) : Option Flags := j.toUInt32?.map Flags.mk

/-- The key of an object in the text of a board. -/
def ObjectId.key (id : ObjectId) : String := toString id.toNat

/-- Reads the key of an object: decimal digits without a leading zero. -/
def ObjectId.ofKey? (q : Json.Quoted) : Option ObjectId :=
  if q.raw.isEmpty || !q.raw.all Char.isDigit || (q.raw.head? == some '0' && q.raw ≠ ['0']) then
    none
  else
    let n := Json.Token.digitsValue q.raw
    if n < UInt64.size then some (.ofNat n) else none

/-- An object as JSON. -/
def BoardObject.toJson [JsonScalar α] (o : BoardObject α) : Json :=
  .record [("id", o.id.toJson), ("shape", o.shape.toJson),
    ("parent", .ofOption Uuid.toJson o.part), ("term", .ofOption Json.ofString o.pin),
    ("flags", .ofNat o.flags.bits.toNat)]

/-- Reads an object. -/
def BoardObject.ofJson? [JsonScalar α] (j : Json) : Option (BoardObject α) := do
  let f ← j.fields? ["id", "shape", "parent", "term", "flags"]
  some
    { id := ← f.required 0 Json.toUInt64?
      shape := ← f.required 1 Shape.ofJson?
      part := ← f.nullable 2 Uuid.ofJson?
      pin := ← f.nullable 3 Json.toString?
      flags := ← f.defaulted 4 .none Flags.ofJson? }

/-- A part as JSON. -/
def Part.toJson (p : Part) : Json :=
  .record [("id", Uuid.toJson p.id), ("refdes", .ofString p.refdes)]

/-- Reads a part. -/
def Part.ofJson? (j : Json) : Option Part := do
  let f ← j.fields? ["id", "refdes"]
  some ⟨← f.required 0 Uuid.ofJson?, ← f.required 1 Json.toString?⟩

/-- A store as JSON. -/
def Store.toJson [JsonScalar α] (s : Store α) : Json :=
  .record [("objects", s.objects.toJson ObjectId.key BoardObject.toJson),
    ("subcircuits", s.parts.toJson Uuid.text Part.toJson), ("next_id", .ofNat s.nextId.toNat)]

/-- Reads a store. -/
def Store.ofJson? [JsonScalar α] (j : Json) : Option (Store α) := do
  let f ← j.fields? ["objects", "subcircuits", "next_id"]
  some
    { objects := ← f.required 0 (SortedMap.ofJson? ObjectId.ofKey? BoardObject.ofJson?)
      parts := ← f.required 1
        (SortedMap.ofJson? (fun q => q.decode?.bind Uuid.ofText?) Part.ofJson?)
      nextId := ← f.required 2 Json.toUInt64? }

/-! ## Boards -/

namespace Content

variable [JsonScalar α]

/-- The content of a board as JSON. -/
def toJson (c : Content α) : Json :=
  .record [("id", Uuid.toJson c.id), ("name", .ofString c.name), ("layers", c.layers.toJson),
    ("store", c.store.toJson), ("netlist", c.netlist.toJson), ("changed", .bool c.changed)]

/-- Reads the content of a board. -/
def ofJson? (j : Json) : Option (Content α) := do
  let f ← j.fields? ["id", "name", "layers", "store", "netlist", "changed"]
  some
    { id := ← f.required 0 Uuid.ofJson?
      name := ← f.required 1 Json.toString?
      layers := ← f.required 2 LayerStack.ofJson?
      store := ← f.required 3 Store.ofJson?
      netlist := ← f.required 4 NetList.ofJson?
      changed := ← f.defaulted 5 false Json.toBool? }

end Content

namespace Board

variable [JsonScalar α]

/-- The text of a board. -/
def text (b : Board α) : String := b.content.toJson.pretty

/-- Reads the text of a board. -/
def ofText? (s : String) : Option (Board α) :=
  ((Json.parse? s).bind Content.ofJson?).map ofContent

end Board

end Ratsnest
