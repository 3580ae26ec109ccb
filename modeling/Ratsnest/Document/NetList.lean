import Ratsnest.Json.Record
import Ratsnest.NetList.Basic

/-!
# Net lists as JSON

Maps are written as objects with their keys in ascending order; when they are read the last of
several entries under one key counts.  Attributes are left out when there are none, and a net that
is read need not say whether it is inhibited.
-/

namespace Ratsnest

/-- A map whose keys and values are written by the given functions. -/
def SortedMap.toJson {κ ν : Type} [Ord κ] (key : κ → String) (value : ν → Json)
    (m : SortedMap κ ν) : Json := .record (m.entries.map fun e => (key e.1, value e.2))

/-- Reads a map whose keys and values are read by the given functions. -/
def SortedMap.ofJson? {κ ν : Type} [Ord κ] [Std.TransOrd κ] [Std.LawfulEqOrd κ]
    (key : Json.Quoted → Option κ) (value : Json → Option ν) (j : Json) :
    Option (SortedMap κ ν) := (j.toEntries? key value).map .ofList

/-- The field for attributes, unless there are none. -/
def Attributes.toField (a : Attributes) : List (String × Json) :=
  if a.isEmpty then [] else [("attributes", a.toJson id Json.ofString)]

/-- Reads attributes. -/
def Attributes.ofJson? : Json → Option Attributes :=
  SortedMap.ofJson? Json.Quoted.decode? Json.toString?

/-- A terminal as JSON. -/
def Terminal.toJson (t : Terminal) : Json :=
  .record ([("refdes", .ofString t.refdes), ("pin", .ofString t.pin)] ++ t.attributes.toField)

/-- Reads a terminal. -/
def Terminal.ofJson? (j : Json) : Option Terminal := do
  let f ← j.fields? ["refdes", "pin", "attributes"]
  some
    { refdes := ← f.required 0 Json.toString?
      pin := ← f.required 1 Json.toString?
      attributes := ← f.defaulted 2 ∅ Attributes.ofJson? }

/-- A net as JSON. -/
def Net.toJson (n : Net) : Json :=
  .record ([("name", .ofString n.name), ("terminals", .array (n.terminals.map Terminal.toJson)),
    ("inhibit_rats", .bool n.inhibited)] ++ n.attributes.toField)

/-- Reads a net. -/
def Net.ofJson? (j : Json) : Option Net := do
  let f ← j.fields? ["name", "terminals", "inhibit_rats", "attributes"]
  some
    { name := ← f.required 0 Json.toString?
      terminals := ← f.required 1 (Json.toList? Terminal.ofJson?)
      inhibited := ← f.defaulted 2 false Json.toBool?
      attributes := ← f.defaulted 3 ∅ Attributes.ofJson? }

/-- A net list as JSON. -/
def NetList.toJson (l : NetList) : Json := .record [("nets", l.nets.toJson id Net.toJson)]

/-- Reads a net list. -/
def NetList.ofJson? (j : Json) : Option NetList := do
  let f ← j.fields? ["nets"]
  some ⟨← f.required 0 (SortedMap.ofJson? Json.Quoted.decode? Net.ofJson?)⟩

end Ratsnest
