import Ratsnest.Decimal.Reading
import Ratsnest.Decimal.Text
import Ratsnest.Json.Basic

/-!
# Records

How typed values are read from JSON.  A record is an object whose known fields occur at most once,
in any order among unknown ones, or an array of its fields in their own order.  A variant is its
name, or an object with its name as the only key.  Readers fail without saying why.
-/

namespace Ratsnest

namespace Json

universe u

/-! ## Leaves -/

/-- A string. -/
def toString? : Json → Option String
  | string q => q.decode?
  | _ => none

/-- A truth value. -/
def toBool? : Json → Option Bool
  | bool b => some b
  | _ => none

/-- A natural number below `bound`. -/
def toNat? (bound : Nat) : Json → Option Nat
  | number n => n.toNat?.filter (· < bound)
  | _ => none

/-- A word of 32 bits. -/
def toUInt32? (j : Json) : Option UInt32 := (j.toNat? UInt32.size).map UInt32.ofNat

/-- A word of 64 bits. -/
def toUInt64? (j : Json) : Option UInt64 := (j.toNat? UInt64.size).map UInt64.ofNat

/-- A floating-point number. -/
def toFloat? : Json → Option Float
  | number n => n.toFloat?
  | _ => none

/-- A list of values. -/
def toList? {β : Type u} (read : Json → Option β) : Json → Option (List β)
  | array js => js.mapM read
  | _ => none

/-- The entries of an object, in the order written. -/
def toEntries? {κ ν : Type u} (readKey : Quoted → Option κ) (read : Json → Option ν) :
    Json → Option (List (κ × ν))
  | object fs => fs.mapM fun (k, j) => do some (← readKey k, ← read j)
  | _ => none

/-! ## Records -/

/-- The values found for the fields of a record, and whether they came from an array. -/
structure Fields where
  found : List (Option Json)
  positional : Bool

/-- The value of the only field called `name`, if there is one; fails if there are several. -/
def field? (name : String) (fs : List (String × Json)) : Option (Option Json) :=
  match fs.filter (·.1 == name) with
  | [] => some none
  | [(_, j)] => some (some j)
  | _ => none

/-- The fields of a record with the given names. -/
def fields? (names : List String) : Json → Option Fields
  | object fs => do
    let decoded ← fs.mapM fun (k, j) => k.decode?.map (·, j)
    some ⟨← names.mapM (field? · decoded), false⟩
  | array js =>
    if js.length ≤ names.length then
      some ⟨js.map some ++ List.replicate (names.length - js.length) none, true⟩
    else none
  | _ => none

namespace Fields

variable {β : Type u}

/-- The value of the field with number `i`. -/
def get? (f : Fields) (i : Nat) : Option Json := (f.found[i]?).join

/-- A field that must be there. -/
def required (f : Fields) (i : Nat) (read : Json → Option β) : Option β := (f.get? i).bind read

/-- A field that has a value of its own when it is missing. -/
def defaulted (f : Fields) (i : Nat) (value : β) (read : Json → Option β) : Option β :=
  match f.get? i with
  | none => some value
  | some j => read j

/-- A field that may be `null`, and may be missing from an object. -/
def nullable (f : Fields) (i : Nat) (read : Json → Option β) : Option (Option β) :=
  match f.get? i with
  | none => if f.positional then none else some none
  | some null => some none
  | some j => (read j).map some

end Fields

/-! ## Variants -/

/-- The name of a variant, and its content if it is written with one. -/
def variant? : Json → Option (String × Option Json)
  | string q => q.decode?.map (·, none)
  | object [(k, j)] => k.decode?.map (·, some j)
  | _ => none

/-! ## Writing -/

/-- A string. -/
def ofString (s : String) : Json := string (.ofString s)

/-- A natural number. -/
def ofNat (n : Nat) : Json := number (.ofNat n)

/-- A floating-point number; one that is not finite has no numeral and is written as `null`. -/
def ofFloat (x : Float) : Json :=
  if x.isFinite then number (Decimal.exactNumeral x) else null

/-- An object with the given fields. -/
def record (fs : List (String × Json)) : Json := object (fs.map fun (k, j) => (.ofString k, j))

/-- A variant with its content. -/
def variant (name : String) (content : Json) : Json := record [(name, content)]

/-- A value that may be absent. -/
def ofOption {β : Type u} (write : β → Json) : Option β → Json
  | none => null
  | some x => write x

end Json

/-- Scalars that are written as JSON values. -/
class JsonScalar (α : Type) where
  /-- The value that stands for a scalar. -/
  toJson : α → Json
  /-- The scalar that a value stands for. -/
  ofJson? : Json → Option α

instance : JsonScalar Float := ⟨Json.ofFloat, Json.toFloat?⟩

end Ratsnest
