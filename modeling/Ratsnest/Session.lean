import Ratsnest.Error
import Ratsnest.Host
import Ratsnest.Journal
import Ratsnest.NetList.Lookup

/-!
# Sessions

A board together with the calls made to the host so far: what the operations of the editor work
on.
-/

namespace Ratsnest

universe u

/-- A board with the calls made to the host so far. -/
structure Session (α : Type u) where
  board : Board α
  calls : List HostCall

namespace Session

variable {α : Type u}

/-- Makes a call to the host. -/
def call (s : Session α) (c : HostCall) : Session α := { s with calls := s.calls ++ [c] }

/-- Shows a message. -/
def message (s : Session α) (level : MessageLevel) (text : String) : Session α :=
  s.call (.message level text)

/-- Changes the board. -/
def update (s : Session α) (f : Board α → Board α) : Session α := { s with board := f s.board }

end Session

/-- The object under an id. -/
def Content.object {α : Type u} (c : Content α) (id : ObjectId) : Except Error (BoardObject α) :=
  match c.store.get? id with
  | some o => .ok o
  | none => .error (.unknownObject id)

/-- The net that a name stands for. -/
def Content.net {α : Type u} (c : Content α) (name : String) : Except Error Net :=
  match c.netlist.find? name with
  | some n => .ok n
  | none => .error (.unknownNet name)

end Ratsnest
