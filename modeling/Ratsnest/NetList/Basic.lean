import Ratsnest.Terminal

/-!
# Nets

A net is a named logical connection: the terminals that must end up joined.  A net list holds the
nets of a board under their names.
-/

namespace Ratsnest

/-- A named connection with its terminals in the order they were added. -/
structure Net where
  name : String
  terminals : List Terminal := []
  /-- Draw no rat lines for this net. -/
  inhibited : Bool := false
  attributes : Attributes := ∅
  deriving DecidableEq

namespace Net

/-- Whether the net lists a terminal. -/
def contains (n : Net) (t : Terminal) : Bool := n.terminals.any t.same

/-- Lists a terminal, unless the net lists it already. -/
def add (n : Net) (t : Terminal) : Net :=
  if n.contains t then n else { n with terminals := n.terminals ++ [t] }

/-- The listed terminal with the same pin. -/
def find? (n : Net) (t : Terminal) : Option Terminal := n.terminals.find? t.same

/-- Drops the first terminal with the same pin. -/
def remove (n : Net) (t : Terminal) : Net :=
  { n with terminals := n.terminals.eraseP t.same }

end Net

/-- The nets of a board under their names. -/
structure NetList where
  nets : SortedMap String Net
  deriving DecidableEq

namespace NetList

/-- The list without nets. -/
def empty : NetList := ⟨∅⟩

/-- The net under a name. -/
def get? (l : NetList) (name : String) : Option Net := l.nets.get? name

/-- Whether there is a net under a name. -/
def contains (l : NetList) (name : String) : Bool := l.nets.contains name

/-- The nets in the order of their names. -/
def toList (l : NetList) : List Net := l.nets.values

/-- The net under a name, or a new one for it. -/
def getOrNew (l : NetList) (name : String) : Net := (l.get? name).getD { name := name }

/-- Changes the net under a name, which is created first when it does not exist. -/
def update (l : NetList) (name : String) (f : Net → Net) : NetList :=
  ⟨l.nets.insert name (f (l.getOrNew name))⟩

/-- Changes the net under a name, if there is one. -/
def modify (l : NetList) (name : String) (f : Net → Net) : NetList := ⟨l.nets.modify name f⟩

/-- Drops the net under a name. -/
def remove (l : NetList) (name : String) : NetList := ⟨l.nets.erase name⟩

/-- Lists a terminal on a net, which is created when it does not exist. -/
def addTerminal (l : NetList) (name : String) (t : Terminal) : NetList :=
  l.update name (·.add t)

/-- Drops a terminal from a net. -/
def removeTerminal (l : NetList) (name : String) (t : Terminal) : NetList :=
  l.modify name (·.remove t)

/-! ## Look-ups after a change -/

theorem get?_update (l : NetList) (name other : String) (f : Net → Net) :
    (l.update name f).get? other =
      if other = name then some (f (l.getOrNew name)) else l.get? other :=
  SortedMap.get?_insert l.nets name other _

theorem get?_modify (l : NetList) (name other : String) (f : Net → Net) :
    (l.modify name f).get? other = if other = name then (l.get? other).map f else l.get? other :=
  SortedMap.get?_modify l.nets name other f

theorem get?_remove (l : NetList) (name other : String) :
    (l.remove name).get? other = if other = name then none else l.get? other :=
  SortedMap.get?_erase l.nets name other

end NetList

end Ratsnest
