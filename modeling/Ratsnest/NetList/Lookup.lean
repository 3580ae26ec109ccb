import Ratsnest.NetList.Basic
import Ratsnest.Pattern.Parser
import Ratsnest.Text.LowerCase

/-!
# Finding nets

Nets are found by name, by name in any case, or by a pattern, and terminals by the net that lists
them.  Where several nets qualify the first one in name order counts.
-/

namespace Ratsnest

namespace NetList

/-! ## By name -/

/-- The first net whose name is the given one up to case. -/
def findAnyCase? (l : NetList) (name : String) : Option Net :=
  let lower := Text.lowerCase name
  l.toList.find? fun n => Text.lowerCase n.name == lower

/-- The first net with a match of the pattern in its name. -/
def findPattern? (l : NetList) (p : Pattern) : Option Net :=
  l.toList.find? fun n => p.occursIn n.name

/-- The net with exactly the given name, else up to case, else by reading the name as a pattern. -/
def find? (l : NetList) (name : String) : Option Net :=
  ((l.get? name).or (l.findAnyCase? name)).or ((Pattern.parse? name).bind l.findPattern?)

/-! ## By terminal -/

/-- The name of the first net that lists a terminal. -/
def netOf? (l : NetList) (t : Terminal) : Option String :=
  (l.toList.find? (·.contains t)).map (·.name)

/-- The listings of all nets: a terminal with the name of a net that lists it. -/
def listings (l : NetList) : List (Terminal × String) :=
  l.toList.flatMap fun n => n.terminals.map (·, n.name)

/-- Every listed pin with its first listing, for repeated look-ups. -/
def owners (l : NetList) : SortedMap Pin (Terminal × String) :=
  l.listings.foldl (fun m e => if m.contains e.1.key then m else m.insert e.1.key e) ∅

/-- The pins listed more than once, each with its first listing and the names of the nets that
list it. -/
def duplicates (l : NetList) : List (Terminal × List String) :=
  let listed : SortedMap Pin (Terminal × List String) :=
    l.listings.foldl (fun m e =>
      let (t, names) := (m.get? e.1.key).getD (e.1, [])
      m.insert e.1.key (t, names ++ [e.2])) ∅
  listed.values.filter fun e => 1 < e.2.length

/-! ## New names -/

/-- The name made of a text and a number. -/
def numberedName (start : String) (n : Nat) : String := start ++ toString n

/-- The first free name made of `start` and a number from 1 on.  One more number than there are
nets always has a free one among them. -/
def unusedName (l : NetList) (start : String) : String :=
  let numbers := (List.range (l.nets.size + 1)).map (· + 1)
  ((numbers.map (numberedName start)).find? fun name => !l.contains name).getD start

end NetList

end Ratsnest
