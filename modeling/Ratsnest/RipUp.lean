import Ratsnest.Crawl.Basic
import Ratsnest.Session
import Ratsnest.Subnet

/-!
# Marking and ripping up nets

Operations on everything that is connected to a net: marking it, and taking away what no part
owns.  Rat lines can also be taken away all at once.
-/

namespace Ratsnest

/-- From one id to the next one fewer ids are ahead. -/
theorem Store.ahead_nextId? {α : Type} (s : Store α) (id : ObjectId) :
    (s.nextId? id).elim 0 (fun next => UInt64.size - next.toNat) < UInt64.size - id.toNat := by
  cases h : s.nextId? id with
  | none => exact Nat.sub_pos_of_lt id.toNat_lt
  | some next =>
    have hlt : id < next := compareOfLessAndEq_eq_lt.1 (SortedMap.lt_of_nextKey? h)
    exact Nat.sub_lt_sub_left id.toNat_lt (UInt64.lt_iff_toNat_lt.1 hlt)

namespace Board

variable {α : Type}

/-- Takes objects away, as one step of the history. -/
def removeAll (b : Board α) (description : String) (ids : List ObjectId) : Board α :=
  (ids.foldl (fun b id => b.execute (.remove id)) (b.begin description)).commit

/-- Takes away the rat lines, or only the selected ones, and returns how many they were. -/
def deleteRats (b : Board α) (selectedOnly : Bool) : Nat × Board α :=
  let doomed := b.content.store.rats.filter fun o => !selectedOnly || o.hasFlags .selected
  (doomed.length, b.removeAll "Delete rat lines" (doomed.map (·.id)))

/-- Clears marks on every object, and returns how many had one of them. -/
def clearFlags (b : Board α) (f : Flags) : Nat × Board α :=
  (b.content.store.countFlagged f, b.updateStore (·.clearFlags f))

variable [AngularScalar α]

/-- The objects connected to the located terminals, in the order of their discovery. -/
def connected (b : Board α) (settings : Settings α) (ts : List Terminal) : List Discovery :=
  let c := b.content
  (ConnectionIndex.ofContent c).crawlAll (Extraction.rules settings) c.store []
    (ts.filterMap fun t => c.store.find? t.key)

/-- Marks everything connected to a net, and returns how many objects that are. -/
def markNet (b : Board α) (settings : Settings α) (name : String) (set clear : Flags) :
    Except Error (Nat × Board α) := do
  let net ← b.content.net name
  let found := b.connected settings net.terminals
  return (found.length, b.updateStore (·.mark { set, clear } found))

/-- Whether the object under an id is found and owned by no part. -/
def isDoomed (s : Store α) (id : ObjectId) : Bool :=
  (s.get? id).any fun o => o.part.isNone && o.hasFlags .found

/-- Takes away one object found, without its mark. -/
def ripUpOne (b : Board α) (id : ObjectId) : Board α :=
  (b.updateStore (·.changeFlags id .none .found)).execute (.remove id)

/-- Takes away what is found and owned by no part from the id at a cursor on, and counts it.  Where
to go on is looked up before the object at the cursor is taken away. -/
def ripUpFrom (b : Board α) (cursor : Option ObjectId) : Nat × Board α :=
  match cursor with
  | none => (0, b)
  | some id =>
    let next := b.content.store.nextId? id
    if isDoomed b.content.store id then
      let (n, b) := (b.ripUpOne id).ripUpFrom next
      (n + 1, b)
    else b.ripUpFrom next
termination_by cursor.elim 0 fun id => UInt64.size - id.toNat
decreasing_by all_goals exact b.content.store.ahead_nextId? id

/-- Takes away everything connected to a net that no part owns, as one step of the history, and
returns how many objects that were. -/
def ripUp (b : Board α) (settings : Settings α) (name : String) :
    Except Error (Nat × Board α) := do
  let net ← b.content.net name
  let b := b.updateStore (·.clearFlags .found)
  let found := b.connected settings net.terminals
  let b := b.updateStore (·.mark { set := .found, clear := .none } found)
  let (n, b) := (b.begin "Rip up net").ripUpFrom b.content.store.firstId?
  return (n, b.commit.updateStore (·.clearFlags .found))

end Board

end Ratsnest
