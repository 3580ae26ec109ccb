import Ratsnest.Decimal.Text
import Ratsnest.Outcome
import Ratsnest.Session
import Ratsnest.Short
import Ratsnest.Spanning

/-!
# Rat synthesis

Drawing the rat lines that are still needed: between the subnets of one net, or for every net of
the board.  Each net is one step of the history; short circuits met on the way are reported.
-/

namespace Ratsnest

/-- Scalars that messages can show. -/
class ShownScalar (α : Type) where
  /-- The value with two decimal places. -/
  show2 : α → String

instance : ShownScalar Float := ⟨Decimal.fixedText 2⟩

/-- The rat lines drawn between subnets, and one more where subnets were left apart. -/
structure ConnectResult where
  drawn : Nat := 0
  missing : Nat := 0
  rats : List ObjectId := []
  deriving DecidableEq, Repr

namespace Session

variable {α : Type} [AngularScalar α] [ShownScalar α]

/-! ## One net -/

/-- The message about a rat line drawn. -/
def ratText (r : RatLine α) : String :=
  let point (p : Point α) : String :=
    "(" ++ ShownScalar.show2 p.x ++ ", " ++ ShownScalar.show2 p.y ++ ")"
  "Rat line from " ++ point r.p1 ++ " to " ++ point r.p2 ++ ", length " ++
    ShownScalar.show2 r.length

/-- The message about a net in too many pieces. -/
def tooManyText (start : Terminal) (pieces : Nat) : String :=
  "Net starting at " ++ start.text ++ " is split into " ++ toString pieces ++
    " pieces; too many to connect"

/-- Draws the rat line along a link. -/
def drawRat (policy : Policy) (s : Session α) (l : Link α) : ObjectId × Session α :=
  let s := if policy.info then s.message .info (ratText l.toRat) else s
  let (id, board) := s.board.allocate
  (id, { s with board := board.execute (.addObject { id, shape := .rat l.toRat }) })

/-- Draws the rat lines along links, in order. -/
def drawRats (policy : Policy) (s : Session α) : List (Link α) → List ObjectId × Session α
  | [] => ([], s)
  | l :: ls =>
    let (id, s) := s.drawRat policy l
    let (ids, s) := s.drawRats policy ls
    (id :: ids, s)

/-- Joins subnets into one by rat lines of the least total length, as one step of the history.
Fewer than two subnets need none, and too many are left alone. -/
def connect (settings : Settings α) (policy : Policy) (s : Session α) :
    List Subnet → ConnectResult × Session α
  | [] | [_] => ({}, s)
  | subnets@(first :: _) =>
    if settings.maxSubnets.toNat < subnets.length then
      ({ missing := 1 }, s.message .warning (tooManyText first.terminal subnets.length))
    else
      let links := (LinkTable.ofSubnets s.board.content.store policy subnets).spanning
      let (rats, s) := (s.update (·.begin "Add rat lines")).drawRats policy links
      ({ drawn := rats.length
         missing := if rats.length + 1 = subnets.length then 0 else 1
         rats },
        s.update (·.commit))

/-- Draws the rat lines that the terminals of one net still need, with an eye on short
circuits. -/
def addRatsFor (host : Host) (settings : Settings α) (policy : Policy) (w : ShortWatch)
    (s : Session α) (ts : List Terminal) : NetResult × ShortWatch × Session α :=
  let e := Extraction.ofTerminals settings s.board.content ts
  let (v, calls) := w.checkAll host s.board.content.store s.calls e.discoveries
  let (c, s) := { s with calls }.connect settings policy e.subnets
  ({ drawn := c.drawn
     missing := e.missing + c.missing
     shorts := v.count - w.count
     subnets := e.subnets.length }, v, s)

/-- Ends a run with an eye on short circuits. -/
def finishWatch (w : ShortWatch) (s : Session α) : Session α :=
  let (content, calls) := w.finish s.board.content s.calls
  ⟨{ s.board with content }, calls⟩

/-- Draws the rat lines that one net still needs. -/
def addRatsForNet (host : Host) (settings : Settings α) (policy : Policy) (s : Session α)
    (name : String) : Except Error (NetResult × Session α) := do
  let net ← s.board.content.net name
  let w := ShortWatch.start net.name s.board.content.netlist
  let (result, w, s) := s.addRatsFor host settings policy w net.terminals
  return (result, s.finishWatch w)

/-! ## All nets -/

/-- Whether a net lists one of the selected pins; every net does when there is no selection. -/
def inSelection (selection : Option (List Pin)) (net : Net) : Bool :=
  selection.all fun pins => net.terminals.any fun t => pins.contains t.key

/-- Draws the rat lines of one of all nets: none when it is inhibited or not selected. -/
def addRatsForOne (host : Host) (settings : Settings α) (policy : Policy)
    (selection : Option (List Pin)) (run : Totals × ShortWatch × Session α) (net : Net) :
    Totals × ShortWatch × Session α :=
  let (totals, w, s) := run
  if net.inhibited then ({ totals with disabled := totals.disabled + 1 }, w, s)
  else if inSelection selection net then
    let (result, w, s) := s.addRatsFor host settings policy (w.setNet net.name) net.terminals
    (totals.add result, w, s)
  else run

/-- Draws the rat lines that all nets still need, and shows the verdict. -/
def addRatsForAll (host : Host) (settings : Settings α) (policy : Policy)
    (selection : Option (List Pin)) (s : Session α) : Totals × Outcome × Session α :=
  let netlist := s.board.content.netlist
  let (totals, w, s) := netlist.toList.foldl (addRatsForOne host settings policy selection)
    ({}, .start "" netlist, s)
  let totals := { totals with shorts := w.count }
  let outcome := Outcome.ofTotals totals selection.isSome
  let level := if outcome.isGood then MessageLevel.info else .warning
  (totals, outcome, (s.finishWatch w).message level outcome.summary)

end Session

end Ratsnest
