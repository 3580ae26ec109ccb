import Ratsnest.Session
import Ratsnest.Text.Blank

/-!
# Manual connections

Joining two terminals that the user points at: both come to one net, and a rat line is drawn
between them.  When the connection is refused nothing changes.
-/

namespace Ratsnest

/-- A rat line drawn by hand. -/
structure ManualRat where
  net : String
  rat : ObjectId
  /-- The pins that joined the net because of it. -/
  added : List Pin
  deriving DecidableEq, Repr

/-- Which net a connection of two terminals belongs to. -/
inductive NetChoice where
  /-- A net that lists one of them already. -/
  | existing (net : String)
  /-- A new net. -/
  | fresh

namespace Session

variable {α : Type} [AngularScalar α]

/-- The net for two terminals, of which at most one is on a net already. -/
def chooseNet (netA netB : Option String) : Except Error NetChoice :=
  match netA, netB with
  | some a, some b => .error (if a = b then .sameNet a else .ambiguousMerge a b)
  | some a, none => .ok (.existing a)
  | none, some b => .ok (.existing b)
  | none, none => .ok .fresh

/-- The name for a new net: the first free numbered one, or what the user makes of it.  A name of
white space counts as cancelled. -/
def newNetName (host : Host) (settings : Settings α) (interactive : Bool) (s : Session α) :
    Except Error (String × Session α) :=
  let suggested := s.board.content.netlist.unusedName settings.netPrefix
  if interactive then
    match host.netName s.calls suggested with
    | some name =>
      let name := Text.trim name
      if name.isEmpty then .error .nameCancelled else .ok (name, s.call (.askName suggested))
    | none => .error .nameCancelled
  else .ok (suggested, s)

/-- Lists a pin on a net and tells the host, unless the net lists it already. -/
def joinNet (net : String) (run : List Pin × Session α) (pin : Pin) : List Pin × Session α :=
  let (added, s) := run
  let t := Terminal.ofPin pin
  if (s.board.content.netlist.get? net).any (·.contains t) then run
  else (added ++ [pin], (s.update (·.execute (.list net t))).call (.connected net pin))

/-- The rat line between the objects under two ids, drawn from `a` to `b`. -/
def ratBetween (a b : Point α) (idA idB : ObjectId) (o p : BoardObject α) : RatLine α :=
  let bridge := o.shape.bridge? .precise p.shape
  { p1 := a
    p2 := b
    layer1 := (bridge.map (·.layerA)).getD 0
    layer2 := (bridge.map (·.layerB)).getD 0
    anchor1 := idA
    anchor2 := idB
    viaEquivalent := bridge.any (·.touching) }

/-- Joins the terminals under two points by a rat line, as one step of the history. -/
def connectByHand (host : Host) (settings : Settings α) (interactive : Bool) (s : Session α)
    (a b : Point α) : Except Error (ManualRat × Session α) := do
  let c := s.board.content
  let some idA := c.terminalAt? a | throw (.noTerminal .first)
  let some idB := c.terminalAt? b | throw (.noTerminal .second)
  let some pinA := c.store.terminalOf? idA | throw (.noTerminal .first)
  let some pinB := c.store.terminalOf? idB | throw (.noTerminal .first)
  if pinA = pinB then throw (.sameTerminal pinA)
  let choice ← chooseNet (c.netlist.netOf? (.ofPin pinA)) (c.netlist.netOf? (.ofPin pinB))
  let (net, s) ← match choice with
    | .existing net => pure (net, s)
    | .fresh => s.newNetName host settings interactive
  let line := ratBetween a b idA idB (← c.object idA) (← c.object idB)
  let (added, s) := [pinA, pinB].foldl (joinNet net) ([], s.update (·.begin "Add rat line"))
  let (id, board) := s.board.allocate
  let board := (board.execute (.addObject { id, shape := .rat line })).commit
  return (⟨net, id, added⟩, { s with board })

end Session

end Ratsnest
