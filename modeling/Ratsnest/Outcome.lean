/-!
# Outcomes

What a run reports: the numbers for one net, the totals over all nets, and the one verdict that
the user is shown.
-/

namespace Ratsnest

/-- The result of a run over one net. -/
structure NetResult where
  /-- Rat lines drawn. -/
  drawn : Nat := 0
  /-- Terminals without an object, and one more where subnets were left apart. -/
  missing : Nat := 0
  /-- Pairs of nets newly found shorted. -/
  shorts : Nat := 0
  subnets : Nat := 0
  deriving DecidableEq, Repr

/-- The totals of a run over all nets. -/
structure Totals where
  drawn : Nat := 0
  missing : Nat := 0
  /-- Nets left out because they are inhibited. -/
  disabled : Nat := 0
  shorts : Nat := 0
  /-- Nets gone through. -/
  nets : Nat := 0
  deriving DecidableEq, Repr

/-- Adds the result of one more net. -/
def Totals.add (t : Totals) (r : NetResult) : Totals :=
  { t with
    drawn := t.drawn + r.drawn
    missing := t.missing + r.missing
    shorts := t.shorts + r.shorts
    nets := t.nets + 1 }

/-- The verdict of a run over all nets. -/
inductive Outcome where
  /-- So many rat lines were drawn: there is routing left. -/
  | remaining (drawn : Nat)
  /-- There was a selection, and no net has a terminal in it. -/
  | noSelectedTerminal
  /-- Nothing was drawn, but not everything is connected as it should be. -/
  | incomplete (missing disabled shorts : Nat)
  /-- Everything is connected and nothing is shorted. -/
  | complete
  deriving DecidableEq, Repr

namespace Outcome

/-- The verdict on some totals: the first that applies, in the order of the constructors. -/
def ofTotals (t : Totals) (selective : Bool) : Outcome :=
  if 0 < t.drawn then remaining t.drawn
  else if selective && t.nets == 0 then noSelectedTerminal
  else if 0 < t.missing || 0 < t.disabled || 0 < t.shorts then
    incomplete t.missing t.disabled t.shorts
  else complete

/-- Whether the verdict is good enough to be no warning. -/
def isGood : Outcome → Bool
  | remaining _ | complete => true
  | noSelectedTerminal | incomplete _ _ _ => false

/-- A count with what it counts, unless it is zero. -/
def countText (n : Nat) (what : String) : List String :=
  if n = 0 then [] else [toString n ++ what]

/-- The verdict in words. -/
def summary : Outcome → String
  | remaining n => toString n ++ " rat line(s) remaining"
  | noSelectedTerminal => "No selected terminal on any net"
  | incomplete missing disabled shorts =>
    let parts := countText missing " terminal(s) or subnet(s) could not be connected" ++
      countText disabled " net(s) have rats disabled" ++
      countText shorts " short(s) between nets"
    "Nothing more to connect, but " ++ "; ".intercalate parts
  | complete => "Congratulations! The layout is complete and has no shorted nets"

end Outcome

end Ratsnest
