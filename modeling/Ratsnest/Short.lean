import Ratsnest.Crawl.Basic
import Ratsnest.Host
import Ratsnest.NetList.Lookup

/-!
# Short circuits

While a net is crawled, every terminal found is looked up among all nets.  One of another net is a
short circuit; it is reported once for each pair of nets.  Where the host does not highlight it,
the objects on either side of the contact are marked when the run ends.
-/

namespace Ratsnest

universe u

/-- The name of a pair of nets, whichever comes first: the smaller name, a dash, the greater. -/
def pairName (a b : String) : String := if a ≤ b then a ++ "-" ++ b else b ++ "-" ++ a

/-- What a run knows about short circuits. -/
structure ShortWatch where
  /-- The net that is crawled. -/
  net : String
  /-- The net of every listed terminal. -/
  owners : SortedMap Pin (Terminal × String)
  /-- The pairs of nets reported so far, the last first. -/
  reported : List String
  /-- The objects to mark when the run ends. -/
  pending : List ObjectId

namespace ShortWatch

/-- A watch that has reported nothing. -/
def start (net : String) (l : NetList) : ShortWatch := ⟨net, l.owners, [], []⟩

/-- Goes on with another net. -/
def setNet (w : ShortWatch) (net : String) : ShortWatch := { w with net }

/-- The number of pairs reported. -/
def count (w : ShortWatch) : Nat := w.reported.length

/-- How every warning about a short circuit begins. -/
def warningOpening : String := "Warning! Net \""

/-- The text of the warning about a short circuit. -/
def warning (net offenderNet : String) (pin : Pin) : String :=
  warningOpening ++ net ++ "\" is shorted to net \"" ++ offenderNet ++ "\" at terminal " ++
    pin.text

/-- The net, other than the crawled one, that lists the pin of a discovered object. -/
def offense? {α : Type u} (w : ShortWatch) (s : Store α) (d : Discovery) :
    Option (Pin × String) := do
  let pin ← s.terminalOf? d.object
  let (_, net) ← w.owners.get? pin
  if net == w.net then none else some (pin, net)

/-- Looks at one discovery: a short circuit between nets that are not reported yet is reported. -/
def check {α : Type u} (host : Host) (s : Store α) (w : ShortWatch) (calls : List HostCall)
    (d : Discovery) : ShortWatch × List HostCall :=
  match w.offense? s d with
  | none => (w, calls)
  | some (pin, offenderNet) =>
    let pair := pairName w.net offenderNet
    if w.reported.contains pair then (w, calls)
    else
      let notice : ShortNotice := ⟨w.net, offenderNet, d.object, d.arrivedFrom⟩
      let calls := calls ++ [.message .warning (warning w.net offenderNet pin)]
      let handled := host.handlesShort calls notice
      let marks := if handled then [] else d.object :: d.arrivedFrom.toList
      ({ w with reported := pair :: w.reported, pending := w.pending ++ marks },
        calls ++ [.short notice])

/-- Looks at discoveries in order. -/
def checkAll {α : Type u} (host : Host) (s : Store α) (w : ShortWatch) (calls : List HostCall)
    (ds : List Discovery) : ShortWatch × List HostCall :=
  ds.foldl (fun (w, calls) d => w.check host s calls d) (w, calls)

/-- Ends the run: marks what is to be marked, and tells the host when there were shorts. -/
def finish {α : Type u} (w : ShortWatch) (c : Content α) (calls : List HostCall) :
    Content α × List HostCall :=
  let store := w.pending.foldl (fun s id => s.changeFlags id .warn .none) c.store
  if w.count = 0 then ({ c with store }, calls)
  else ({ c with store, changed := true }, calls ++ [.shortsChanged])

end ShortWatch

end Ratsnest
