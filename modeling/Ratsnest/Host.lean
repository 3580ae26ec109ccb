import Ratsnest.ObjectId
import Ratsnest.Terminal

/-!
# The host

The editor around the board: it shows messages and short circuits, keeps a journal of connections
for the schematic, and is asked for net names.  Runs on a board are pure: they return the calls
made to the host in order, and take the answers of the host as functions of the calls before.
-/

namespace Ratsnest

/-- How grave a message is. -/
inductive MessageLevel where
  | info
  | warning
  deriving DecidableEq, Repr

/-- A crawl of one net has reached a terminal of another. -/
structure ShortNotice where
  net : String
  offenderNet : String
  /-- The object that carries the foreign terminal. -/
  offender : ObjectId
  /-- The object that the crawl came from. -/
  arrivedFrom : Option ObjectId
  deriving DecidableEq, Repr

/-- A call made to the host. -/
inductive HostCall where
  /-- Show a message. -/
  | message (level : MessageLevel) (text : String)
  /-- Offer a short circuit for highlighting. -/
  | short (notice : ShortNotice)
  /-- The set of shorted nets has changed. -/
  | shortsChanged
  /-- A terminal has been connected to a net. -/
  | connected (net : String) (pin : Pin)
  /-- Ask for a net name. -/
  | askName (suggested : String)
  deriving DecidableEq, Repr

/-- How the host answers, given the calls before. -/
structure Host where
  /-- Whether the host highlights a short circuit itself. -/
  handlesShort : List HostCall → ShortNotice → Bool
  /-- The net name that the user enters, unless the user cancels. -/
  netName : List HostCall → String → Option String

/-- The host that highlights nothing and accepts every suggested name. -/
def Host.silent : Host where
  handlesShort _ _ := false
  netName _ suggested := some suggested

end Ratsnest
