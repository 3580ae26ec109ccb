/-!
# Object ids
-/

namespace Ratsnest

/-- The number of a board object.  Numbers are given out in increasing order. -/
abbrev ObjectId := UInt64

/-- How an object id is shown to the user. -/
def ObjectId.text (id : ObjectId) : String := "#" ++ toString id.toNat

end Ratsnest
