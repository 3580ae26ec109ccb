import Ratsnest.ObjectId
import Ratsnest.Terminal

/-!
# Errors

Why an operation refuses to do what it is asked.
-/

namespace Ratsnest

/-- An end of a rat line. -/
inductive RatEnd where
  | first
  | second
  deriving DecidableEq, Repr

/-- The word for an end. -/
def RatEnd.text : RatEnd → String
  | first => "first"
  | second => "second"

/-- Why an operation refuses. -/
inductive Error where
  | unknownObject (id : ObjectId)
  | invalidTerminal (text : String)
  | noTerminal (ratEnd : RatEnd)
  | sameTerminal (pin : Pin)
  | sameNet (net : String)
  | ambiguousMerge (a b : String)
  | nameCancelled
  | unknownNet (net : String)
  deriving DecidableEq, Repr

/-- The reason in words. -/
def Error.message : Error → String
  | unknownObject id => "Object " ++ id.text ++ " does not exist"
  | invalidTerminal text => "Invalid terminal '" ++ text ++ "', expected REFDES-PIN"
  | noTerminal ratEnd => "No terminal at the " ++ ratEnd.text ++ " end of the rat"
  | sameTerminal pin => "Both ends of the rat are terminal " ++ pin.text
  | sameNet net => "Both terminals are already on net '" ++ net ++ "'"
  | ambiguousMerge a b =>
    "Terminals belong to different nets '" ++ a ++ "' and '" ++ b ++ "'; refusing to merge them"
  | nameCancelled => "Net name entry was cancelled"
  | unknownNet net => "Net '" ++ net ++ "' does not exist"

/-- Reads the notation `REFDES-PIN`. -/
def Pin.parse (s : String) : Except Error Pin :=
  match Pin.ofText? s with
  | some p => .ok p
  | none => .error (.invalidTerminal s)

end Ratsnest
