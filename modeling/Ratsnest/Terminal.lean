import Ratsnest.SortedMap

/-!
# Terminals

A terminal is one connection point of a net: a pin of a placed part.  Which terminal it is depends
on the part's reference designator and the pin alone; attributes are carried along.
-/

namespace Ratsnest

/-- Names with texts attached to terminals and nets. -/
abbrev Attributes := SortedMap String String

/-- A pin of a part, which is what makes a terminal the one it is. -/
structure Pin where
  refdes : String
  pin : String
  deriving DecidableEq, Repr

namespace Pin

/-- Pins are ordered by part, and within a part by pin name. -/
instance : Ord Pin := ⟨compareLex (compareOn refdes) (compareOn pin)⟩

instance : Std.TransOrd Pin :=
  inferInstanceAs (Std.TransCmp (compareLex (compareOn refdes) (compareOn pin)))

instance : Std.LawfulEqOrd Pin where
  toReflCmp := (inferInstance : Std.ReflOrd Pin)
  eq_of_compare {p q} h := by
    simp only [compare, compareLex_eq_eq, compareOn] at h
    obtain ⟨h₁, h₂⟩ := h
    cases p
    cases q
    exact congr (congrArg Pin.mk (Std.LawfulEqOrd.eq_of_compare h₁))
      (Std.LawfulEqOrd.eq_of_compare h₂)

/-- The notation `REFDES-PIN`. -/
def text (p : Pin) : String := p.refdes ++ "-" ++ p.pin

/-- Reads the notation `REFDES-PIN`, which is split at the first dash; neither part is empty. -/
def ofText? (s : String) : Option Pin :=
  match s.toList.span (· != '-') with
  | (c :: cs, _ :: d :: ds) => some ⟨String.ofList (c :: cs), String.ofList (d :: ds)⟩
  | _ => none

end Pin

/-- A pin together with the attributes it was listed with. -/
structure Terminal where
  refdes : String
  pin : String
  attributes : Attributes := ∅
  deriving DecidableEq

namespace Terminal

/-- What makes the terminal the one it is. -/
def key (t : Terminal) : Pin := ⟨t.refdes, t.pin⟩

/-- The terminal of a pin, without attributes. -/
def ofPin (p : Pin) : Terminal := { refdes := p.refdes, pin := p.pin }

/-- Whether two terminals are the same one, whatever their attributes. -/
def same (t u : Terminal) : Bool := t.key == u.key

/-- The notation `REFDES-PIN`. -/
def text (t : Terminal) : String := t.key.text

/-- Puts terminals in the order of their pins; equal ones keep their order. -/
def sort (ts : List Terminal) : List Terminal :=
  ts.mergeSort fun t u => (compare t.key u.key).isLE

end Terminal

end Ratsnest
