import Ratsnest.Text.PropertyTable
import Ratsnest.Text.ScriptTable

/-!
# Sets of characters by property

The sets of characters that have a name: those of a category, of a script, or with a property.
Names are compared loosely, so that `Uppercase_Letter` and `is uppercase letter` are the same.
-/

namespace Ratsnest

namespace Text

/-- The characters that have the property. -/
def Property.set (p : Property) : CharSet :=
  (CharSet.ofRanges (p.categories.flatMap (·.ranges) ++ p.further)).diff ⟨p.left⟩

/-- The characters that are used with several scripts. -/
def sharedCharacters : CharSet := .ofRanges (scripts.flatMap (·.shared))

/-- The characters used with the script.  What is common to all scripts, or inherits its script,
is only what is not used with certain ones. -/
def Script.extended (s : Script) : CharSet :=
  if s.names.contains "common" || s.names.contains "inherited" then
    CharSet.diff ⟨s.own⟩ sharedCharacters
  else .ofRanges (s.own ++ s.shared)

/-- The script with the given name. -/
def script? (name : String) : Option Script := scripts.find? (·.names.contains name)

/-- The property with the given name. -/
def property? (name : String) : Option Property := properties.find? (·.names.contains name)

/-- The form of a name in which names are compared: without `is` in front, blanks, dashes and
underscores, in lower case. -/
def looseName (name : List Char) : String :=
  let simple (cs : List Char) : List Char :=
    (cs.filter fun c => c.toNat < 0x80 && c != ' ' && c != '_' && c != '-').map Char.toLower
  let named : List Char := match name with
    | c :: d :: cs =>
      if c.toLower == 'i' && d.toLower == 's' then
        if simple cs = ['c'] then ['i', 's', 'c'] else simple cs
      else simple name
    | cs => simple cs
  String.ofList named

end Text

namespace CharSet

open Text

/-- The characters that words are made of: letters, marks, decimal digits, connecting punctuation
and joiners. -/
def word : CharSet :=
  let categories : List Category := Category.marks ++ [.decimalNumber, .connectorPunctuation]
  let properties := ["alphabetic", "joincontrol"].filterMap property?
  ofRanges (properties.flatMap (·.set.ranges) ++ categories.flatMap (·.ranges))

/-- The set with the given name: of a property, a category or a script, whichever is found first.
The short names `cf`, `lc` and `sc` are those of categories. -/
def named? (name : List Char) : Option CharSet :=
  let n := looseName name
  let property := if ["cf", "lc", "sc"].contains n then Option.none else property? n
  ((property.map (·.set)).or (category? n)).or ((script? n).map fun s => ⟨s.own⟩)

/-- The set of the characters for which the named property has the named value. -/
def valued? (property value : List Char) : Option CharSet :=
  match looseName property with
  | "gc" | "generalcategory" => category? (looseName value)
  | "sc" | "script" => (script? (looseName value)).map fun s => ⟨s.own⟩
  | "scx" | "scriptextensions" => (script? (looseName value)).map (·.extended)
  | _ => Option.none

end CharSet

end Ratsnest
