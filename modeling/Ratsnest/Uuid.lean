import Ratsnest.Text.Hex

/-!
# Universal identifiers

128-bit identifiers of boards and parts, written as 32 hexadecimal digits in groups of 8, 4, 4, 4
and 12 with dashes between them.
-/

namespace Ratsnest

/-- A 128-bit identifier. -/
abbrev Uuid := BitVec 128

namespace Uuid

instance : Std.TransOrd Uuid := inferInstance

instance : Std.LawfulEqOrd Uuid := inferInstance

/-- The number of digits in each group. -/
def groups : List Nat := [8, 4, 4, 4, 12]

/-- The last `count` hexadecimal digits of `n`, the first one first. -/
def hexDigits (count n : Nat) : List Char :=
  (List.range count).reverse.map fun i => Text.hexDigit (n / Nat.pow 16 i % 16)

/-- Cuts digits into groups of the given sizes, with dashes between the groups. -/
def hyphenate : List Nat → List Char → List Char
  | [], cs => cs
  | [n], cs => cs.take n
  | n :: ns, cs => cs.take n ++ '-' :: hyphenate ns (cs.drop n)

/-- Takes the dashes out of text that has them exactly between groups of the given sizes. -/
def unhyphenate? : List Nat → List Char → Option (List Char)
  | [], cs => if cs.isEmpty then some [] else none
  | [n], cs => if cs.length = n then some cs else none
  | n :: ns, cs =>
    match cs.drop n with
    | '-' :: rest => (unhyphenate? ns rest).map (cs.take n ++ ·)
    | _ => none

/-- The written form: digits in lower case, with dashes. -/
def text (u : Uuid) : String := String.ofList (hyphenate groups (hexDigits 32 u.toNat))

/-- The value of 32 hexadecimal digits. -/
def ofDigits? (cs : List Char) : Option Uuid :=
  if cs.length = 32 then (Text.hexNumber? cs).map (BitVec.ofNat 128) else none

/-- The name of the identifier scheme, which may be written in any case. -/
def scheme : List Char := "urn:uuid:".toList

/-- The text inside braces, or behind the name of the identifier scheme. -/
def unwrap (cs : List Char) : List Char :=
  match cs with
  | '\x7b' :: rest => if rest.length = 37 && rest.getLast? == some '\x7d' then rest.dropLast else cs
  | cs => if (cs.take scheme.length).map Char.toLower = scheme then cs.drop scheme.length else cs

/-- Reads an identifier: 32 digits alone, or with dashes, and then also in braces or behind
`urn:uuid:`, in any case. -/
def ofText? (s : String) : Option Uuid :=
  let cs := s.toList
  if cs.length = 32 then ofDigits? cs
  else (unhyphenate? groups (unwrap cs)).bind ofDigits?

end Uuid

end Ratsnest
