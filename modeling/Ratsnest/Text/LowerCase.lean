import Ratsnest.Text.CaseTable

/-!
# Lower case

Text in lower case, for comparisons that ignore case.  Characters are mapped one by one, except
that a capital sigma becomes the final form at the end of a word.
-/

namespace Ratsnest

namespace Text

/-- Whether the first character that is not passed over has a case. -/
def leadsCased (cs : List Char) : Bool :=
  match cs.dropWhile fun c => inRanges caseIgnorableRanges c.toNat with
  | [] => false
  | c :: _ => inRanges casedRanges c.toNat

/-- The lower-case form of a character standing alone.  A capital I with a dot keeps the dot as
a mark of its own. -/
def lowerChar (c : Char) : List Char :=
  if c = 'İ' then ['i', '\u0307'] else [shiftChar lowerCaseShifts c]

/-- The lower-case form of `cs`, where `before` are the characters before it, the last first.  A
capital sigma is final when letters stand before it and none behind it. -/
def lowerChars (before : List Char) : List Char → List Char
  | [] => []
  | c :: cs =>
    let here := if c = 'Σ' then [if leadsCased before && !leadsCased cs then 'ς' else 'σ']
      else lowerChar c
    here ++ lowerChars (c :: before) cs

/-- The text in lower case. -/
def lowerCase (s : String) : String := String.ofList (lowerChars [] s.toList)

end Text

end Ratsnest
