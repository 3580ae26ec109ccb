import Ratsnest.Decimal.Numeral
import Ratsnest.Json.Quoted

/-!
# JSON tokens

The words of a JSON text: punctuation, literals, numerals and quoted text.  `Token.ofChars?`
splits a text into them and skips blanks between them.
-/

namespace Ratsnest

namespace Json

/-- A word of a JSON text. -/
inductive Token where
  | openArray
  | closeArray
  | openObject
  | closeObject
  | comma
  | colon
  | null
  | bool (b : Bool)
  | number (n : Numeral)
  | string (q : Quoted)
  deriving DecidableEq, Repr

namespace Token

/-- Whether a character may stand between tokens. -/
def isBlank (c : Char) : Bool := c == ' ' || c == '\n' || c == '\r' || c == '\t'

/-- The value of a string of decimal digits. -/
def digitsValue (cs : List Char) : Nat :=
  cs.foldl (fun n c => 10 * n + (c.toNat - '0'.toNat)) 0

/-- The longest run of digits, and what follows it. -/
def digits (cs : List Char) : List Char × List Char := cs.span Char.isDigit

/-- Whether a minus sign leads, and what follows it. -/
def sign : List Char → Bool × List Char
  | '-' :: cs => (true, cs)
  | cs => (false, cs)

/-- The digits before the point, and what follows them.  No zero leads further digits. -/
def whole? (cs : List Char) : Option (List Char × List Char) :=
  let (ds, rest) := digits cs
  if ds.isEmpty || (ds.head? == some '0' && ds.length ≠ 1) then none else some (ds, rest)

/-- The digits behind a point, none if there is no point, and what follows them. -/
def fraction? : List Char → Option (List Char × List Char)
  | '.' :: cs =>
    match digits cs with
    | ([], _) => none
    | (ds, rest) => some (ds, rest)
  | cs => some ([], cs)

/-- Whether a minus sign leads, and what follows it or a plus sign. -/
def exponentSign : List Char → Bool × List Char
  | '+' :: cs => (false, cs)
  | cs => sign cs

/-- The sign and digits of an exponent, and what follows them. -/
def exponent? (cs : List Char) : Option (Int × List Char) :=
  let (negative, cs) := exponentSign cs
  match digits cs with
  | ([], _) => none
  | (ds, rest) =>
    some (if negative then -(digitsValue ds : Int) else (digitsValue ds : Int), rest)

/-- The exponent, if there is one, and what follows it. -/
def suffix? : List Char → Option (Option Int × List Char)
  | [] => some (none, [])
  | c :: cs =>
    if c == 'e' || c == 'E' then (exponent? cs).map fun (e, rest) => (some e, rest)
    else some (none, c :: cs)

/-- A numeral and what follows it: no zero leads the digits, and digits stand on both sides of a
point and in an exponent. -/
def numeral? (cs : List Char) : Option (Numeral × List Char) := do
  let (negative, cs) := sign cs
  let (whole, cs) ← whole? cs
  let (fraction, cs) ← fraction? cs
  let (exponent, cs) ← suffix? cs
  some (⟨negative, digitsValue whole, fraction.length, digitsValue fraction, exponent⟩, cs)

/-- The first token of a text that does not begin with a blank, and what follows it. -/
def first? : List Char → Option (Token × List Char)
  | '[' :: cs => some (openArray, cs)
  | ']' :: cs => some (closeArray, cs)
  | '{' :: cs => some (openObject, cs)
  | '}' :: cs => some (closeObject, cs)
  | ',' :: cs => some (comma, cs)
  | ':' :: cs => some (colon, cs)
  | 'n' :: 'u' :: 'l' :: 'l' :: cs => some (null, cs)
  | 't' :: 'r' :: 'u' :: 'e' :: cs => some (bool true, cs)
  | 'f' :: 'a' :: 'l' :: 's' :: 'e' :: cs => some (bool false, cs)
  | '"' :: cs => (Quoted.scan cs).map fun (raw, rest) => (string ⟨raw⟩, rest)
  | cs => (numeral? cs).map fun (n, rest) => (number n, rest)

/-- The tokens of a text of at most `n` characters. -/
def scan : Nat → List Char → Option (List Token)
  | _, [] => some []
  | 0, _ :: _ => none
  | n + 1, c :: cs =>
    if isBlank c then scan n cs
    else match first? (c :: cs) with
      | none => none
      | some (t, rest) => (scan n rest).map (t :: ·)

/-- The tokens of a text. -/
def ofChars? (cs : List Char) : Option (List Token) := scan cs.length cs

end Token

end Json

end Ratsnest
