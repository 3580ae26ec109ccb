import Ratsnest.Pattern.Mode
import Ratsnest.Text.Hex

/-!
# Escapes

What the characters behind a backslash stand for: a character named by its code point or by a
letter, a set of characters, or an anchor.  A set may be named by a property of its characters.
Other punctuation stands for itself.
-/

namespace Ratsnest

namespace Pattern

/-- What an escape stands for. -/
inductive Escape where
  | literal (c : Char)
  | set (s : CharSet)
  | anchor (a : Anchor)

namespace Escape

/-- The character that hexadecimal digits name. -/
def hexChar? (ds : List Char) : Option Char :=
  if ds.isEmpty then none
  else (Text.hexNumber? ds).bind fun n => if n.isValidChar then some (Char.ofNat n) else none

/-- Whether a character is a hexadecimal digit. -/
def isHex (c : Char) : Bool := (Text.hexValue? c).isSome

/-- A character named by `count` hexadecimal digits or by digits in braces, and what follows. -/
def hex? (m : Mode) (count : Nat) (cs : List Char) : Option (Escape × List Char) :=
  match m.skip cs with
  | '\x7b' :: cs =>
    match m.span isHex (m.skip cs) with
    | (ds, '\x7d' :: rest) => (hexChar? ds).map fun c => (.literal c, m.skip rest)
    | _ => none
  | cs => do
    let (ds, rest) ← m.take? isHex count cs
    some (.literal (← hexChar? ds), rest)

/-- A character named by two hexadecimal digits.  With the ASCII alphabet they name a byte, which
beyond ASCII is no text. -/
def byte? (m : Mode) (cs : List Char) : Option (Escape × List Char) :=
  match hex? m 2 cs with
  | some (.literal c, rest) =>
    let braced := (m.skip cs).head? == some '\x7b'
    if m.alphabet = .unicode ∨ c.toNat < 0x80 ∨ braced then some (.literal c, rest) else none
  | _ => none

/-- The anchor whose name stands in braces behind `\b`. -/
def wordAnchor? (a : Alphabet) (name : List Char) : Option Anchor :=
  match String.ofList name with
  | "start" => some (.wordStart a)
  | "end" => some (.wordEnd a)
  | "start-half" => some (.wordStartHalf a)
  | "end-half" => some (.wordEndHalf a)
  | _ => none

/-- What stands before and behind the first occurrence of `mark`, if there is one. -/
def splitAt? (mark : List Char) : List Char → Option (List Char × List Char)
  | [] => none
  | c :: cs =>
    if mark.isPrefixOf (c :: cs) then some ([], (c :: cs).drop mark.length)
    else (splitAt? mark cs).map fun (before, behind) => (c :: before, behind)

/-- Whether a character may stand in the name of an anchor. -/
def inAnchorName (c : Char) : Bool := c.isAlpha || c == '-'

/-- A word boundary, and what follows it.  Braces with letters in them name its kind; others are
left for a repetition. -/
def wordEdge? (m : Mode) (cs : List Char) : Option (Escape × List Char) :=
  match cs with
  | '\x7b' :: inner =>
    match m.skip inner with
    | [] => none
    | c :: name =>
      if inAnchorName c then
        match m.span inAnchorName (c :: name) with
        | (name, '\x7d' :: rest) => (wordAnchor? m.alphabet name).map (.anchor ·, rest)
        | _ => none
      else some (.anchor (.wordEdge m.alphabet), cs)
  | cs => some (.anchor (.wordEdge m.alphabet), cs)

/-- The set that the text between the braces of a property names.  A name and a value are divided
by the first `!=`, or else by the first colon, or else by the first equals sign.  All three mean
that the name has the value. -/
def propertySet? (text : List Char) : Option CharSet :=
  match [['!', '='], [':'], ['=']].findSome? (splitAt? · text) with
  | some (name, value) => CharSet.valued? name value
  | none => CharSet.named? text

/-- A set named by one letter or by a text in braces, and what follows it.  The ASCII alphabet has
no such sets. -/
def property? (m : Mode) (negated : Bool) (cs : List Char) : Option (Escape × List Char) :=
  if m.alphabet = .ascii then none
  else
    match m.skip cs with
    | '\x7b' :: cs =>
      match m.span (· != '\x7d') (m.skip cs) with
      | (text, '\x7d' :: rest) => do
        some (.set (← m.class? negated (← propertySet? text)), rest)
      | _ => none
    | c :: cs => do some (.set (← m.class? negated (← CharSet.named? [c])), m.skip cs)
    | [] => none

/-- What the characters behind a backslash stand for, and what follows them. -/
def read? (m : Mode) : List Char → Option (Escape × List Char)
  | [] => none
  | 'x' :: cs => byte? m cs
  | 'u' :: cs => hex? m 4 cs
  | 'U' :: cs => hex? m 8 cs
  | 'd' :: cs => some (.set m.alphabet.digit, cs)
  | 's' :: cs => some (.set m.alphabet.blank, cs)
  | 'w' :: cs => some (.set m.alphabet.word, cs)
  | 'D' :: cs => (m.signed? true m.alphabet.digit).map (.set ·, cs)
  | 'S' :: cs => (m.signed? true m.alphabet.blank).map (.set ·, cs)
  | 'W' :: cs => (m.signed? true m.alphabet.word).map (.set ·, cs)
  | 'p' :: cs => property? m false cs
  | 'P' :: cs => property? m true cs
  | 'a' :: cs => some (.literal '\x07', cs)
  | 'f' :: cs => some (.literal '\x0c', cs)
  | 'n' :: cs => some (.literal '\n', cs)
  | 'r' :: cs => some (.literal '\r', cs)
  | 't' :: cs => some (.literal '\t', cs)
  | 'v' :: cs => some (.literal '\x0b', cs)
  | 'A' :: cs => some (.anchor .textStart, cs)
  | 'z' :: cs => some (.anchor .textEnd, cs)
  | 'b' :: cs => wordEdge? m cs
  | 'B' :: cs => some (.anchor (.notWordEdge m.alphabet), cs)
  | '<' :: cs => some (.anchor (.wordStart m.alphabet), cs)
  | '>' :: cs => some (.anchor (.wordEnd m.alphabet), cs)
  | c :: cs => if c.toNat < 0x80 && !c.isAlphanum then some (.literal c, cs) else none

end Escape

end Pattern

end Ratsnest
