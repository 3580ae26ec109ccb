import Ratsnest.Pattern.Moves
import Ratsnest.Text.Property

/-!
# Patterns

Regular expressions over text, with moves between the places of a text as their meaning: a pattern
leads from where a match begins to where it ends.

* `Anchor` is a condition on a place.
* `Pattern.moves` is the meaning, one operation on relations per constructor, and `Pattern.reach`
  the image of a set of places under it.
* `Pattern.occursIn` says whether the pattern matches some part of a text.
* `Pattern.sequence`, `Pattern.choice` and `Pattern.repeated` build patterns in a normal form.
-/

namespace Ratsnest

/-- Which characters are letters, digits and blanks to a pattern: those of ASCII, or all. -/
inductive Alphabet where
  | ascii
  | unicode
  deriving DecidableEq, Repr

namespace Alphabet

/-- Decimal digits. -/
def digit : Alphabet → CharSet
  | ascii => .asciiDigit
  | unicode => .digit

/-- White space. -/
def blank : Alphabet → CharSet
  | ascii => .asciiBlank
  | unicode => .blank

/-- The characters that words are made of. -/
def word : Alphabet → CharSet
  | ascii => .asciiWord
  | unicode => .word

/-- The set with the characters that differ in case only. -/
def closeCase : Alphabet → CharSet → CharSet
  | ascii, s => s.closeAsciiCase
  | unicode, s => s.closeCase

end Alphabet

/-- A condition on a place in a text. -/
inductive Anchor where
  | textStart
  | textEnd
  | lineStart
  | lineEnd
  /-- The start of a line where a carriage return ends lines too. -/
  | lineStartCr
  /-- The end of a line where a carriage return ends lines too. -/
  | lineEndCr
  | wordEdge (a : Alphabet)
  | notWordEdge (a : Alphabet)
  | wordStart (a : Alphabet)
  | wordEnd (a : Alphabet)
  /-- No word goes on to the left. -/
  | wordStartHalf (a : Alphabet)
  /-- No word goes on to the right. -/
  | wordEndHalf (a : Alphabet)
  deriving DecidableEq, Repr

/-- Whether the condition holds between the characters `before` and `after`; either is missing at
an end of the text. -/
def Anchor.holds (a : Anchor) (before after : Option Char) : Bool :=
  let newLine (c : Char) : Bool := c == '\n'
  let carriageReturn (c : Char) : Bool := c == '\r'
  let inWord (a : Alphabet) (c : Option Char) : Bool := c.any a.word.contains
  match a with
  | textStart => before.isNone
  | textEnd => after.isNone
  | lineStart => before.all newLine
  | lineEnd => after.all newLine
  | lineStartCr => before.all newLine || (before.any carriageReturn && !after.any newLine)
  | lineEndCr => after.all carriageReturn || (after.any newLine && !before.any carriageReturn)
  | wordEdge a => inWord a before != inWord a after
  | notWordEdge a => inWord a before == inWord a after
  | wordStart a => !inWord a before && inWord a after
  | wordEnd a => inWord a before && !inWord a after
  | wordStartHalf a => !inWord a before
  | wordEndHalf a => !inWord a after

/-- A regular expression. -/
inductive Pattern where
  | empty
  | one (s : CharSet)
  | anchor (a : Anchor)
  | seq (p q : Pattern)
  | alt (p q : Pattern)
  /-- At least `least` times `p`, and at most `most` times if there is such a bound. -/
  | times (p : Pattern) (least : Nat) (most : Option Nat)
  /-- A group whose place in a match can be asked for. -/
  | group (p : Pattern)
  deriving DecidableEq, Repr

namespace Pattern

/-! ## Meaning -/

/-- From where to where the pattern leads in a text. -/
def moves (text : Array Char) : Pattern → Moves
  | empty => .stay (text.size + 1) fun _ => true
  | one s => .advance (text.size + 1) fun i => (text[i]?).any s.contains
  | anchor a =>
    .stay (text.size + 1) fun i => a.holds (if i = 0 then none else text[i - 1]?) text[i]?
  | seq p q => (moves text p).comp (moves text q)
  | alt p q => (moves text p).union (moves text q)
  | times p least most =>
    let m := moves text p
    (m.power least).comp (match most with
      | none => m.closure
      | some most => m.powers (most - least))
  | group p => moves text p

/-- Where the pattern leads from the places of a set: their image under its moves, without regard
to other places except in what may be repeated any number of times. -/
def reach (text : Array Char) : Pattern → Nat → Nat
  | seq p q, s => reach text q (reach text p s)
  | alt p q, s => reach text p s ||| reach text q s
  | times p least none, s => (moves text p).closure.image (Moves.rounds (reach text p) least s)
  | times p least (some most), s =>
    Moves.upTo (reach text p) (most - least) (Moves.rounds (reach text p) least s)
  | group p, s => reach text p s
  | p, s => (moves text p).image s

/-- Whether the pattern matches some part of the text. -/
def occursIn (p : Pattern) (s : String) : Bool :=
  let text := s.toList.toArray
  reach text p (Moves.all (text.size + 1)) != 0

/-! ## Normal form

Sequences and choices are nested to the right and not into themselves, a sequence has no empty
member, and a choice between characters or between sets of characters is one set.  A repetition
of what only matches nothing is no more than one.
-/

/-- The members of a sequence. -/
def items : Pattern → List Pattern
  | empty => []
  | seq p q => items p ++ items q
  | p => [p]

/-- The members of a choice. -/
def branches : Pattern → List Pattern
  | alt p q => branches p ++ branches q
  | p => [p]

/-- The patterns one after the other. -/
def sequence (ps : List Pattern) : Pattern :=
  match (ps.flatMap items).reverse with
  | [] => empty
  | p :: ps => ps.foldl (fun q p => seq p q) p

/-- The only character that a pattern matches, if it is a single character. -/
def char? : Pattern → Option Char
  | one s => s.single?
  | _ => none

/-- The set that a pattern matches one character of, if it has not just one member. -/
def class? : Pattern → Option CharSet
  | one s => if s.single?.isSome then none else some s
  | _ => none

/-- Any one of the patterns, the first ones preferred. -/
def choice (ps : List Pattern) : Pattern :=
  let ps := ps.flatMap branches
  match ps.reverse with
  | [] => one .none
  | [p] => p
  | p :: qs =>
    match ps.mapM char?, ps.mapM class? with
    | some cs, _ => one (.ofRanges (cs.map fun c => ⟨c.toNat, c.toNat⟩))
    | none, some ss => one (.ofRanges (ss.flatMap (·.ranges)))
    | none, none => qs.foldl (fun q p => alt p q) p

/-- Whether no match of the pattern has a character in it. -/
def consumesNothing : Pattern → Bool
  | empty => true
  | one _ => false
  | anchor _ => true
  | seq p q => consumesNothing p && consumesNothing q
  | alt p q => consumesNothing p && consumesNothing q
  | times p _ _ => consumesNothing p
  | group p => consumesNothing p

/-- The pattern at least `least` times, and at most `most` times if there is such a bound. -/
def repeated (p : Pattern) (least : Nat) (most : Option Nat) : Pattern :=
  let (least, most) := if consumesNothing p then (min least 1, some (min (most.getD 1) 1)) else (least, most)
  if most = some 0 then empty
  else if least = 1 ∧ most = some 1 then p
  else times p least most

end Pattern

end Ratsnest
