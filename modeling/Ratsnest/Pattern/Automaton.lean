import Ratsnest.Pattern.Basic
import Ratsnest.Text.Utf8

/-!
# The size of automata

A pattern is matched by two automata over bytes, one that reads forward and finds where matches
end and one that reads backward and finds where they begin.  Only the forward one records groups.
Their sizes follow from the pattern alone, so a pattern whose automata would be too large is known
without building them: `Pattern.automatonSize`.

A state takes 32 bytes, and further 8 for each of its byte ranges or 4 for each of its ways out if
it has several.  A repetition with a count has a copy of its pattern for each repetition.
-/

namespace Ratsnest

open Text (ByteRange)

namespace Pattern

/-- Which way an automaton reads. -/
inductive Direction where
  | forward
  | backward
  deriving DecidableEq, Repr

/-- The bytes of a state. -/
def stateSize : Nat := 32

/-- The bytes of a state with `n` byte ranges. -/
def rangesSize (n : Nat) : Nat := stateSize + 8 * n

/-- The bytes of a state with `n` ways out. -/
def branchSize (n : Nat) : Nat := stateSize + 4 * n

/-- The sum of some sizes. -/
def total (ns : List Nat) : Nat := ns.foldl (· + ·) 0

/-! ## Sets of characters -/

/-- Sequences that begin alike, without their common first range; the groups are in order. -/
def tails (qs : List (List ByteRange)) : List (List (List ByteRange)) :=
  (qs.filter (!·.isEmpty)).splitBy (fun a b => a.head? == b.head?) |>.map (·.map List.tail)

/-- The parts of the sequences that are still to be read after some of their ranges, for at most
`n` ranges: each is a state of the forward automaton. -/
def remainders : Nat → List (List ByteRange) → List (List (List ByteRange))
  | 0, _ => []
  | n + 1, qs => if qs.all (·.isEmpty) then [] else qs :: (tails qs).flatMap (remainders n)

/-- How many ranges of `q` lie behind what it has in common with the sequence before it. -/
def added (before q : List ByteRange) : Nat :=
  q.length - ((before.zip q).takeWhile fun e => e.1 == e.2).length

/-- The size of the states for a set of characters.  Reading forward, equal remainders share a
state; reading backward, equal starts do. -/
def setSize (d : Direction) (s : CharSet) : Nat :=
  match s.single? with
  | some c => stateSize * c.utf8Size
  | none =>
    if s.isAscii then stateSize + rangesSize s.ranges.length
    else
      let qs := s.byteRanges
      match d with
      | .forward =>
        stateSize + total ((remainders 4 qs).eraseDups.map fun qs => rangesSize (tails qs).length)
      | .backward =>
        let states := (qs.zip ([] :: qs)).map fun (q, before) => added before q
        stateSize + branchSize qs.length + stateSize * total states

/-! ## Choices between words -/

/-- The characters of a pattern that is a sequence of single characters. -/
def word? : Pattern → Option (List Char)
  | one s => s.single?.map fun c => [c]
  | seq p q => do some ((← word? p) ++ (← word? q))
  | _ => none

/-- The words of a choice between words. -/
def words? : Pattern → Option (List (List Char))
  | alt p q => do some ((← words? p) ++ (← words? q))
  | p => (word? p).map fun w => [w]

/-- The first bytes of words, each with what follows it in the words that begin with it. -/
def byFirst (ws : List (List UInt8)) : List (UInt8 × List (List UInt8)) :=
  (ws.filterMap List.head?).eraseDups.map fun b =>
    (b, ws.filterMap fun w => if w.head? = some b then some w.tail else none)

/-- The size of the states that lead through words of at most `n` bytes to one last state.  Words
that end before others in the list are tried before those. -/
def treeSize : Nat → List (List UInt8) → Nat
  | 0, _ => 0
  | n + 1, ws =>
    if ws.all (·.isEmpty) then 0
    else
      let runs := (ws.splitBy fun a b => !a.isEmpty && !b.isEmpty).filter fun run =>
        !run.all (·.isEmpty)
      let ends := (ws.filter (·.isEmpty)).length
      let sizes := runs.map fun run =>
        let firsts := byFirst run
        (if firsts.length = 1 then stateSize else rangesSize firsts.length) +
          total (firsts.map fun e => treeSize n e.2)
      branchSize (runs.length + ends) + total sizes

/-- The size of the states for a choice between words. -/
def wordsSize (d : Direction) (ws : List (List Char)) : Nat :=
  let bytes := ws.map fun w => w.flatMap String.utf8EncodeChar
  let read := match d with
    | .forward => bytes
    | .backward => bytes.map List.reverse
  stateSize + treeSize ((bytes.map List.length).foldl max 0 + 1) read

/-! ## Patterns -/

/-- Whether every match of the pattern has a character in it. -/
def consumes : Pattern → Bool
  | empty => false
  | one s => !s.ranges.isEmpty
  | anchor _ => false
  | seq p q => consumes p || consumes q
  | alt p q => consumes p && consumes q
  | times p least _ => 0 < least && consumes p
  | group p => consumes p

/-- The size of a repetition of something of size `n`. -/
def timesSize (consumes : Bool) (n least : Nat) : Option Nat → Nat
  | none =>
    if least = 0 then
      if consumes then n + branchSize 2 else n + 2 * branchSize 2 + stateSize
    else least * n + branchSize 2
  | some most =>
    let optional := (most - least) * (n + branchSize 2)
    if least = most then least * n
    else if least = 0 ∧ most = 1 then optional + stateSize
    else (if least = 0 then stateSize else least * n) + stateSize + optional

/-- The size of the states for a pattern that stands alone or is a branch of a choice. -/
def size (d : Direction) : Pattern → Bool → Nat
  | alt p q, branch =>
    let branches := size d p true + size d q true
    if branch then branches
    else match words? (alt p q) with
      | some ws => wordsSize d ws
      | none => branches + 2 * stateSize
  | p, branch =>
    let n := match p with
      | empty => stateSize
      | one s => setSize d s
      | anchor _ => stateSize
      | seq p q => size d p false + size d q false
      | alt _ _ => 0
      | times p least most => timesSize p.consumes (size d p false) least most
      | group p => (if d = .forward then 2 * stateSize else 0) + size d p false
    if branch then n + 4 else n

/-- Whether every match begins, or read backward ends, at an end of the text. -/
def anchored (d : Direction) : Pattern → Bool
  | empty => false
  | one _ => false
  | anchor a => a = match d with
    | .forward => .textStart
    | .backward => .textEnd
  | seq p q => match d with
    | .forward => anchored d p || (consumesNothing p && anchored d q)
    | .backward => anchored d q || (consumesNothing q && anchored d p)
  | alt p q => anchored d p && anchored d q
  | times p least _ => 0 < least && anchored d p
  | group p => anchored d p

/-- The size of the whole automaton: the loop that skips what stands before a match, unless the
match is tied to an end of the text, the states of the pattern, those that record where the match
is, and the last one. -/
def automatonSize (d : Direction) (p : Pattern) : Nat :=
  let start := if anchored d p then stateSize else branchSize 2 + stateSize + rangesSize 1
  let record := if d = .forward then 2 * stateSize else 0
  start + record + size d p false + stateSize

/-- The greatest size of an automaton: ten megabytes. -/
def sizeLimit : Nat := 10 * 1024 * 1024

/-- Whether the automata of the pattern are within the limit. -/
def fits (p : Pattern) : Bool :=
  automatonSize .forward p ≤ sizeLimit && automatonSize .backward p ≤ sizeLimit

end Pattern

end Ratsnest
