import Ratsnest.Pattern.Basic

/-!
# Prefixes of matches

The words that the matches of a pattern begin with, in the order in which they are tried, as long
as there are few of them.  A prefix is complete when it is a whole match.

A word that begins with an earlier one is never needed to tell whether there is a match.  If all
that remain are complete, the pattern is a choice between words (`Pattern.isWords`), and such a
pattern can be searched for without an automaton, however large that would be.
-/

namespace Ratsnest

namespace Pattern

/-- What some matches begin with, in bytes, and whether that is all of them. -/
structure Prefix where
  bytes : List UInt8
  complete : Bool
  deriving DecidableEq, Repr

/-- What all matches begin with; nothing is said if that is too much. -/
abbrev Prefixes := Option (List Prefix)

namespace Prefixes

/-- The greatest number of characters in a set that is taken apart. -/
def classLimit : Nat := 10

/-- The greatest number of repetitions that are written out. -/
def timesLimit : Nat := 10

/-- The greatest length of a prefix in bytes. -/
def lengthLimit : Nat := 100

/-- The greatest number of prefixes. -/
def countLimit : Nat := 250

/-- The empty prefix of a match that may be empty. -/
def start : Prefixes := some [⟨[], true⟩]

/-- The prefixes as beginnings of longer matches. -/
def longer (ps : Prefixes) : Prefixes := ps.map fun ps => ps.map fun p => ⟨p.bytes, false⟩

/-- Cuts prefixes that are too long. -/
def cut (ps : List Prefix) : List Prefix :=
  ps.map fun p =>
    if p.bytes.length ≤ lengthLimit then p else ⟨p.bytes.take lengthLimit, false⟩

/-- Merges neighbours that are equal; together they are complete only if both are. -/
def merge : List Prefix → List Prefix
  | p :: q :: ps =>
    if p.bytes = q.bytes then merge (⟨p.bytes, p.complete && q.complete⟩ :: ps)
    else p :: merge (q :: ps)
  | ps => ps
termination_by ps => ps.length

/-- The prefixes of one of two patterns. -/
def union : Prefixes → Prefixes → Prefixes
  | some ps, some qs =>
    if ps.length + qs.length ≤ countLimit then some (merge (ps ++ qs)) else none
  | _, _ => none

/-- The prefixes of two patterns in sequence: complete ones are continued. -/
def followedBy : Prefixes → Prefixes → Prefixes
  | none, _ => none
  | some ps, qs =>
    match qs.filter fun qs => ps.length * qs.length ≤ countLimit with
    | none => if ps.any (·.bytes.isEmpty) then none else longer (some ps)
    | some qs =>
      some (cut (merge (ps.flatMap fun p =>
        if p.complete then qs.map fun q => ⟨p.bytes ++ q.bytes, q.complete⟩ else [p])))

/-- The prefixes of `n` patterns in sequence that all have the same prefixes. -/
def replicate (ps : Prefixes) : Nat → Prefixes
  | 0 => start
  | n + 1 => (replicate ps n).followedBy ps

/-- One prefix for each character of a set, if there are few. -/
def ofSet (s : CharSet) : Prefixes :=
  if classLimit < s.size then none
  else some (s.ranges.flatMap fun r => (List.range (r.last - r.first + 1)).map fun i =>
    ⟨String.utf8EncodeChar (Char.ofNat (r.first + i)), true⟩)

end Prefixes

/-- The prefixes of the matches of a pattern. -/
def prefixes : Pattern → Prefixes
  | empty => .start
  | one s => .ofSet s
  | anchor _ => .start
  | seq p q => (prefixes p).followedBy (prefixes q)
  | alt p q => (prefixes p).union (prefixes q)
  | times p least most =>
    let ps := prefixes p
    if least = 0 then (if most = some 1 then ps else ps.longer).union .start
    else
      let written := ps.replicate (min least Prefixes.timesLimit)
      if most = some least ∧ least ≤ Prefixes.timesLimit then written else written.longer
  | group p => prefixes p

/-- Whether the pattern has neither groups nor anchors. -/
def isPlain : Pattern → Bool
  | empty => true
  | one _ => true
  | anchor _ => false
  | seq p q => isPlain p && isPlain q
  | alt p q => isPlain p && isPlain q
  | times p _ _ => isPlain p
  | group _ => false

/-- The prefixes that begin with no earlier one of them; `before` are the earlier ones. -/
def leading (before : List Prefix) : List Prefix → List Prefix
  | [] => []
  | p :: ps =>
    if before.any fun q => q.bytes.isPrefixOf p.bytes then leading before ps
    else p :: leading (p :: before) ps

/-- Whether the pattern is a choice between words, as far as its matches are concerned. -/
def isWords (p : Pattern) : Bool :=
  isPlain p && match prefixes p with
    | none => false
    | some ps =>
      !ps.isEmpty && ps.all (!·.bytes.isEmpty) && (leading [] ps).all (·.complete)

end Pattern

end Ratsnest
