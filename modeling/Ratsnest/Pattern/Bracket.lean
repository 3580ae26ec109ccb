import Ratsnest.Pattern.Escape

/-!
# Classes in brackets

A class lists characters, ranges, escapes, named ASCII classes and further classes.  Two lists may
be joined by a set operation, and operations go from left to right.  Beside its set every class
has a depth, which says how deeply lists, operations and classes are nested in it.
-/

namespace Ratsnest

namespace Pattern

/-- The operations between the sets in a class. -/
inductive SetOperation where
  | inter
  | diff
  | symmDiff

/-- The operation on sets. -/
def SetOperation.apply : SetOperation → CharSet → CharSet → CharSet
  | inter, a, b => a.inter b
  | diff, a, b => a.diff b
  | symmDiff, a, b => a.symmDiff b

/-- A set and the depth of what it is written with. -/
structure Nested where
  set : CharSet
  depth : Nat

/-- A class that is still open: the operand in front of an operation, and the list behind it with
its length and the greatest depth in it. -/
structure Bracket where
  negated : Bool
  before : Option (SetOperation × Nested) := none
  set : CharSet := .none
  count : Nat := 0
  depth : Nat := 0

namespace Bracket

/-- Adds a member to the list. -/
def add (b : Bracket) (a : Nested) : Bracket :=
  { b with set := b.set.union a.set, count := b.count + 1, depth := max b.depth a.depth }

/-- The list as an operand.  A list of several members is one level deeper than they are. -/
def operand (b : Bracket) : Nested := ⟨b.set, if b.count < 2 then b.depth else b.depth + 1⟩

/-- The operand in front joined with the list.  An operation is applied to sets closed under
case. -/
def value (m : Mode) (b : Bracket) : Nested :=
  match b.before with
  | none => b.operand
  | some (op, a) =>
    ⟨op.apply (m.fold a.set) (m.fold b.operand.set), max a.depth b.operand.depth + 1⟩

/-- Goes on to the list behind an operation. -/
def operate (m : Mode) (b : Bracket) (op : SetOperation) : Bracket :=
  { negated := b.negated, before := some (op, b.value m) }

/-- The closed class. -/
def close? (m : Mode) (b : Bracket) : Option Nested :=
  (m.class? b.negated (b.value m).set).map fun s => ⟨s, (b.value m).depth + 1⟩

/-! ## Members -/

/-- The ASCII class with the given name. -/
def asciiClass? (name : List Char) : Option (List (Char × Char)) :=
  match String.ofList name with
  | "alnum" => some [('0', '9'), ('A', 'Z'), ('a', 'z')]
  | "alpha" => some [('A', 'Z'), ('a', 'z')]
  | "ascii" => some [('\x00', '\x7f')]
  | "blank" => some [('\t', '\t'), (' ', ' ')]
  | "cntrl" => some [('\x00', '\x1f'), ('\x7f', '\x7f')]
  | "digit" => some [('0', '9')]
  | "graph" => some [('!', '~')]
  | "lower" => some [('a', 'z')]
  | "print" => some [(' ', '~')]
  | "punct" => some [('!', '/'), (':', '@'), ('[', '\x60'), ('\x7b', '~')]
  | "space" => some [('\t', '\r'), (' ', ' ')]
  | "upper" => some [('A', 'Z')]
  | "word" => some [('0', '9'), ('A', 'Z'), ('_', '_'), ('a', 'z')]
  | "xdigit" => some [('0', '9'), ('A', 'F'), ('a', 'f')]
  | _ => none

/-- An ASCII class behind an opening bracket: whether it is negated, its ranges, and what follows
it. -/
def ascii? : List Char → Option (Bool × List (Char × Char) × List Char)
  | ':' :: cs =>
    let (negated, cs) := match cs with
      | '^' :: cs => (true, cs)
      | cs => (false, cs)
    match cs.span (· != ':') with
    | (name, ':' :: ']' :: rest) => (asciiClass? name).map (negated, ·, rest)
    | _ => none
  | _ => none

/-- A single character or an escape, and what follows it. -/
def item? (m : Mode) : List Char → Option (Escape × List Char)
  | [] => none
  | '\\' :: cs => Escape.read? m cs
  | c :: cs => some (.literal c, cs)

/-- The set from one item to another.  The ASCII alphabet has no characters beyond ASCII. -/
def itemRange? (m : Mode) : Escape → Escape → Option CharSet
  | .literal c, .literal d =>
    if c ≤ d ∧ (m.alphabet = .unicode ∨ d.toNat < 0x80) then some (.range c d) else none
  | _, _ => none

/-- The set of an item alone. -/
def itemSet? (m : Mode) : Escape → Option CharSet
  | .literal c => itemRange? m (.literal c) (.literal c)
  | .set s => some s
  | .anchor _ => none

/-- A range, a single character or an escape, and what follows it.  A dash in front of a closing
bracket or of another dash makes no range. -/
def range? (m : Mode) (cs : List Char) : Option (CharSet × List Char) := do
  let (low, rest) ← item? m cs
  let rest := m.skip rest
  let alone : Option (CharSet × List Char) := (itemSet? m low).map (·, rest)
  match rest with
  | '-' :: rest =>
    if m.behindDash? rest == some ']' || m.behindDash? rest == some '-' then alone
    else
      let (high, rest) ← item? m (m.skip rest)
      (itemRange? m low high).map (·, rest)
  | _ => alone

/-! ## Reading -/

/-- Dashes at the start of a class, which stand for themselves. -/
def dashes (m : Mode) (b : Bracket) : List Char → Bracket × List Char
  | '-' :: cs => dashes m (b.add ⟨.single '-', 0⟩) (m.skip cs)
  | cs => (b, cs)
termination_by cs => cs.length
decreasing_by
  have := m.length_skip_le cs
  grind

/-- The start of a class behind its opening bracket: whether it is negated, the dashes and the
closing bracket that stand for themselves there, and what follows. -/
def start (m : Mode) (cs : List Char) : Bracket × List Char :=
  let (negated, cs) := match m.skip cs with
    | '^' :: cs => (true, m.skip cs)
    | cs => (false, cs)
  match dashes m { negated := negated } cs with
  | (b, ']' :: cs) =>
    if b.count = 0 then (b.add ⟨.single ']', 0⟩, m.skip cs) else (b, ']' :: cs)
  | (b, cs) => (b, cs)

/-- Reads an open class of at most `n` characters to its closing bracket, and returns what follows
it. -/
def run? (m : Mode) : Nat → Bracket → List Char → Option (Nested × List Char)
  | 0, _, _ => none
  | n + 1, b, cs =>
    match m.skip cs with
    | [] => none
    | ']' :: rest => (b.close? m).map (·, rest)
    | '[' :: rest =>
      match ascii? rest with
      | some (negated, rs, rest) =>
        match m.class? negated (.ofRanges (rs.map fun r => ⟨r.1.toNat, r.2.toNat⟩)) with
        | none => none
        | some s => run? m n (b.add ⟨s, 0⟩) rest
      | none =>
        let (inner, rest) := start m rest
        match run? m n inner rest with
        | none => none
        | some (a, rest) => run? m n (b.add a) rest
    | '&' :: '&' :: rest => run? m n (b.operate m .inter) rest
    | '-' :: '-' :: rest => run? m n (b.operate m .diff) rest
    | '~' :: '~' :: rest => run? m n (b.operate m .symmDiff) rest
    | cs =>
      match range? m cs with
      | none => none
      | some (s, rest) => run? m n (b.add ⟨s, 0⟩) rest

/-- A class behind its opening bracket, and what follows it. -/
def read? (m : Mode) (cs : List Char) : Option (Nested × List Char) :=
  let (b, rest) := start m cs
  run? m (cs.length + 1) b rest

end Bracket

end Pattern

end Ratsnest
