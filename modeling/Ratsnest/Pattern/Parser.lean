import Ratsnest.Pattern.Automaton
import Ratsnest.Pattern.Bracket
import Ratsnest.Pattern.Prefixes
import Ratsnest.Text.LetterTable

/-!
# Reading patterns

Patterns are written in the usual syntax of regular expressions: literals, `.`, classes in
brackets, escapes, anchors, groups with names and flags, alternatives, and repetitions.  There is
no look-around and no back reference.

The reader goes through the characters once.  What is open around the current place is kept on a
stack; `Pattern.read?` fails on text that is no pattern.  `Pattern.parse?` also refuses patterns
that are too large to be searched for.
-/

namespace Ratsnest

namespace Pattern

/-! ## Repetitions and names -/

/-- A count, with blanks around it, and what follows it. -/
def count? (m : Mode) (cs : List Char) : Option (Nat × List Char) :=
  match m.span Char.isDigit (cs.dropWhile Text.isBlank) with
  | ([], _) => none
  | (ds, rest) =>
    let n := ds.foldl (fun n c => 10 * n + (c.toNat - '0'.toNat)) 0
    if n < UInt32.size then some (n, rest.dropWhile Text.isBlank) else none

/-- The bounds of a repetition behind its opening brace, and what follows it.  Without an upper
bound the closing brace comes right behind the comma. -/
def bounds? (m : Mode) (cs : List Char) : Option (Nat × Option Nat × List Char) := do
  let (least, rest) ← count? m (m.skip cs)
  match rest with
  | '\x7d' :: rest => some (least, some least, m.skip rest)
  | ',' :: rest =>
    match m.skip rest with
    | '\x7d' :: rest => some (least, none, m.skip rest)
    | rest =>
      match ← count? m rest with
      | (most, '\x7d' :: rest) => if least ≤ most then some (least, some most, m.skip rest) else none
      | _ => none
  | _ => none

/-- Whether a character may begin the name of a group. -/
def startsName (c : Char) : Bool := c == '_' || Text.inRanges Text.letterRanges c.toNat

/-- Whether a character may stand in the name of a group. -/
def inName (c : Char) : Bool :=
  startsName c || Text.inRanges Text.numberRanges c.toNat || c == '.' || c == '[' || c == ']'

/-- The name of a group up to its closing angle bracket, and what follows. -/
def groupName? (cs : List Char) : Option (List Char × List Char) :=
  match cs.span inName with
  | (c :: name, '>' :: rest) => if startsName c then some (c :: name, rest) else none
  | _ => none

/-! ## Reader -/

/-- A pattern with the depth of what it is written with. -/
structure Piece where
  pattern : Pattern
  depth : Nat

namespace Piece

/-- The greatest depth of some pieces, and one more if there are several. -/
def depthOf (ps : List Piece) : Nat :=
  let deepest := ps.foldl (fun d p => max d p.depth) 0
  if ps.length < 2 then deepest else deepest + 1

/-- The pieces in sequence. -/
def sequence (ps : List Piece) : Piece := ⟨.sequence (ps.map (·.pattern)), depthOf ps⟩

/-- The choice between the pieces. -/
def choice (ps : List Piece) : Piece := ⟨.choice (ps.map (·.pattern)), depthOf ps⟩

/-- The piece repeated. -/
def repeated (p : Piece) (least : Nat) (most : Option Nat) : Piece :=
  ⟨p.pattern.repeated least most, p.depth + 1⟩

end Piece

/-- A group that is still open: what stands before it, the mode to return to, and whether its place
can be asked for. -/
structure Group where
  mode : Mode
  branches : List Piece
  items : List Piece
  recorded : Bool

/-- What the reader knows at a place: the alternatives and the items of the current one, both the
last first, whether the last item can be repeated, and the groups around. -/
structure Reader where
  mode : Mode := {}
  branches : List Piece := []
  items : List Piece := []
  repeatable : Bool := false
  groups : List Group := []
  names : List (List Char) := []

namespace Reader

/-- The items of the current alternative in sequence. -/
def branch (r : Reader) : Piece := .sequence r.items.reverse

/-- All alternatives of the current group. -/
def body (r : Reader) : Piece := .choice (r.branch :: r.branches).reverse

/-- Adds an item of the given depth. -/
def push (r : Reader) (p : Pattern) (depth : Nat) : Reader :=
  { r with items := ⟨p, depth⟩ :: r.items, repeatable := true }

/-- Adds the set of a literal character. -/
def pushLiteral (r : Reader) (c : Char) : Reader := r.push (.one (r.mode.fold (.single c))) 0

/-- Repeats the last item, if there is one that can be repeated. -/
def repeatLast? (r : Reader) (least : Nat) (most : Option Nat) : Option Reader :=
  match r.items with
  | p :: ps => if r.repeatable then some { r with items := p.repeated least most :: ps } else none
  | [] => none

/-- Opens a group whose content is read in mode `m`. -/
def openGroup (r : Reader) (m : Mode) (recorded : Bool) : Reader :=
  { r with
    mode := m, branches := [], items := [], repeatable := false
    groups := ⟨r.mode, r.branches, r.items, recorded⟩ :: r.groups }

/-- Closes the innermost group. -/
def closeGroup? (r : Reader) : Option Reader :=
  match r.groups with
  | [] => none
  | g :: gs =>
    let p := r.body.pattern
    some { r with
      mode := g.mode, branches := g.branches, repeatable := true, groups := gs
      items := ⟨if g.recorded then .group p else p, r.body.depth + 1⟩ :: g.items }

/-- Opens a group with a name that no other group has. -/
def openNamed? (r : Reader) (cs : List Char) : Option (Reader × List Char) := do
  let (name, rest) ← groupName? cs
  if r.names.contains name then none
  some ({ r with names := name :: r.names }.openGroup r.mode true, rest)

/-- Changes the mode for the rest of the group.  The change counts as an item without content,
which cannot be repeated. -/
def setMode (r : Reader) (m : Mode) : Reader :=
  { r with mode := m, items := ⟨.empty, 0⟩ :: r.items, repeatable := false }

/-- Goes past an opening parenthesis, and returns what follows the head of the group. -/
def enter? (r : Reader) : List Char → Option (Reader × List Char)
  | '?' :: 'P' :: '<' :: cs => r.openNamed? cs
  | '?' :: '<' :: '=' :: _ => none
  | '?' :: '<' :: '!' :: _ => none
  | '?' :: '<' :: cs => r.openNamed? cs
  | '?' :: cs =>
    match r.mode.flags? [] true cs with
    | none => none
    | some (m, true, rest) => some (r.openGroup m false, rest)
    | some (m, false, rest) => some (r.setMode m, rest)
  | cs => some (r.openGroup r.mode true, cs)

/-- Leaves out the question mark that makes a repetition lazy. -/
def dropLazy : List Char → List Char
  | '?' :: cs => cs
  | cs => cs

/-- Goes past one construct, and returns what follows it. -/
def step? (r : Reader) : List Char → Option (Reader × List Char)
  | [] => none
  | '(' :: cs => r.enter? (r.mode.skip cs)
  | ')' :: cs => r.closeGroup?.map (·, cs)
  | '|' :: cs =>
    some ({ r with branches := r.branch :: r.branches, items := [], repeatable := false }, cs)
  | '[' :: cs =>
    (Bracket.read? r.mode cs).map fun (a, rest) => (r.push (.one a.set) a.depth, rest)
  | '?' :: cs => (r.repeatLast? 0 (some 1)).map (·, dropLazy cs)
  | '*' :: cs => (r.repeatLast? 0 none).map (·, dropLazy cs)
  | '+' :: cs => (r.repeatLast? 1 none).map (·, dropLazy cs)
  | '\x7b' :: cs => do
    let (least, most, rest) ← bounds? r.mode cs
    some (← r.repeatLast? least most, dropLazy rest)
  | '.' :: cs => r.mode.period?.map fun s => (r.push (.one s) 0, cs)
  | '^' :: cs => some (r.push (.anchor r.mode.caret) 0, cs)
  | '$' :: cs => some (r.push (.anchor r.mode.dollar) 0, cs)
  | '\\' :: cs =>
    (Escape.read? r.mode cs).map fun (e, rest) =>
      match e with
      | .literal c => (r.pushLiteral c, rest)
      | .set s => (r.push (.one s) 0, rest)
      | .anchor a => (r.push (.anchor a) 0, rest)
  | c :: cs => some (r.pushLiteral c, cs)

/-- Reads a text of at most `n` characters to its end, where no group may be open. -/
def run? : Nat → Reader → List Char → Option Piece
  | n, r, cs =>
    match r.mode.skip cs with
    | [] => if r.groups.isEmpty then some r.body else none
    | c :: cs =>
      match n with
      | 0 => none
      | n + 1 => (r.step? (c :: cs)).bind fun (r, rest) => run? n r rest

end Reader

/-- The greatest depth of a pattern. -/
def depthLimit : Nat := 250

/-- The pattern that a text writes, if it writes one that is not too deep. -/
def read? (s : String) : Option Pattern :=
  match Reader.run? s.length {} s.toList with
  | some p => if p.depth ≤ depthLimit then some p.pattern else none
  | none => none

/-- The pattern that a text writes, if it writes one that is neither too deep nor too large. -/
def parse? (s : String) : Option Pattern := (read? s).filter fun p => p.fits || p.isWords

end Pattern

end Ratsnest
