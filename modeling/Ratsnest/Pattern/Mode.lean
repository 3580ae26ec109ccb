import Ratsnest.Pattern.Basic

/-!
# Modes

The flags in force at a place of a written pattern, and what they make of the characters there:
which of them are skipped, and which sets of characters are meant.
-/

namespace Ratsnest

namespace Pattern

/-- The flags in force at a place of the pattern. -/
structure Mode where
  ignoreCase : Bool := false
  multiLine : Bool := false
  dotAll : Bool := false
  verbose : Bool := false
  carriageReturn : Bool := false
  alphabet : Alphabet := .unicode
  deriving DecidableEq, Repr

/-- The text without leading blanks and comments; `comment` says whether it starts in one. -/
def skipBlanks (comment : Bool) : List Char → List Char
  | [] => []
  | c :: cs =>
    if comment then skipBlanks (c != '\n') cs
    else if Text.isBlank c then skipBlanks false cs
    else if c == '#' then skipBlanks true cs
    else c :: cs

theorem length_skipBlanks_le (comment : Bool) (cs : List Char) :
    (skipBlanks comment cs).length ≤ cs.length := by
  induction cs generalizing comment with
  | nil => simp [skipBlanks]
  | cons c cs ih =>
    have h := ih (c != '\n')
    have := ih false
    have := ih true
    grind [skipBlanks]

namespace Mode

/-! ## Reading -/

/-- In verbose mode blanks and comments mean nothing. -/
def skip (m : Mode) (cs : List Char) : List Char := if m.verbose then skipBlanks false cs else cs

theorem length_skip_le (m : Mode) (cs : List Char) : (m.skip cs).length ≤ cs.length := by
  grind [skip, length_skipBlanks_le]

/-- The longest run of characters with `p`, and what follows it; what means nothing is skipped
behind each of them. -/
def span (m : Mode) (p : Char → Bool) : List Char → List Char × List Char
  | [] => ([], [])
  | c :: cs =>
    if p c then
      let (run, rest) := m.span p (m.skip cs)
      (c :: run, rest)
    else ([], c :: cs)
termination_by cs => cs.length
decreasing_by
  have := m.length_skip_le cs
  grind

/-- The first `n` characters, if all have `p`, and what follows them, skipped as in `span`. -/
def take? (m : Mode) (p : Char → Bool) : Nat → List Char → Option (List Char × List Char)
  | 0, cs => some ([], cs)
  | _ + 1, [] => none
  | n + 1, c :: cs =>
    if p c then (m.take? p n (m.skip cs)).map fun (run, rest) => (c :: run, rest) else none

/-- The character that decides what a dash in a class means.  A comment in front of it hides no
more than its number sign. -/
def behindDash? (m : Mode) (cs : List Char) : Option Char :=
  if m.verbose then
    match cs.dropWhile Text.isBlank with
    | '#' :: rest => (rest.dropWhile Text.isBlank).head?
    | rest => rest.head?
  else cs.head?

/-! ## Sets of characters -/

/-- The set with the characters that count as the same under the flags. -/
def fold (m : Mode) (s : CharSet) : CharSet :=
  if m.ignoreCase then m.alphabet.closeCase s else s

/-- The set or its complement.  With the ASCII alphabet there is no complement: bytes that are no
text would belong to it. -/
def signed? (m : Mode) (negated : Bool) (s : CharSet) : Option CharSet :=
  match negated, m.alphabet with
  | false, _ => some s
  | true, .unicode => some s.compl
  | true, .ascii => none

/-- A complete class: closed under case where case is ignored, and only then negated. -/
def class? (m : Mode) (negated : Bool) (s : CharSet) : Option CharSet := m.signed? negated (m.fold s)

/-- The set of a period.  It has no ASCII form. -/
def period? (m : Mode) : Option CharSet :=
  let excluded : CharSet :=
    if m.dotAll then .none
    else if m.carriageReturn then .ofRanges [⟨10, 10⟩, ⟨13, 13⟩]
    else .single '\n'
  m.signed? true excluded

/-- The anchor of a caret. -/
def caret (m : Mode) : Anchor :=
  if !m.multiLine then .textStart else if m.carriageReturn then .lineStartCr else .lineStart

/-- The anchor of a dollar sign. -/
def dollar (m : Mode) : Anchor :=
  if !m.multiLine then .textEnd else if m.carriageReturn then .lineEndCr else .lineEnd

/-! ## Flags -/

/-- The mode with one flag set or cleared.  Greed changes where a match ends and not whether
there is one, so that flag changes nothing. -/
def set? (m : Mode) (on : Bool) : Char → Option Mode
  | 'i' => some { m with ignoreCase := on }
  | 'm' => some { m with multiLine := on }
  | 's' => some { m with dotAll := on }
  | 'x' => some { m with verbose := on }
  | 'R' => some { m with carriageReturn := on }
  | 'u' => some { m with alphabet := if on then .unicode else .ascii }
  | 'U' => some m
  | _ => none

/-- The flags behind `(?`, each at most once: the mode they set, whether a group opens with them
or they end in a closing parenthesis, and what follows. -/
def flags? (m : Mode) (seen : List Char) (on : Bool) :
    List Char → Option (Mode × Bool × List Char)
  | [] => none
  | c :: cs =>
    let dangling := seen.head? == some '-'
    if c == ':' then if dangling then none else some (m, true, cs)
    else if c == ')' then if dangling || seen.isEmpty then none else some (m, false, cs)
    else if seen.contains c then none
    else if c == '-' then m.flags? ('-' :: seen) false cs
    else match m.set? on c with
      | none => none
      | some m => m.flags? (c :: seen) on cs

end Mode

end Pattern

end Ratsnest
