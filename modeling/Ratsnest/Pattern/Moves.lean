/-!
# Moves between places

A place in a text is the number of characters before it.  A set of places is a number whose bit
`i` says whether place `i` is in the set.  Moves are a relation between places that never goes
back: an array with a row for every place, the set of the places that can be reached from it.

The operations are those of relations: union, composition, powers, and the closure that allows any
number of moves.  Each costs a fixed number of passes over the rows, however often the relation
is repeated.
-/

namespace Ratsnest

/-- A relation between places, as the set of places reached from each place. -/
abbrev Moves := Array Nat

namespace Moves

/-- The set of one place. -/
def bit (i : Nat) : Nat := Nat.pow 2 i

/-- Staying at those of `n` places where `p` holds. -/
def stay (n : Nat) (p : Nat → Bool) : Moves :=
  (Array.range n).map fun i => if p i then bit i else 0

/-- Going on by one from those of `n` places where `p` holds. -/
def advance (n : Nat) (p : Nat → Bool) : Moves :=
  (Array.range n).map fun i => if p i then bit (i + 1) else 0

/-- The moves of either relation. -/
def union (a b : Moves) : Moves := a.zipWith (· ||| ·) b

/-- The first place of a set that has one. -/
def first (s : Nat) : Nat := (s ^^^ (s - 1)).log2

/-- The places reached from the places of a set: those reached from the first of them and those
reached from the others. -/
def image (m : Moves) (s : Nat) : Nat :=
  if s = 0 then 0 else m.getD (first s) 0 ||| image m (s - bit (first s))
termination_by s
decreasing_by
  rename_i h
  exact Nat.sub_lt (Nat.pos_of_ne_zero h) (Nat.pow_pos (by decide))

/-- A move of `a` followed by a move of `b`. -/
def comp (a b : Moves) : Moves := a.map b.image

/-- Exactly `n` moves. -/
def power (m : Moves) (n : Nat) : Moves :=
  if n = 0 then stay m.size fun _ => true
  else
    let half := power m (n / 2)
    let even := comp half half
    if n % 2 = 0 then even else comp even m
termination_by n
decreasing_by omega

/-- At most `n` moves. -/
def powers (m : Moves) (n : Nat) : Moves := power (union (stay m.size fun _ => true) m) n

/-- The places of `found` and those that the rows lead to from the places of `s`.  A place that has
been found brings nothing new, for its row has been added with it. -/
def gather (rows : Moves) (found s : Nat) : Nat :=
  if s = 0 then found
  else
    let all := found ||| rows.getD (first s) 0
    let others := s - bit (first s)
    gather rows all (others - (others &&& all))
termination_by s
decreasing_by
  rename_i h
  exact Nat.lt_of_le_of_lt (Nat.sub_le _ _)
    (Nat.sub_lt (Nat.pos_of_ne_zero h) (Nat.pow_pos (by decide)))

/-- Any number of moves.  The last places come first: what is reached from a place is the place
itself and what is reached from the later places that one move leads to. -/
def closure (m : Moves) : Moves :=
  (List.range m.size).foldr
    (fun i rows =>
      let s := m.getD i 0
      rows.setIfInBounds i (gather rows (bit i) (s - (s &&& bit i))))
    (Array.replicate m.size 0)

/-! ## Sets of places -/

/-- All `n` places. -/
def all (n : Nat) : Nat := bit n - 1

/-- What `n` rounds of `f` make of a set of places; nothing comes from no place. -/
def rounds (f : Nat → Nat) : Nat → Nat → Nat
  | 0, s => s
  | n + 1, s => if s = 0 then 0 else rounds f n (f s)

/-- What at most `n` rounds of `f` add to a set of places. -/
def upTo (f : Nat → Nat) : Nat → Nat → Nat
  | 0, s => s
  | n + 1, s => if s ||| f s = s then s else upTo f n (s ||| f s)

end Moves

end Ratsnest
