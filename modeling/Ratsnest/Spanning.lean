import Ratsnest.Subnet

/-!
# Spanning links

The shortest links between subnets, and those of them that join all subnets at the least total
cost.  Subnets are numbered in order; the first one is where the joined part starts to grow.
-/

namespace Ratsnest

universe u

/-- The shortest connection found between objects of two subnets. -/
structure Link (α : Type u) where
  source : ObjectId
  target : ObjectId
  bridge : Bridge α
  deriving DecidableEq, Repr

namespace Link

variable {α : Type u}

/-- The same link seen from its other end. -/
def swap (l : Link α) : Link α := ⟨l.target, l.source, l.bridge.swap⟩

/-- Whether `l` is strictly shorter than the best link so far. -/
def improves [Scalar α] (l : Link α) : Option (Link α) → Bool
  | none => true
  | some best => l.bridge.d2 < best.bridge.d2

/-- The rat line along a link. -/
def toRat [Scalar α] (l : Link α) : RatLine α :=
  ⟨l.bridge.a, l.bridge.b, l.bridge.layerA, l.bridge.layerB, l.source, l.target,
    l.bridge.touching⟩

variable [AngularScalar α]

/-- The link between two objects, if the policy admits one.  Where only selected objects count one
of the two must be selected. -/
def between? (s : Store α) (policy : Policy) (pair : ObjectId × ObjectId) : Option (Link α) := do
  let o ← s.get? pair.1
  let p ← s.get? pair.2
  if policy.onlySelected && !o.hasFlags .selected && !p.hasFlags .selected then none
  some ⟨pair.1, pair.2, ← o.shape.bridge? policy p.shape⟩

/-- The first of the shortest links between the given pairs and `best`.  Nothing is shorter than a
link between objects that touch, so the search ends there. -/
def shortest (s : Store α) (policy : Policy) (best : Option (Link α)) :
    List (ObjectId × ObjectId) → Option (Link α)
  | [] => best
  | pair :: pairs =>
    match between? s policy pair with
    | none => shortest s policy best pairs
    | some l =>
      if l.improves best then
        if l.bridge.touching then some l else shortest s policy (some l) pairs
      else shortest s policy best pairs

/-- The shortest link between two subnets. -/
def ofSubnets? (s : Store α) (policy : Policy) (a b : Subnet) : Option (Link α) :=
  shortest s policy none (a.objects.flatMap fun i => b.objects.map (i, ·))

end Link

/-- The shortest links between subnets.  Row `i` holds the links from subnet `i` to those with
greater numbers. -/
structure LinkTable (α : Type u) where
  size : Nat
  rows : Array (Array (Option (Link α)))

namespace LinkTable

variable {α : Type u}

/-- The rows of a table. -/
def rowsOf [AngularScalar α] (s : Store α) (policy : Policy) :
    List Subnet → List (Array (Option (Link α)))
  | [] => []
  | a :: subnets =>
    (subnets.map (Link.ofSubnets? s policy a)).toArray :: rowsOf s policy subnets

/-- The table of some subnets. -/
def ofSubnets [AngularScalar α] (s : Store α) (policy : Policy) (subnets : List Subnet) :
    LinkTable α :=
  ⟨subnets.length, (rowsOf s policy subnets).toArray⟩

/-- The link from subnet `i` to subnet `j`; there is none from a subnet to itself. -/
def get? (t : LinkTable α) (i j : Nat) : Option (Link α) :=
  if i < j then (t.rows[i]?.bind (·[j - i - 1]?)).join
  else if j < i then (t.rows[j]?.bind (·[i - j - 1]?)).join.map Link.swap
  else none

/-- Of two candidates the strictly shorter one, else the first. -/
def keepShorter [Scalar α] (best : Option (Nat × Link α)) (next : Nat × Link α) :
    Option (Nat × Link α) :=
  if next.2.improves (best.map (·.2)) then some next else best

/-- The shortest link from a joined subnet to another one, with the number of that one.  Of links
of one length it is the one with the lowest number outside, then the lowest number inside. -/
def nearest? [Scalar α] (t : LinkTable α) (joined : List Nat) : Option (Nat × Link α) :=
  let (inside, outside) := (List.range t.size).partition joined.contains
  (outside.flatMap fun i => inside.filterMap fun j => (t.get? j i).map (i, ·)).foldl
    keepShorter none

/-- The links of at most `n` rounds, each of which joins one more subnet by the shortest link
there is.  The rounds end early when no link is left. -/
def grow [Scalar α] (t : LinkTable α) : Nat → List Nat → List (Link α)
  | 0, _ => []
  | n + 1, joined =>
    match t.nearest? joined with
    | none => []
    | some (i, l) => l :: grow t n (i :: joined)

/-- The links that join the subnets to the first one. -/
def spanning [Scalar α] (t : LinkTable α) : List (Link α) := t.grow (t.size - 1) [0]

end LinkTable

end Ratsnest
