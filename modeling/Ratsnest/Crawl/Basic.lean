import Ratsnest.Crawl.Joins

/-!
# Crawls

A crawl starts from one object and discovers what is joined to it, directly or through other
objects, breadth first.  Objects visited by earlier crawls are left out, so several crawls that
share their visited objects discover each object once.
-/

namespace Ratsnest

universe u

/-- An object discovered by a crawl. -/
structure Discovery where
  object : ObjectId
  /-- The object that the crawl came from; none where it began. -/
  arrivedFrom : Option ObjectId
  kind : JoinKind
  deriving DecidableEq, Repr

/-- The joins that lead to an object which exists and is not visited, the first to each one. -/
def freshJoins (present : ObjectId → Bool) :
    List ObjectId → List (ObjectId × JoinKind) → List (ObjectId × JoinKind)
  | _, [] => []
  | visited, (id, kind) :: js =>
    if present id && !visited.contains id then
      (id, kind) :: freshJoins present (id :: visited) js
    else freshJoins present visited js

/-- What is discovered from a queue of objects whose joins are still to be followed.  At most `n`
objects are taken from the queue; every object of the store is taken at most once. -/
def spread (present : ObjectId → Bool) (joins : ObjectId → List (ObjectId × JoinKind)) :
    Nat → List ObjectId → List ObjectId → List Discovery
  | 0, _, _ => []
  | _, [], _ => []
  | n + 1, id :: queue, visited =>
    let found := freshJoins present visited (joins id)
    found.map (fun f => ⟨f.1, some id, f.2⟩) ++
      spread present joins n (queue ++ found.map (·.1)) (visited ++ found.map (·.1))

namespace ConnectionIndex

variable {α : Type u} [AngularScalar α]

/-- The objects joined to `seed` that are not visited, in the order of their discovery, `seed`
first.  There are none when `seed` is visited or does not exist. -/
def crawl (i : ConnectionIndex α) (r : JoinRules α) (s : Store α) (visited : List ObjectId)
    (seed : ObjectId) : List Discovery :=
  if s.contains seed && !visited.contains seed then
    ⟨seed, none, .start⟩ :: spread s.contains (i.joins r s) s.size [seed] (seed :: visited)
  else []

/-- The discoveries of crawls from several seeds that share their visited objects. -/
def crawlAll (i : ConnectionIndex α) (r : JoinRules α) (s : Store α) :
    List ObjectId → List ObjectId → List Discovery
  | _, [] => []
  | visited, seed :: seeds =>
    let found := i.crawl r s visited seed
    found ++ crawlAll i r s (visited ++ found.map (·.object)) seeds

end ConnectionIndex

/-- A change of marks on discovered objects. -/
structure Marking where
  set : Flags
  clear : Flags
  /-- Mark rat lines only. -/
  ratsOnly : Bool := false
  deriving DecidableEq, Repr

/-- Marks the discovered objects. -/
def Store.mark {α : Type u} (s : Store α) (m : Marking) (found : List Discovery) : Store α :=
  found.foldl (fun s d =>
    if !m.ratsOnly || (s.get? d.object).any (·.isRat) then s.changeFlags d.object m.set m.clear
    else s) s

end Ratsnest
