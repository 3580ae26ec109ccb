import Ratsnest.Crawl.Basic
import Ratsnest.Settings

/-!
# Subnets

The pieces a net falls into: terminals joined by copper, inside a part, or by rat lines drawn
already belong to one piece.
-/

namespace Ratsnest

universe u

/-- A piece of a net. -/
structure Subnet where
  /-- The terminal that the piece was crawled from. -/
  terminal : Terminal
  /-- The objects of the piece, rat lines apart, in the order of their discovery. -/
  objects : List ObjectId
  deriving DecidableEq

/-- The pieces of a net, the number of its terminals with no object, and all discoveries. -/
structure Extraction where
  subnets : List Subnet := []
  missing : Nat := 0
  discoveries : List Discovery := []

namespace Extraction

variable {α : Type u} [AngularScalar α]

/-- The rules of a crawl that looks for subnets. -/
def rules (settings : Settings α) : JoinRules α := ⟨settings.bloat, settings.ignoreClearance, true⟩

/-- Crawls from the terminals in order, except from those that an earlier crawl has reached. -/
def run (i : ConnectionIndex α) (r : JoinRules α) (s : Store α) (visited : List ObjectId) :
    List Terminal → Extraction
  | [] => {}
  | t :: ts =>
    match s.find? t.key with
    | none =>
      let rest := run i r s visited ts
      { rest with missing := rest.missing + 1 }
    | some seed =>
      if visited.contains seed then run i r s visited ts
      else
        let found := i.crawl r s visited seed
        let objects := (found.map (·.object)).filter fun id => (s.get? id).any fun o => !o.isRat
        let rest := run i r s (visited ++ found.map (·.object)) ts
        { rest with
          subnets := ⟨t, objects⟩ :: rest.subnets
          discoveries := found ++ rest.discoveries }

/-- The pieces that the terminals of one net fall into. -/
def ofTerminals (settings : Settings α) (c : Content α) (ts : List Terminal) : Extraction :=
  run (.ofContent c) (rules settings) c.store [] ts

end Extraction

end Ratsnest
