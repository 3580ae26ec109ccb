import Ratsnest.Scalar

/-!
# Settings

How connections are looked for: the policy of one run, and the settings of a board that every run
shares.
-/

namespace Ratsnest

universe u

/-- Which object pairs a rat line may join, and whether to report each one drawn. -/
structure Policy where
  /-- Only axis-aligned lines, polygons and padstacks carry rat lines. -/
  manhattanOnly : Bool := false
  /-- At least one object of each pair must be selected. -/
  onlySelected : Bool := false
  /-- Report every rat line drawn. -/
  info : Bool := false
  deriving DecidableEq, Repr

/-- Every reachable object pair is a candidate. -/
def Policy.precise : Policy := {}

/-- The settings that every run shares. -/
structure Settings (α : Type u) where
  /-- Copper closer than this counts as touching. -/
  bloat : α
  /-- Join objects to clearing polygons whatever their clearance. -/
  ignoreClearance : Bool
  /-- A net in more pieces than this is reported and left alone. -/
  maxSubnets : UInt64
  /-- What names of new nets start with. -/
  netPrefix : String
  policy : Policy
  deriving DecidableEq, Repr

/-- The settings in force where none are given. -/
def Settings.standard {α : Type u} [Scalar α] : Settings α where
  bloat := 0
  ignoreClearance := false
  maxSubnets := 1024
  netPrefix := "unnamed_net"
  policy := .precise

/-- Whether settings are the standard ones. -/
def Settings.isStandard {α : Type u} [Scalar α] (s : Settings α) : Bool :=
  let t : Settings α := .standard
  s.bloat == t.bloat && s.ignoreClearance == t.ignoreClearance && s.maxSubnets == t.maxSubnets &&
    s.netPrefix == t.netPrefix && s.policy == t.policy

end Ratsnest
