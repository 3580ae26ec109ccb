import Ratsnest.Json.Record
import Ratsnest.Settings

/-!
# Settings as text

Settings are written as a JSON record.  Every field may be left out when they are read, and then
has its standard value.
-/

namespace Ratsnest

namespace Policy

/-- A policy as JSON. -/
def toJson (p : Policy) : Json :=
  .record [("manhattan_only", .bool p.manhattanOnly), ("only_selected", .bool p.onlySelected),
    ("info", .bool p.info)]

/-- Reads a policy. -/
def ofJson? (j : Json) : Option Policy := do
  let f ← j.fields? ["manhattan_only", "only_selected", "info"]
  some
    { manhattanOnly := ← f.defaulted 0 false Json.toBool?
      onlySelected := ← f.defaulted 1 false Json.toBool?
      info := ← f.defaulted 2 false Json.toBool? }

end Policy

namespace Settings

variable {α : Type}

/-- Settings as JSON. -/
def toJson [JsonScalar α] (s : Settings α) : Json :=
  .record [("bloat", JsonScalar.toJson s.bloat), ("ignore_clearance", .bool s.ignoreClearance),
    ("max_subnets", .ofNat s.maxSubnets.toNat), ("auto_net_prefix", .ofString s.netPrefix),
    ("default_policy", s.policy.toJson)]

/-- Reads settings. -/
def ofJson? [Scalar α] [JsonScalar α] (j : Json) : Option (Settings α) := do
  let f ← j.fields?
    ["bloat", "ignore_clearance", "max_subnets", "auto_net_prefix", "default_policy"]
  let standard : Settings α := .standard
  some
    { bloat := ← f.defaulted 0 standard.bloat JsonScalar.ofJson?
      ignoreClearance := ← f.defaulted 1 standard.ignoreClearance Json.toBool?
      maxSubnets := ← f.defaulted 2 standard.maxSubnets Json.toUInt64?
      netPrefix := ← f.defaulted 3 standard.netPrefix Json.toString?
      policy := ← f.defaulted 4 standard.policy Policy.ofJson? }

/-- The text of settings. -/
def text [JsonScalar α] (s : Settings α) : String := s.toJson.pretty

/-- Reads the text of settings. -/
def ofText? [Scalar α] [JsonScalar α] (t : String) : Option (Settings α) :=
  (Json.parse? t).bind ofJson?

end Settings

end Ratsnest
