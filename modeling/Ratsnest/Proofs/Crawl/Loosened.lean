import Ratsnest.Proofs.Crawl.Component
import Ratsnest.Proofs.Distance.Occupied

/-!
# Looser rules

Rules join more the more bloat they have and the less they look at clearance.  So a crawl under
looser rules discovers at least the same objects (`objectsOf_crawl_subset`), although it may find
them in another order and leave out others as visited.
-/

namespace Ratsnest

universe u

variable {α : Type u}

/-- Whether the rules `r'` join whatever the rules `r` join. -/
structure JoinRules.TighterThan [Scalar α] (r r' : JoinRules α) : Prop where
  bloat_nonneg : 0 ≤ r.bloat
  bloat_le : r.bloat ≤ r'.bloat
  ignoreClearance : r.ignoreClearance → r'.ignoreClearance
  followRats : r.followRats → r'.followRats

instance [Scalar α] (r r' : JoinRules α) : Decidable (r.TighterThan r') :=
  decidable_of_iff (0 ≤ r.bloat ∧ r.bloat ≤ r'.bloat ∧
      (r.ignoreClearance → r'.ignoreClearance) ∧ (r.followRats → r'.followRats))
    ⟨fun ⟨hnonneg, hle, hclearance, hrats⟩ => ⟨hnonneg, hle, hclearance, hrats⟩,
      fun ⟨hnonneg, hle, hclearance, hrats⟩ => ⟨hnonneg, hle, hclearance, hrats⟩⟩

variable [AngularScalar α]

/-- Boards on which no thickness, radius, width or height is negative.  If there are round traces
on it, sines and cosines have to be finite. -/
structure Content.Proper (c : Content α) : Prop where
  shapes : ∀ o ∈ c.store.toList, o.shape.Proper
  directions : ∀ o ∈ c.store.toList, o.shape.isArc → AngularScalar.HasDirections α

/-- Without round traces only the extents matter. -/
theorem Content.Proper.of_straight {c : Content α} (hshapes : ∀ o ∈ c.store.toList, o.shape.Proper)
    (hstraight : ∀ o ∈ c.store.toList, o.shape.isArc = false) : c.Proper where
  shapes := hshapes
  directions o ho harc := absurd ((hstraight o ho).symm.trans harc) Bool.false_ne_true

/-- Over the reals only the extents matter. -/
theorem Content.proper_iff (c : Content ℝ) :
    c.Proper ↔ ∀ o ∈ c.store.toList, o.shape.Sized := by
  constructor
  · intro h o ho
    exact (Shape.proper_iff_sized o.shape).1 (h.shapes o ho)
  · intro h
    constructor
    · intro o ho
      exact (Shape.proper_iff_sized o.shape).2 (h o ho)
    · intro _ _ _ a _
      exact ⟨rfl, rfl⟩

variable [RoundedAngular α] {r r' : JoinRules α} {s t u : Shape α} {c : Content α} {x y : ObjectId}

namespace JoinRules

theorem TighterThan.touches (h : r.TighterThan r') (ht : r.touches s t) : r'.touches s t := by
  obtain ⟨b, hb, hle⟩ := exists_bridge_of_touches ht
  have hle' := NumericOrder.le_trans hle
    (MonotoneScalar.mul_self_le_mul_self h.bloat_nonneg h.bloat_le)
  simp only [JoinRules.touches, Bool.and_eq_true, Bool.or_eq_true] at ht ⊢
  obtain ⟨⟨hlayers, hclearance⟩, -⟩ := ht
  refine ⟨⟨hlayers, hclearance.imp_left h.ignoreClearance⟩, ?_⟩
  rw [hb, Option.any_some]
  exact decide_eq_true hle'

/-- The box of a shape that touches anything goes on to meet what it meets when the bloat grows. -/
theorem TighterThan.boxesMeet (h : r.TighterThan r') (hs : s.Proper)
    (hdirections : s.isArc → AngularScalar.HasDirections α) (hu : r.touches s u)
    (hmeet : r.boxesMeet s t) : r'.boxesMeet s t := by
  obtain ⟨bridge, hbridge, -⟩ := exists_bridge_of_touches hu
  obtain ⟨b, hb, hoccupied⟩ := Shape.exists_occupied hs hdirections hbridge
  obtain ⟨b', hb', d, hd, hmeet⟩ := boxesMeet_iff.1 hmeet
  obtain rfl := Option.some.inj (hb.symm.trans hb')
  exact boxesMeet_iff.2
    ⟨b, hb, d, hd, Box.intersects_inflate hoccupied h.bloat_nonneg h.bloat_le hmeet⟩

end JoinRules

/-- What is joined under some rules is joined under looser ones. -/
theorem Adjacent.loosen (hc : c.Proper) (h : r.TighterThan r') (hxy : Adjacent c r c.store x y) :
    Adjacent c r' c.store x y := by
  obtain ⟨k, hxy⟩ := hxy
  cases hxy with
  | @copper o _ ho hrat hjoined =>
    have hmem : o ∈ c.store.toList := Store.mem_toList_iff.2 ⟨x, ho⟩
    obtain ⟨hne, ⟨p, hp, hid, hmeet⟩, q, hq, ht⟩ := copperJoined_iff.1 hjoined
    have hmeet' := h.boxesMeet (hc.shapes o hmem) (hc.directions o hmem) ht hmeet
    exact ⟨_, .copper ho hrat
      (copperJoined_iff.2 ⟨hne, ⟨p, hp, hid, hmeet'⟩, q, hq, h.touches ht⟩)⟩
  | internal ho hrat hjoined => exact ⟨_, .internal ho hrat hjoined⟩
  | toRat ho hrat hfollow hp hl hx => exact ⟨_, .toRat ho hrat (h.followRats hfollow) hp hl hx⟩
  | toAnchor ho hl hfollow hy => exact ⟨_, .toAnchor ho hl (h.followRats hfollow) hy⟩

theorem Wired.loosen (hc : c.Proper) (h : r.TighterThan r') (hxy : Wired c r x y) :
    Wired c r' x y := by
  induction hxy with
  | refl => exact .refl
  | tail _ hyz ih => exact ih.tail (hyz.loosen hc h)

/-- A crawl under looser rules discovers whatever a crawl from the same seed discovers. -/
theorem objectsOf_crawl_subset (hc : c.Proper) (h : r.TighterThan r') (visited : List ObjectId)
    (seed : ObjectId) :
    objectsOf ((ConnectionIndex.ofContent c).crawl r c.store visited seed) ⊆
      objectsOf ((ConnectionIndex.ofContent c).crawl r' c.store visited seed) := by
  by_cases hseed : c.store.contains seed ∧ seed ∉ visited
  · intro id hid
    rw [ConnectionIndex.mem_crawl_iff hseed.1 hseed.2] at hid ⊢
    induction hid with
    | seed => exact .seed
    | step _ hxy hy hfresh ih => exact .step ih (hxy.loosen hc h) hy hfresh
  · rw [ConnectionIndex.crawl_of_stale hseed]
    exact List.nil_subset _

end Ratsnest
