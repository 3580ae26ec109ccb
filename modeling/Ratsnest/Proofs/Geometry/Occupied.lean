import Ratsnest.Geometry.Arc
import Ratsnest.Proofs.Geometry.Located
import Ratsnest.SpatialIndex

/-!
# Boxes that hold a finite point

A box that overflows may shrink when it is grown: the corners change sides, or are lost.  A box
that holds a finite point does not.  It keeps that point, and grown by more it meets whatever it
met before (`Box.intersects_inflate`).
-/

namespace Ratsnest

universe u

variable {α : Type u} [Scalar α] [RoundedScalar α]

open NumericOrder MonotoneScalar

/-! ## Bounds that are moved outwards -/

namespace MonotoneScalar

variable {x z d e : α}

theorem neg_le_zero_of_le (hd : 0 ≤ d) (hde : d ≤ e) : -e ≤ 0 := neg_nonpos (le_trans hd hde)

/-- The further a lower bound is moved the lower it gets. -/
theorem add_neg_le_add_neg (hx : x ≤ z) (hz : Scalar.finite z) (hd : 0 ≤ d) (hde : d ≤ e) :
    x + -e ≤ x + -d :=
  add_le_add_left (neg_le_neg hde)
    (isNumber_add_of_nonpos hx hz (neg_le_zero_of_le hd hde))
    (isNumber_add_of_nonpos hx hz (neg_nonpos hd))

theorem add_neg_le (hx : x ≤ z) (hz : Scalar.finite z) (hd : 0 ≤ d) : x + -d ≤ x := by
  have hzero : (0 : α) ≤ 0 := (isNumber_of_le hd).1
  have hle : x + -d ≤ x + 0 := add_le_add_left (neg_nonpos hd)
    (isNumber_add_of_nonpos hx hz (neg_nonpos hd)) (isNumber_add_of_nonpos hx hz hzero)
  exact le_trans hle (add_zero_le (isNumber_of_le hx).1)

/-- The further an upper bound is moved the higher it gets. -/
theorem add_le_add_of_le (hx : z ≤ x) (hz : Scalar.finite z) (hd : 0 ≤ d) (hde : d ≤ e) :
    x + d ≤ x + e :=
  add_le_add_left hde (isNumber_add_of_nonneg hx hz hd)
    (isNumber_add_of_nonneg hx hz (le_trans hd hde))

theorem le_add_of_finite_le (hx : z ≤ x) (hz : Scalar.finite z) (hd : 0 ≤ d) : x ≤ x + d := by
  have hzero : (0 : α) ≤ 0 := (isNumber_of_le hd).1
  have hle : x + 0 ≤ x + d := add_le_add_left hd (isNumber_add_of_nonneg hx hz hzero)
    (isNumber_add_of_nonneg hx hz hd)
  exact le_trans (le_add_zero (isNumber_of_le hx).2) hle

end MonotoneScalar

namespace Box

/-- Whether a finite point lies in the box. -/
def Occupied (b : Box α) : Prop := ∃ p : Point α, p.IsFinite ∧ b.contains p

variable {b c : Box α} {p q : Point α} {d e : α}

omit [RoundedScalar α] in
theorem contains_iff :
    b.contains p ↔ (b.lo.x ≤ p.x ∧ p.x ≤ b.hi.x) ∧ b.lo.y ≤ p.y ∧ p.y ≤ b.hi.y := by
  simp only [contains, Bool.and_eq_true, decide_eq_true_iff]
  tauto

omit [RoundedScalar α] in
theorem intersects_iff : b.intersects c ↔
    (b.lo.x ≤ c.hi.x ∧ c.lo.x ≤ b.hi.x) ∧ b.lo.y ≤ c.hi.y ∧ c.lo.y ≤ b.hi.y := by
  simp only [intersects, Bool.and_eq_true, decide_eq_true_iff]
  tauto

/-! ### Boxes around points -/

theorem contains_around_left (hp : p.IsNumber) (q : Point α) : (around p q).contains p :=
  contains_iff.2 ⟨⟨min_le_left _ hp.x, le_max_left _ hp.x⟩, min_le_left _ hp.y,
    le_max_left _ hp.y⟩

theorem contains_around_right (p : Point α) (hq : q.IsNumber) : (around p q).contains q :=
  contains_iff.2 ⟨⟨min_le_right _ hq.x, le_max_right _ hq.x⟩, min_le_right _ hq.y,
    le_max_right _ hq.y⟩

theorem contains_union_left (h : b.contains p) (c : Box α) : (b.union c).contains p := by
  obtain ⟨⟨hlx, hhx⟩, hly, hhy⟩ := contains_iff.1 h
  refine contains_iff.2 ⟨⟨?_, ?_⟩, ?_, ?_⟩
  · exact le_trans (min_le_left _ (isNumber_of_le hlx).1) hlx
  · exact le_trans hhx (le_max_left _ (isNumber_of_le hhx).2)
  · exact le_trans (min_le_left _ (isNumber_of_le hly).1) hly
  · exact le_trans hhy (le_max_left _ (isNumber_of_le hhy).2)

theorem contains_union_point (b : Box α) (hp : p.IsNumber) : (b.union ⟨p, p⟩).contains p :=
  contains_iff.2 ⟨⟨min_le_right _ hp.x, le_max_right _ hp.x⟩, min_le_right _ hp.y,
    le_max_right _ hp.y⟩

theorem contains_ofPoint (hp : p.IsNumber) : (ofPoint p).contains p :=
  contains_iff.2 ⟨⟨capAbove_le hp.x, le_capBelow hp.x⟩, capAbove_le hp.y, le_capBelow hp.y⟩

theorem contains_foldl_union {ps : List (Point α)} (h : b.contains p ∨ p ∈ ps ∧ p.IsNumber) :
    (ps.foldl (fun b q => b.union ⟨q, q⟩) b).contains p := by
  induction ps generalizing b with
  | nil =>
    rcases h with h | ⟨h, -⟩
    · exact h
    · cases h
  | cons q ps ih =>
    apply ih
    rcases h with h | ⟨h, hp⟩
    · exact .inl (contains_union_left h _)
    · rcases List.mem_cons.1 h with rfl | h
      · exact .inl (contains_union_point b hp)
      · exact .inr ⟨h, hp⟩

/-! ### Finite points between the bounds -/

/-- Bounds of which the lower is below a finite value and the upper above one. -/
structure Capped (lo hi : α) : Prop where
  lo_le : ∃ z, Scalar.finite z ∧ lo ≤ z
  le_hi : ∃ z, Scalar.finite z ∧ z ≤ hi

/-- Capped bounds around a number are around a finite one. -/
theorem Capped.exists_finite {lo hi x : α} (h : Capped lo hi) (hlo : lo ≤ x) (hhi : x ≤ hi) :
    ∃ z, Scalar.finite z ∧ lo ≤ z ∧ z ≤ hi := by
  rcases finite_or_beyond (isNumber_of_le hlo).2 with hx | hbeyond | hbeyond
  · exact ⟨x, hx, hlo, hhi⟩
  · obtain ⟨z, hz, hle⟩ := h.lo_le
    exact ⟨z, hz, hle, le_trans (hbeyond z hz) hhi⟩
  · obtain ⟨z, hz, hle⟩ := h.le_hi
    exact ⟨z, hz, le_trans hlo (hbeyond z hz), hle⟩

theorem Capped.of_ofPoint (x : α) : Capped (Scalar.capAbove x) (Scalar.capBelow x) :=
  ⟨exists_capAbove_le x, exists_le_capBelow x⟩

theorem Capped.union {lo hi : α} (h : Capped lo hi) (x : α) : Capped (min lo x) (max hi x) := by
  obtain ⟨z, hz, hle⟩ := h.lo_le
  obtain ⟨w, hw, hge⟩ := h.le_hi
  exact ⟨⟨z, hz, le_trans (min_le_left x (isNumber_of_le hle).1) hle⟩, w, hw,
    le_trans hge (le_max_left x (isNumber_of_le hge).2)⟩

/-- The box of some points, of which one is made of numbers, holds a finite point. -/
theorem occupied_foldl_union {ps : List (Point α)} (hx : Capped b.lo.x b.hi.x)
    (hy : Capped b.lo.y b.hi.y) (h : b.contains p ∨ p ∈ ps ∧ p.IsNumber) :
    (ps.foldl (fun b q => b.union ⟨q, q⟩) b).Occupied := by
  have hcapped : Capped (ps.foldl (fun b q => b.union ⟨q, q⟩) b).lo.x
      (ps.foldl (fun b q => b.union ⟨q, q⟩) b).hi.x ∧
      Capped (ps.foldl (fun b q => b.union ⟨q, q⟩) b).lo.y
        (ps.foldl (fun b q => b.union ⟨q, q⟩) b).hi.y := by
    clear h
    induction ps generalizing b with
    | nil => exact ⟨hx, hy⟩
    | cons q ps ih => exact ih (hx.union q.x) (hy.union q.y)
  obtain ⟨⟨hlx, hhx⟩, hly, hhy⟩ := contains_iff.1 (contains_foldl_union h)
  obtain ⟨x, hfx, hx⟩ := hcapped.1.exists_finite hlx hhx
  obtain ⟨y, hfy, hy⟩ := hcapped.2.exists_finite hly hhy
  exact ⟨⟨x, y⟩, ⟨hfx, hfy⟩, contains_iff.2 ⟨hx, hy⟩⟩

/-- The box around an outline holds a finite point if a corner is made of numbers. -/
theorem occupied_ofPoints? {o : List (Point α)} (hp : p ∈ o) (hnum : p.IsNumber) :
    ∃ b, ofPoints? o = some b ∧ b.Occupied := by
  cases o with
  | nil => cases hp
  | cons v vs =>
    refine ⟨_, rfl, occupied_foldl_union (.of_ofPoint _) (.of_ofPoint _) ?_ (p := p)⟩
    rcases List.mem_cons.1 hp with rfl | hp
    · exact .inl (contains_ofPoint hnum)
    · exact .inr ⟨hp, hnum⟩

/-! ### Growing -/

/-- A box keeps its finite points when it is grown. -/
theorem contains_inflate (h : b.contains p) (hp : p.IsFinite) (hd : 0 ≤ d) :
    (b.inflate d).contains p := by
  obtain ⟨⟨hlx, hhx⟩, hly, hhy⟩ := contains_iff.1 h
  refine contains_iff.2 ⟨⟨?_, ?_⟩, ?_, ?_⟩
  · exact le_trans (add_neg_le hlx hp.x hd) hlx
  · exact le_trans hhx (le_add_of_finite_le hhx hp.x hd)
  · exact le_trans (add_neg_le hly hp.y hd) hly
  · exact le_trans hhy (le_add_of_finite_le hhy hp.y hd)

theorem Occupied.inflate (h : b.Occupied) (hd : 0 ≤ d) : (b.inflate d).Occupied := by
  obtain ⟨p, hp, hcontains⟩ := h
  exact ⟨p, hp, contains_inflate hcontains hp hd⟩

/-- What meets an interval meets every wider one, whichever of their ends comes first. -/
theorem meets_of_wider {lo hi lo' hi' l u : α} (hlo : lo' ≤ lo) (horder : lo ≤ hi) (hhi : hi ≤ hi')
    (hl : l ≤ max lo hi) (hu : min lo hi ≤ u) : l ≤ max lo' hi' ∧ min lo' hi' ≤ u := by
  constructor
  · refine le_trans ?_ (le_max_right lo' (isNumber_of_le hhi).2)
    rcases max_eq lo hi with heq | heq
    · exact le_trans (heq ▸ hl) (le_trans horder hhi)
    · exact le_trans (heq ▸ hl) hhi
  · refine le_trans (min_le_left hi' (isNumber_of_le hlo).1) ?_
    rcases min_eq lo hi with heq | heq
    · exact le_trans hlo (heq ▸ hu)
    · exact le_trans (le_trans hlo horder) (heq ▸ hu)

/-- A box that holds a finite point meets the more the further it is grown. -/
theorem intersects_inflate (hb : b.Occupied) (hd : 0 ≤ d) (hde : d ≤ e)
    (h : c.intersects (SpatialIndex.ordered (b.inflate d))) :
    c.intersects (SpatialIndex.ordered (b.inflate e)) := by
  obtain ⟨p, hp, hcontains⟩ := hb
  obtain ⟨⟨hlx, hhx⟩, hly, hhy⟩ := contains_iff.1 hcontains
  obtain ⟨⟨hlx', hhx'⟩, hly', hhy'⟩ := contains_iff.1 (contains_inflate hcontains hp hd)
  obtain ⟨⟨hx, hx'⟩, hy, hy'⟩ := intersects_iff.1 h
  refine intersects_iff.2 ⟨?_, ?_⟩
  · exact meets_of_wider (add_neg_le_add_neg hlx hp.x hd hde) (le_trans hlx' hhx')
      (add_le_add_of_le hhx hp.x hd hde) hx hx'
  · exact meets_of_wider (add_neg_le_add_neg hly hp.y hd hde) (le_trans hly' hhy')
      (add_le_add_of_le hhy hp.y hd hde) hy hy'

end Box

end Ratsnest
