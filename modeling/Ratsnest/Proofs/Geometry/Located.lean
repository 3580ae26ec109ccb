import Ratsnest.Copper
import Ratsnest.Proofs.Geometry.Passes
import Ratsnest.Proofs.Scalar.Rounded

/-!
# What a distance says of where things are

Rounded arithmetic overflows, but a search measures finite distances alone, and these are between
finite points (`Approach.isFinite_of_closest`).  So where a search finds something, the curves and
outlines that it went through are not lost: a segment has a finite end, and an outline an edge that
is `Grounded`.
-/

namespace Ratsnest

universe u

variable {α : Type u}

namespace Point

section

variable [Scalar α]

/-- Whether the coordinates are finite. -/
structure IsFinite (p : Point α) : Prop where
  x : Scalar.finite p.x
  y : Scalar.finite p.y

/-- Whether the coordinates are numbers. -/
structure IsNumber (p : Point α) : Prop where
  x : Scalar.IsNumber p.x
  y : Scalar.IsNumber p.y

end

variable [Scalar α] [RoundedScalar α] {p q v : Point α} {k : α}

theorem IsFinite.isNumber (h : p.IsFinite) : p.IsNumber :=
  ⟨NumericOrder.isNumber_of_finite h.x, NumericOrder.isNumber_of_finite h.y⟩

theorem isFinite_of_add (h : (p + v).IsFinite) : p.IsFinite :=
  ⟨(StrictScalar.finite_of_add h.x).1, (StrictScalar.finite_of_add h.y).1⟩

/-- A finite point that a step leads to is a finite step away from a finite point. -/
theorem isFinite_of_step (h : (p + v.scale k).IsFinite) : p.IsFinite ∧ Scalar.finite k :=
  ⟨isFinite_of_add h, (StrictScalar.finite_of_mul (StrictScalar.finite_of_add h.x).2).2⟩

theorem isFinite_of_sub (h : (p - v).IsFinite) : p.IsFinite :=
  ⟨(StrictScalar.finite_of_sub h.x).1, (StrictScalar.finite_of_sub h.y).1⟩

theorem isFinite_of_beq (h : (p == q) = true) (hq : q.IsFinite) : p.IsFinite := by
  have hxy : (p.x == q.x && p.y == q.y) = true := h
  rw [Bool.and_eq_true] at hxy
  exact ⟨StrictScalar.finite_of_beq hxy.1 hq.x, StrictScalar.finite_of_beq hxy.2 hq.y⟩

/-- A finite distance is one between finite points. -/
theorem isFinite_of_distance2 (h : Scalar.finite (p.distance2 q)) : p.IsFinite ∧ q.IsFinite := by
  obtain ⟨hx, hy⟩ := StrictScalar.finite_of_add h
  obtain ⟨hpx, hqx⟩ := StrictScalar.finite_of_sub (StrictScalar.finite_of_mul hx).1
  obtain ⟨hpy, hqy⟩ := StrictScalar.finite_of_sub (StrictScalar.finite_of_mul hy).1
  exact ⟨⟨hpx, hpy⟩, hqx, hqy⟩

theorem isNumber_of_sub (h : (p - q).IsNumber) : p.IsNumber ∧ q.IsNumber := by
  obtain ⟨hpx, hqx⟩ := StrictScalar.isNumber_of_sub h.x
  obtain ⟨hpy, hqy⟩ := StrictScalar.isNumber_of_sub h.y
  exact ⟨⟨hpx, hpy⟩, hqx, hqy⟩

theorem isNumber_of_cross (h : Scalar.IsNumber (p.cross q)) : p.IsNumber ∧ q.IsNumber := by
  obtain ⟨hxy, hyx⟩ := StrictScalar.isNumber_of_sub h
  obtain ⟨hpx, hqy⟩ := StrictScalar.isNumber_of_mul hxy
  obtain ⟨hpy, hqx⟩ := StrictScalar.isNumber_of_mul hyx
  exact ⟨⟨hpx, hpy⟩, hqx, hqy⟩

end Point

/-! ## Searches -/

namespace Approach

variable [Scalar α] [RoundedScalar α] {xs : List (Approach α)} {x : Point α} {p : Approach α}

theorem finite_of_foldl_offer {best : Option (Approach α)}
    (hbest : ∀ b ∈ best, Scalar.finite b.d2) (h : xs.foldl offer best = some p) :
    Scalar.finite p.d2 := by
  induction xs generalizing best with
  | nil => exact hbest p h
  | cons q xs ih =>
    refine ih ?_ h
    intro b hb
    cases best with
    | none =>
      simp only [offer] at hb
      split at hb
      · cases hb
        assumption
      · cases hb
    | some c =>
      rw [offer_some] at hb
      split at hb
      · rename_i hlt
        cases hb
        exact StrictScalar.finite_of_lt (Point.not_distance2_lt_zero _ _) hlt (hbest c rfl)
      · exact hbest b hb

/-- What a search finds are finite points. -/
theorem isFinite_of_closest (h : closest xs = some p) : p.a.IsFinite ∧ p.b.IsFinite :=
  Point.isFinite_of_distance2
    (finite_of_foldl_offer (fun _ hb => absurd hb (Option.not_mem_none _)) h)

theorem isFinite_of_meeting (h : meeting x = some p) : x.IsFinite := by
  have hx := (isFinite_of_closest h).1
  rwa [eq_of_meeting h] at hx

end Approach

/-! ## Segments -/

namespace Segment

/-- Whether a segment has an end, or starts from one in a direction, that is not lost. -/
def Grounded [Scalar α] (s : Segment α) : Prop :=
  s.a.IsFinite ∨ s.b.IsFinite ∨ s.a.IsNumber ∧ s.direction.IsNumber

variable [Scalar α] [RoundedScalar α] {s t : Segment α} {p : Point α} {q : Approach α} {k : α}

theorem isFinite_of_along (h : (s.along k).IsFinite) : s.a.IsFinite ∧ Scalar.finite k :=
  Point.isFinite_of_step h

theorem isFinite_of_nearest (h : (s.nearest p).IsFinite) : s.a.IsFinite := by
  simp only [nearest] at h
  split at h
  · exact h
  · exact (isFinite_of_along h).1

/-- A finite point on a segment grounds it. -/
theorem isFinite_of_covers (h : s.covers p) (hp : p.IsFinite) : s.a.IsFinite :=
  isFinite_of_nearest (Point.isFinite_of_beq h hp)

theorem located_of_crossing (h : s.crossing t = some p) (hp : p.IsFinite) :
    s.a.IsFinite ∧ t.a.IsNumber ∧ t.direction.IsNumber := by
  simp only [crossing] at h
  split at h
  · cases h
  · split at h
    · rename_i hunit
      rw [Bool.and_eq_true, Scalar.inUnit, Bool.and_eq_true, decide_eq_true_iff] at hunit
      cases h
      -- The share of the way is a number, and it is computed from the other segment.
      have hshare := (NumericOrder.isNumber_of_le hunit.1.1).2
      obtain ⟨hoffset, hdirection⟩ :=
        Point.isNumber_of_cross (StrictScalar.isNumber_of_div hshare).1
      exact ⟨(isFinite_of_along hp).1, (Point.isNumber_of_sub hoffset).1, hdirection⟩
    · cases h

/-- Segments with a closest approach have finite ends, or lines that cross. -/
theorem located_of_approach (h : s.approach t = some q) :
    (s.a.IsFinite ∨ s.b.IsFinite) ∧ t.Grounded := by
  rw [approach] at h
  split at h
  · rename_i p hp
    obtain ⟨hs, ht, hdirection⟩ := located_of_crossing hp (Approach.isFinite_of_meeting h)
    exact ⟨.inl hs, .inr (.inr ⟨ht, hdirection⟩)⟩
  · obtain ⟨ha, hb⟩ := Approach.isFinite_of_closest h
    have hmem := Approach.mem_of_closest h
    simp only [List.mem_cons, List.not_mem_nil, or_false] at hmem
    rcases hmem with rfl | rfl | rfl | rfl
    · exact ⟨.inl ha, .inl (isFinite_of_nearest hb)⟩
    · exact ⟨.inr ha, .inl (isFinite_of_nearest hb)⟩
    · exact ⟨.inl (isFinite_of_nearest ha), .inl hb⟩
    · exact ⟨.inl (isFinite_of_nearest ha), .inr (.inl hb)⟩

omit [RoundedScalar α] in
theorem grounded_of_isFinite (h : s.a.IsFinite ∨ s.b.IsFinite) : s.Grounded :=
  h.imp_right .inl

/-- An edge that passes to the right of a point is not lost. -/
theorem grounded_of_passesRight (h : Outline.passesRight p s) : s.Grounded := by
  rw [Outline.passesRight, Bool.and_eq_true, decide_eq_true_iff] at h
  have hright := (NumericOrder.isNumber_of_le (NumericOrder.le_of_lt h.2)).2
  obtain ⟨hx, hstep⟩ := StrictScalar.isNumber_of_add hright
  obtain ⟨hshare, hdx⟩ := StrictScalar.isNumber_of_mul hstep
  obtain ⟨hrise, hdy⟩ := StrictScalar.isNumber_of_div hshare
  exact .inr (.inr ⟨⟨hx, (StrictScalar.isNumber_of_sub hrise).2⟩, hdx, hdy⟩)

end Segment

variable [AngularScalar α] [RoundedAngular α]

/-! ## Arcs -/

namespace Arc

/-- Whether an end of the arc is finite, or its circle, where the sweep covers a direction. -/
def Located (c : Arc α) : Prop :=
  c.start.IsFinite ∨ c.stop.IsFinite ∨
    (c.center.IsFinite ∧ Scalar.finite c.radius) ∧ ∃ p, c.faces p

variable {c e : Arc α} {s : Segment α} {p v : Point α} {q : Approach α} {k : α}

theorem isFinite_of_toward (h : (c.toward v).IsFinite) :
    c.center.IsFinite ∧ Scalar.finite c.radius := by
  obtain ⟨hcenter, hstep⟩ := Point.isFinite_of_step h
  exact ⟨hcenter, StrictScalar.finite_of_div hstep⟩

theorem located_of_nearest (h : (c.nearest p).IsFinite) : c.Located := by
  simp only [nearest] at h
  split at h
  · exact .inl h
  · split at h
    · rename_i hfaces
      exact .inr (.inr ⟨isFinite_of_toward h, p, hfaces⟩)
    · split at h
      · exact .inl h
      · exact .inr (.inl h)

/-- The share of the way at which a segment meets a circle is computed from all of the circle. -/
theorem isFinite_of_mem_circleShares (h : k ∈ c.circleShares s) (hk : Scalar.finite k) :
    c.center.IsFinite ∧ Scalar.finite c.radius := by
  simp only [circleShares] at h
  split at h
  · cases h
  · split at h
    · cases h
    · simp only [List.mem_filter, List.mem_cons, List.not_mem_nil, or_false] at h
      have hdiscriminant {l m x : α} (h : k = (l - AngularScalar.sqrt x) / m ∨
          k = (l + AngularScalar.sqrt x) / m) : Scalar.finite x := by
        rcases h with rfl | rfl
        · have hroot := (StrictScalar.finite_of_sub (StrictScalar.finite_of_div hk)).2
          exact RoundedAngular.finite_of_sqrt hroot
        · have hroot := (StrictScalar.finite_of_add (StrictScalar.finite_of_div hk)).2
          exact RoundedAngular.finite_of_sqrt hroot
      obtain ⟨-, hproduct⟩ := StrictScalar.finite_of_sub (hdiscriminant h.1)
      obtain ⟨hdot, hradius⟩ := StrictScalar.finite_of_sub (StrictScalar.finite_of_mul hproduct).2
      obtain ⟨hx, hy⟩ := StrictScalar.finite_of_add hdot
      have hx := StrictScalar.finite_of_sub (StrictScalar.finite_of_mul hx).1
      have hy := StrictScalar.finite_of_sub (StrictScalar.finite_of_mul hy).1
      exact ⟨⟨hx.2, hy.2⟩, (StrictScalar.finite_of_mul hradius).1⟩

/-- A segment and an arc with a closest approach are both located. -/
theorem located_of_segmentApproach (h : c.segmentApproach s = some q) :
    (s.a.IsFinite ∨ s.b.IsFinite) ∧ c.Located := by
  rw [segmentApproach] at h
  split at h
  · rename_i x hx
    have hfin := Approach.isFinite_of_meeting h
    have hfaces := List.find?_some hx
    obtain ⟨k, hk, rfl⟩ := List.mem_map.1 (List.mem_of_find?_eq_some hx)
    obtain ⟨ha, hfin'⟩ := Segment.isFinite_of_along hfin
    exact ⟨.inl ha, .inr (.inr ⟨isFinite_of_mem_circleShares hk hfin', _, hfaces⟩)⟩
  · obtain ⟨ha, hb⟩ := Approach.isFinite_of_closest h
    have hmem := Approach.mem_of_closest h
    simp only [List.mem_append, List.mem_cons, List.not_mem_nil, or_false] at hmem
    rcases hmem with (rfl | rfl | rfl | rfl) | hmem
    · exact ⟨.inl ha, located_of_nearest hb⟩
    · exact ⟨.inr ha, located_of_nearest hb⟩
    · exact ⟨.inl (Segment.isFinite_of_nearest ha), .inl hb⟩
    · exact ⟨.inl (Segment.isFinite_of_nearest ha), .inr (.inl hb)⟩
    · split at hmem
      · rename_i hinner
        rw [Bool.and_eq_true] at hinner
        obtain rfl := List.mem_singleton.1 hmem
        exact ⟨.inl (Segment.isFinite_of_nearest ha),
          .inr (.inr ⟨isFinite_of_toward hb, _, hinner.2⟩)⟩
      · cases hmem

theorem isFinite_of_mem_circleCrossings (h : p ∈ c.circleCrossings e) (hp : p.IsFinite) :
    c.center.IsFinite ∧ Scalar.finite c.radius := by
  simp only [circleCrossings] at h
  split at h
  · cases h
  · have hbase {u : Point α} {x y m : α}
        (h : (c.center + u.scale ((c.radius * c.radius - x + y) / m)).IsFinite) :
        c.center.IsFinite ∧ Scalar.finite c.radius := by
      obtain ⟨hcenter, halong⟩ := Point.isFinite_of_step h
      have hsquares := (StrictScalar.finite_of_add (StrictScalar.finite_of_div halong)).1
      exact ⟨hcenter, (StrictScalar.finite_of_mul (StrictScalar.finite_of_sub hsquares).1).1⟩
    simp only [List.mem_cons, List.not_mem_nil, or_false] at h
    rcases h with rfl | rfl
    · exact hbase (Point.isFinite_of_add hp)
    · exact hbase (Point.isFinite_of_sub hp)

theorem located_of_mem_axisPairs (h : q ∈ c.axisPairs e) (hq : q.a.IsFinite) : c.Located := by
  simp only [axisPairs] at h
  split at h
  · obtain ⟨p, hp, hq'⟩ := List.mem_flatMap.1 h
    obtain ⟨p', -, rfl⟩ := List.mem_map.1 hq'
    obtain ⟨hp, hfaces⟩ := List.mem_filter.1 hp
    obtain ⟨side, -, rfl⟩ := List.mem_map.1 hp
    obtain ⟨hcenter, hstep⟩ := Point.isFinite_of_step hq
    exact .inr (.inr ⟨⟨hcenter, (StrictScalar.finite_of_mul hstep).1⟩, _, hfaces⟩)
  · cases h

theorem located_of_approach (h : c.approach e = some q) : c.Located := by
  rw [approach] at h
  split at h
  · rename_i x hx
    have hfaces := List.find?_some hx
    rw [Bool.and_eq_true] at hfaces
    exact .inr (.inr ⟨isFinite_of_mem_circleCrossings (List.mem_of_find?_eq_some hx)
      (Approach.isFinite_of_meeting h), _, hfaces.1⟩)
  · have ha := (Approach.isFinite_of_closest h).1
    have hmem := Approach.mem_of_closest h
    simp only [List.mem_append, List.mem_cons, List.not_mem_nil, or_false] at hmem
    rcases hmem with (rfl | rfl | rfl | rfl) | hmem
    · exact .inl ha
    · exact .inr (.inl ha)
    · exact located_of_nearest ha
    · exact located_of_nearest ha
    · exact located_of_mem_axisPairs hmem ha

end Arc

/-! ## Curves and outlines -/

namespace Curve

/-- Whether a curve has a finite end, or is an arc of a finite circle. -/
def Located : Curve α → Prop
  | segment s => s.a.IsFinite ∨ s.b.IsFinite
  | arc c => c.Located

variable {c e : Curve α} {s : Segment α} {o : Outline α} {p : Approach α}

theorem located_of_approach (h : c.approach e = some p) : c.Located := by
  rcases c with s | c
  · rcases e with t | e
    · exact (Segment.located_of_approach h).1
    · exact (Arc.located_of_segmentApproach h).1
  · rcases e with t | e
    · obtain ⟨q, hq, -⟩ := Option.map_eq_some_iff.1 h
      exact (Arc.located_of_segmentApproach hq).2
    · exact Arc.located_of_approach h

theorem grounded_of_approach (h : c.approach (segment s) = some p) : s.Grounded := by
  rcases c with t | c
  · exact (Segment.located_of_approach h).2
  · obtain ⟨q, hq, -⟩ := Option.map_eq_some_iff.1 h
    exact Segment.grounded_of_isFinite (Arc.located_of_segmentApproach hq).1

end Curve

namespace Outline

/-- Whether an edge of the outline is not lost. -/
def Located (o : Outline α) : Prop := ∃ e ∈ o.edges, e.Grounded

variable {o q : Outline α} {v : Point α} {p : Approach α}

omit [RoundedAngular α] in
theorem located_of_corner (h : v ∈ o) (hv : v.IsFinite) : o.Located := by
  obtain ⟨e, he, rfl⟩ := exists_edge h
  exact ⟨e, he, .inl hv⟩

/-- An outline with a finite point in its region is not lost. -/
theorem located_of_contains (h : o.contains v) (hv : v.IsFinite) : o.Located := by
  rw [contains, Bool.and_eq_true, Bool.or_eq_true, List.any_eq_true] at h
  rcases h.2 with ⟨e, he, hcovers⟩ | hodd
  · exact ⟨e, he, .inl (Segment.isFinite_of_covers hcovers hv)⟩
  · have hpos : 0 < o.edges.countP (passesRight v) := by
      rw [beq_iff_eq] at hodd
      omega
    obtain ⟨e, he, hpasses⟩ := List.countP_pos_iff.1 hpos
    exact ⟨e, he, Segment.grounded_of_passesRight hpasses⟩

theorem located_of_approach (h : o.approach q = some p) : o.Located := by
  rw [approach] at h
  split at h
  · rename_i v hv
    have hfin := Approach.isFinite_of_meeting h
    rcases Option.or_eq_some_iff.1 hv with hv | ⟨-, hv⟩
    · exact located_of_corner (List.mem_of_find?_eq_some hv) hfin
    · exact located_of_contains (List.find?_some hv) hfin
  · obtain ⟨e, he, hp⟩ := List.mem_flatMap.1 (Approach.mem_of_closest h)
    obtain ⟨e', -, hp⟩ := List.mem_filterMap.1 hp
    exact ⟨e, he, Segment.grounded_of_isFinite (Segment.located_of_approach hp).1⟩

end Outline

namespace Curve

variable {c : Curve α} {o : Outline α} {p : Approach α}

/-- A curve and an outline with a closest approach are both located. -/
theorem located_of_areaApproach (h : c.areaApproach o = some p) : c.Located ∧ o.Located := by
  rw [areaApproach] at h
  split at h
  · rename_i hstart
    have hfin := Approach.isFinite_of_meeting h
    refine ⟨?_, Outline.located_of_contains hstart hfin⟩
    cases c with
    | segment s => exact .inl hfin
    | arc c => exact .inl hfin
  · obtain ⟨e, he, hp⟩ := List.mem_filterMap.1 (Approach.mem_of_closest h)
    exact ⟨located_of_approach hp, e, he, grounded_of_approach hp⟩

end Curve

namespace Copper

/-- Whether a curve or an outline is located. -/
def Located : Copper α → Prop
  | stroke c _ => c.Located
  | area o => o.Located

/-- Copper that has a distance from other copper is not lost. -/
theorem located_of_gap? {c e : Copper α} {g : Gap α} (h : c.gap? e = some g) : c.Located := by
  obtain ⟨p, hp, -⟩ := Option.map_eq_some_iff.1 h
  rcases c with ⟨c, r⟩ | o
  · rcases e with ⟨e, r'⟩ | q
    · exact Curve.located_of_approach hp
    · exact (Curve.located_of_areaApproach hp).1
  · rcases e with ⟨e, r'⟩ | q
    · obtain ⟨q, hq, -⟩ := Option.map_eq_some_iff.1 hp
      exact (Curve.located_of_areaApproach hq).2
    · exact Outline.located_of_approach hp

end Copper

end Ratsnest
