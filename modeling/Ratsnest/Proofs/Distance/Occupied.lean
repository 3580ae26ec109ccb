import Ratsnest.Proofs.Distance.Bridge
import Ratsnest.Proofs.Distance.Reach
import Ratsnest.Proofs.Geometry.Occupied

/-!
# Boxes of shapes that have a distance

A shape without a negative extent whose distance to another one is finite has a box that holds a
finite point (`Shape.exists_occupied`), whatever its other numbers are.
-/

namespace Ratsnest

universe u

variable {α : Type u}

/-! ## Extents -/

namespace Shape

/-- The thickness, the radius, the width and the height of a shape, as far as it has them. -/
def extents : Shape α → List α
  | line t => [t.thickness]
  | arc t => [t.thickness, t.arc.radius]
  | polygon _ => []
  | padstack p =>
    match p.shape with
    | .circle r => [r]
    | .rect w h => [w, h]
  | rat _ => []

/-- Whether the shape is a round trace. -/
def isArc : Shape α → Bool
  | arc _ => true
  | _ => false

/-- Whether no extent is negative. -/
def Proper [Scalar α] (s : Shape α) : Prop := ∀ d ∈ s.extents, 0 ≤ d

instance [Scalar α] (s : Shape α) : Decidable s.Proper :=
  inferInstanceAs (Decidable (∀ d ∈ s.extents, 0 ≤ d))

theorem proper_iff_sized (s : Shape ℝ) : s.Proper ↔ s.Sized := by
  cases s with
  | line t => exact List.forall_mem_singleton
  | arc t => exact List.forall_mem_cons.trans (and_congr_right' List.forall_mem_singleton)
  | polygon p => exact iff_of_true (List.forall_mem_nil _) trivial
  | padstack p =>
    obtain ⟨center, r | ⟨w, h⟩, layers, clearance, thermals⟩ := p
    · exact List.forall_mem_singleton
    · exact List.forall_mem_cons.trans (and_congr_right' List.forall_mem_singleton)
  | rat l => exact iff_of_true (List.forall_mem_nil _) trivial

end Shape

/-! ## Boxes -/

/-- Whether the sine and the cosine of every finite angle are finite. -/
def AngularScalar.HasDirections (α : Type u) [AngularScalar α] : Prop :=
  ∀ a : α, Scalar.finite a → Scalar.finite (AngularScalar.cos a) ∧
    Scalar.finite (AngularScalar.sin a)

variable [AngularScalar α] [RoundedAngular α]

open NumericOrder MonotoneScalar

namespace Arc

variable {c : Arc α} {a : α}

/-- A sweep covers an angle only if it is a full turn or starts at a finite angle. -/
theorem full_or_finite_of_containsAngle (h : c.containsAngle a) :
    (∀ b, c.containsAngle b) ∨ Scalar.finite c.startAngle := by
  by_cases hfull : ((360 : ℕ) : α) ≤ Scalar.magnitude c.sweep
  · refine .inl fun b => ?_
    rw [containsAngle, if_pos hfull]
  · rw [containsAngle, if_neg hfull] at h
    right
    dsimp only at h
    split at h
    · have hsub := StrictScalar.finite_of_turnRemainder (isNumber_of_le (of_decide_eq_true h)).1
      exact (StrictScalar.finite_of_add (StrictScalar.finite_of_sub hsub).2).1
    · have hsub := StrictScalar.finite_of_turnRemainder (isNumber_of_le (of_decide_eq_true h)).1
      exact (StrictScalar.finite_of_sub hsub).2

theorem pointAt_isNumber (hdirections : AngularScalar.HasDirections α) (hcenter : c.center.IsFinite)
    (hradius : Scalar.finite c.radius) (ha : Scalar.finite a) : (c.pointAt a).IsNumber := by
  obtain ⟨hcos, hsin⟩ := hdirections a ha
  exact ⟨isNumber_add hcenter.x (isNumber_mul hradius hcos),
    isNumber_add hcenter.y (isNumber_mul hradius hsin)⟩

/-- The box of an arc that is not lost holds a finite point: near an end, or near the rightmost
point of a full circle. -/
theorem occupied_box (hdirections : AngularScalar.HasDirections α) (h : c.Located) :
    c.box.Occupied := by
  have hx := (Box.Capped.of_ofPoint c.start.x).union c.stop.x
  have hy := (Box.Capped.of_ofPoint c.start.y).union c.stop.y
  have hstart (hnum : c.start.IsNumber) : c.box.Occupied :=
    Box.occupied_foldl_union hx hy (.inl (Box.contains_union_left (Box.contains_ofPoint hnum) _))
  rcases h with hfin | hfin | ⟨⟨hcenter, hradius⟩, p, hfaces⟩
  · exact hstart hfin.isNumber
  · exact Box.occupied_foldl_union hx hy (.inl (Box.contains_union_point _ hfin.isNumber))
  · rcases full_or_finite_of_containsAngle hfaces with hfull | hangle
    · refine Box.occupied_foldl_union hx hy (.inr ⟨?_, pointAt_isNumber hdirections hcenter hradius
        (finite_zero (α := α))⟩)
      refine List.mem_map.2 ⟨_, List.mem_filter.2 ⟨List.mem_map.2 ⟨0, ?_, rfl⟩, hfull _⟩, rfl⟩
      exact List.mem_cons_self
    · exact hstart (pointAt_isNumber hdirections hcenter hradius hangle)

end Arc

theorem Outline.occupied_box {o : Outline α} (h : o.Located) :
    ∃ b, Box.ofPoints? o = some b ∧ b.Occupied := by
  obtain ⟨e, he, hgrounded⟩ := h
  obtain ⟨ha, hb⟩ := mem_of_mem_edges he
  rcases hgrounded with hfin | hfin | ⟨hnum, -⟩
  · exact Box.occupied_ofPoints? ha hfin.isNumber
  · exact Box.occupied_ofPoints? hb hfin.isNumber
  · exact Box.occupied_ofPoints? ha hnum

/-- A segment between two points around a center is grounded only where the center is finite. -/
theorem Point.isFinite_of_grounded {v : Point α} {dx dy dx' dy' : α}
    (h : Segment.Grounded ⟨v.translate dx dy, v.translate dx' dy'⟩) : v.IsFinite := by
  rcases h with hfin | hfin | ⟨-, hnum⟩
  · exact ⟨(StrictScalar.finite_of_add hfin.x).1, (StrictScalar.finite_of_add hfin.y).1⟩
  · exact ⟨(StrictScalar.finite_of_add hfin.x).1, (StrictScalar.finite_of_add hfin.y).1⟩
  · exact ⟨StrictScalar.finite_of_isNumber_span hnum.x,
      StrictScalar.finite_of_isNumber_span hnum.y⟩

/-- The box around a pad holds its center. -/
theorem Box.occupied_of_center {v : Point α} {dx dy : α} (hv : v.IsFinite) (hdx : 0 ≤ dx)
    (hdy : 0 ≤ dy) : Occupied ⟨v.translate (-dx) (-dy), v.translate dx dy⟩ := by
  obtain ⟨hx, hy⟩ := hv.isNumber
  refine ⟨v, hv, contains_iff.2 ⟨⟨?_, ?_⟩, ?_, ?_⟩⟩
  · exact add_neg_le hx hv.x hdx
  · exact le_add_of_finite_le hx hv.x hdx
  · exact add_neg_le hy hv.y hdy
  · exact le_add_of_finite_le hy hv.y hdy

namespace Padstack

variable {pad : Padstack α} {w h : α}

theorem center_isFinite (hshape : pad.shape = .rect w h)
    (hlocated : Outline.Located (pad.outline?.getD [])) : pad.center.IsFinite := by
  obtain ⟨e, he, hgrounded⟩ := hlocated
  simp only [outline?, hshape, Option.getD_some, Outline.edges, List.zipWith_cons_cons,
    List.cons_append, List.nil_append, List.zipWith_nil_right, List.mem_cons, List.not_mem_nil,
    or_false] at he
  rcases he with rfl | rfl | rfl | rfl
  all_goals exact Point.isFinite_of_grounded hgrounded

end Padstack

namespace Shape

variable {s t : Shape α} {c : Copper α} {policy : Policy} {bridge : Bridge α}

theorem occupied_of_located (hs : s.Proper) (hdirections : s.isArc → AngularScalar.HasDirections α)
    (hc : s.copper? = some c) (h : c.Located) : ∃ b, s.box? = some b ∧ b.Occupied := by
  cases s with
  | line t =>
    obtain rfl := Option.some.inj hc
    have hthickness : 0 ≤ t.thickness := hs _ List.mem_cons_self
    refine ⟨_, rfl, Box.Occupied.inflate ?_ (half_nonneg hthickness)⟩
    rcases h with hfin | hfin
    · exact ⟨_, hfin, Box.contains_around_left hfin.isNumber _⟩
    · exact ⟨_, hfin, Box.contains_around_right _ hfin.isNumber⟩
  | arc t =>
    obtain rfl := Option.some.inj hc
    have hthickness : 0 ≤ t.thickness := hs _ List.mem_cons_self
    exact ⟨_, rfl, (Arc.occupied_box (hdirections rfl) h).inflate (half_nonneg hthickness)⟩
  | polygon p =>
    obtain rfl := Option.some.inj hc
    exact Outline.occupied_box h
  | padstack pad =>
    obtain ⟨center, r | ⟨w, k⟩, layers, clearance, thermals⟩ := pad
    · obtain rfl := Option.some.inj hc
      have hr : 0 ≤ r := hs _ List.mem_cons_self
      exact ⟨_, rfl, Box.occupied_of_center (h.elim id id) hr hr⟩
    · obtain rfl := Option.some.inj hc
      have hw : 0 ≤ w := hs _ List.mem_cons_self
      have hk : 0 ≤ k := hs _ (List.mem_cons_of_mem _ List.mem_cons_self)
      exact ⟨_, rfl, Box.occupied_of_center (Padstack.center_isFinite rfl h) (half_nonneg hw)
        (half_nonneg hk)⟩
  | rat l => cases hc

/-- The box of a shape that has a distance to another one holds a finite point. -/
theorem exists_occupied (hs : s.Proper) (hdirections : s.isArc → AngularScalar.HasDirections α)
    (h : s.bridge? policy t = some bridge) : ∃ b, s.box? = some b ∧ b.Occupied := by
  obtain ⟨-, c, e, g, hc, -, hg, -⟩ := bridge?_eq_some_iff.1 h
  exact occupied_of_located hs hdirections hc (Copper.located_of_gap? hg)

end Shape

end Ratsnest
