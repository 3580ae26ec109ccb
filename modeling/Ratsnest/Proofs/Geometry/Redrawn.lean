import Ratsnest.Proofs.Geometry.Region

/-!
# Outlines drawn in another way

An outline can be drawn from another corner on, the other way round, or with a further corner on
one of its edges.  The test for its region tells the same (`Outline.contains_redrawn`): the edges
are the same up to their order and direction (`Outline.edges_rotate`, `Outline.edges_reverse_perm`),
and an edge passes a point just if one of its two parts does, and not both do
(`Segment.countP_parts`).
-/

namespace Ratsnest

universe u

namespace Outline

section Edges

variable {α : Type u}

/-- Each edge leads from a corner to the next one. -/
theorem edges_eq_zipWith (o : Outline α) : o.edges = List.zipWith Segment.mk o (o.rotate 1) := by
  cases o with
  | nil => rfl
  | cons p ps => rw [edges_cons, List.rotate_cons_succ, List.rotate_zero]

theorem length_edges (o : Outline α) : o.edges.length = o.length := by
  rw [edges_eq_zipWith, List.length_zipWith, List.length_rotate, min_self]

theorem edges_rotate (o : Outline α) (k : ℕ) : edges (o.rotate k) = o.edges.rotate k := by
  rw [edges_eq_zipWith, edges_eq_zipWith,
    List.zipWith_rotate_distrib _ _ _ _ (List.length_rotate o 1).symm, List.rotate_rotate,
    List.rotate_rotate, Nat.add_comm]

theorem insertIdx_length_succ (before rest : List α) (p v : α) :
    (before ++ p :: rest).insertIdx (before.length + 1) v = before ++ p :: v :: rest := by
  induction before with
  | nil => rfl
  | cons q before ih =>
    rw [List.cons_append, List.length_cons, List.insertIdx_succ_cons, ih, List.cons_append]

/-- A corner that is added to an edge comes second, when the outline is drawn from that edge on. -/
theorem exists_rotate_insertIdx {o : Outline α} {i : ℕ} (hi : i < o.length) (v : Point α) :
    ∃ p ps, o.rotate i = p :: ps ∧ (o.insertIdx (i + 1) v).rotate i = p :: v :: ps := by
  obtain ⟨before, rest, rfl, rfl⟩ : ∃ before rest, o = before ++ rest ∧ before.length = i :=
    ⟨o.take i, o.drop i, (List.take_append_drop i o).symm, List.length_take_of_le hi.le⟩
  cases rest with
  | nil => simp at hi
  | cons p rest =>
    refine ⟨p, rest ++ before, List.rotate_append_length_eq _ _, ?_⟩
    rw [insertIdx_length_succ, List.rotate_append_length_eq]
    rfl

end Edges

/-- The edges of an outline drawn the other way round are run backwards. -/
theorem edges_reverse_perm (o : Outline ℝ) :
    List.Perm (edges o.reverse) (o.edges.map Segment.reverse) := by
  -- The outline follows itself by one corner when it is drawn from its last one on.
  obtain ⟨k, hk⟩ : ∃ k, o.reverse.rotate 1 = (o.rotate k).reverse ∧ (o.rotate k).rotate 1 = o :=
    ⟨_, List.rotate_reverse o 1, List.rotate_eq_iff.2 rfl⟩
  have hedges : edges o.reverse = ((edges (o.rotate k)).map Segment.reverse).reverse := by
    rw [edges_eq_zipWith, hk.1, ← List.reverse_zipWith (List.length_rotate o k).symm,
      edges_eq_zipWith, hk.2, List.map_zipWith, List.zipWith_comm]
    rfl
  rw [hedges, edges_rotate]
  exact (List.reverse_perm _).trans ((List.rotate_perm _ k).map _)

end Outline

/-! ## Parts of an edge -/

namespace Segment

open Outline

variable {e f : Segment ℝ} {p v w : Point ℝ}

/-- An edge that is not level has one point at each height. -/
theorem eq_of_y_eq (he : e.a.y ≠ e.b.y) (hv : v ∈ e.points) (hw : w ∈ e.points)
    (h : v.y = w.y) : v = w := by
  obtain ⟨k, -, rfl⟩ := hv
  obtain ⟨l, -, rfl⟩ := hw
  rw [along_y, along_y] at h
  rw [mul_left_cancel₀ (sub_ne_zero.2 he.symm) (add_left_cancel h)]

/-- A part of an edge passes what the edge passes, at the heights that it spans. -/
theorem passesRight_part (hpart : f.points ⊆ e.points) (he : ¬(p.y < e.a.y ↔ p.y < e.b.y))
    (hf : ¬(p.y < f.a.y ↔ p.y < f.b.y)) : passesRight p f = passesRight p e := by
  obtain ⟨k, hk, hky, hpass⟩ := exists_level he
  obtain ⟨l, hl, hly, hpass'⟩ := exists_level hf
  have hne : e.a.y ≠ e.b.y := fun h => he (by rw [h])
  have heq : f.along l = e.along k :=
    eq_of_y_eq hne (hpart ⟨l, hl, rfl⟩) ⟨k, hk, rfl⟩ (hly.trans hky.symm)
  rw [Bool.eq_iff_iff, hpass, hpass', heq]

/-- An edge with both ends above a point, or none, does not pass it. -/
theorem passesRight_eq_false (h : p.y < e.a.y ↔ p.y < e.b.y) : passesRight p e = false := by
  rw [← Bool.not_eq_true, passesRight_iff]
  exact fun hpass => hpass.1 h

/-- An edge that is divided passes a point just if one of its two parts does, and not both do. -/
theorem countP_parts (hv : v ∈ e.points) (p : Point ℝ) :
    List.countP (passesRight p) [⟨e.a, v⟩, ⟨v, e.b⟩] = List.countP (passesRight p) [e] := by
  have hfirst : points ⟨e.a, v⟩ ⊆ e.points := points_subset e.a_mem hv
  have hsecond : points ⟨v, e.b⟩ ⊆ e.points := points_subset hv e.b_mem
  have hy := y_mem_of_mem hv
  rw [Set.mem_uIcc] at hy
  simp only [List.countP_cons, List.countP_nil, Nat.zero_add]
  by_cases he : p.y < e.a.y ↔ p.y < e.b.y
  · have hva : p.y < e.a.y ↔ p.y < v.y := by grind
    rw [passesRight_eq_false he, passesRight_eq_false (e := ⟨e.a, v⟩) hva,
      passesRight_eq_false (e := ⟨v, e.b⟩) (hva.symm.trans he), if_neg Bool.false_ne_true]
  · by_cases hva : p.y < e.a.y ↔ p.y < v.y
    · have hvb : ¬(p.y < v.y ↔ p.y < e.b.y) := fun h => he (hva.trans h)
      rw [passesRight_eq_false (e := ⟨e.a, v⟩) hva, passesRight_part hsecond he hvb,
        if_neg Bool.false_ne_true, Nat.add_zero]
    · have hvb : p.y < v.y ↔ p.y < e.b.y := by tauto
      rw [passesRight_eq_false (e := ⟨v, e.b⟩) hvb, passesRight_part hfirst he hva,
        if_neg Bool.false_ne_true, Nat.zero_add]

theorem points_along_along (e : Segment ℝ) (k l : ℝ) :
    points ⟨e.along k, e.along l⟩ = e.along '' Set.uIcc k l := by
  rw [← segment_eq_uIcc, segment_eq_image', Set.image_image]
  refine Set.image_congr fun m _ => ?_
  ext
  · simp only [along_x, smul_eq_mul]
    ring
  · simp only [along_y, smul_eq_mul]
    ring

/-- The points of an edge that is divided are those of its two parts. -/
theorem mem_parts_iff (hv : v ∈ e.points) :
    w ∈ points ⟨e.a, v⟩ ∨ w ∈ points ⟨v, e.b⟩ ↔ w ∈ e.points := by
  obtain ⟨k, ⟨h0, h1⟩, rfl⟩ := hv
  have hfirst := points_along_along e 0 k
  have hsecond := points_along_along e k 1
  rw [along_zero] at hfirst
  rw [along_one] at hsecond
  rw [← Set.mem_union, hfirst, hsecond, ← Set.image_union, Set.uIcc_of_le h0, Set.uIcc_of_le h1,
    Set.Icc_union_Icc_eq_Icc h0 h1]
  rfl

end Segment

namespace Outline

variable {o o' : Outline ℝ} {p v : Point ℝ}

/-- The test asks for the border and for the edges that pass to the right. -/
theorem contains_congr (hlength : 3 ≤ o'.length ↔ 3 ≤ o.length)
    (hborder : p ∈ o'.border ↔ p ∈ o.border)
    (hpasses : o'.edges.countP (passesRight p) = o.edges.countP (passesRight p)) :
    o'.contains p = o.contains p := by
  rw [Bool.eq_iff_iff, contains_iff, contains_iff, mem_region_iff, mem_region_iff, hlength,
    hborder, hpasses]

theorem contains_rotate (o : Outline ℝ) (k : ℕ) (p : Point ℝ) :
    contains (o.rotate k) p = o.contains p := by
  have hedges : List.Perm (edges (o.rotate k)) o.edges := by
    rw [edges_rotate]
    exact List.rotate_perm _ k
  refine contains_congr (by rw [List.length_rotate]) ?_ (hedges.countP_eq _)
  exact exists_congr fun e => and_congr_left' hedges.mem_iff

theorem contains_reverse (o : Outline ℝ) (p : Point ℝ) :
    contains o.reverse p = o.contains p := by
  have hedges := o.edges_reverse_perm
  refine contains_congr (by rw [List.length_reverse]) ?_ ?_
  · have hmem (e : Segment ℝ) : e ∈ edges o.reverse ↔ ∃ f ∈ o.edges, f.reverse = e :=
      hedges.mem_iff.trans List.mem_map
    constructor
    · rintro ⟨e, he, hp⟩
      obtain ⟨f, hf, rfl⟩ := (hmem e).1 he
      exact ⟨f, hf, f.reverse_points ▸ hp⟩
    · rintro ⟨f, hf, hp⟩
      exact ⟨f.reverse, (hmem _).2 ⟨f, hf, rfl⟩, f.reverse_points.symm ▸ hp⟩
  · rw [hedges.countP_eq, List.countP_map]
    exact List.countP_congr fun e _ => by rw [Function.comp_apply, Segment.passesRight_reverse]

/-- A further corner on the first edge. -/
theorem contains_divided {q r : Point ℝ} {ps : List (Point ℝ)} (hlength : 3 ≤ (q :: r :: ps).length)
    (hv : v ∈ Segment.points ⟨q, r⟩) (p : Point ℝ) :
    contains (q :: v :: r :: ps) p = contains (q :: r :: ps) p := by
  have hedges : edges (q :: r :: ps) = [⟨q, r⟩] ++ List.zipWith Segment.mk (r :: ps) (ps ++ [q]) :=
    rfl
  have hedges' : edges (q :: v :: r :: ps) =
      [⟨q, v⟩, ⟨v, r⟩] ++ List.zipWith Segment.mk (r :: ps) (ps ++ [q]) := rfl
  refine contains_congr (iff_of_true (hlength.trans (Nat.le_succ _)) hlength) ?_ ?_
  · simp only [border, Set.mem_ofPred_eq, hedges, hedges', List.mem_append, or_and_right,
      exists_or, List.mem_cons, List.not_mem_nil, or_false, exists_eq_left]
    rw [Segment.mem_parts_iff (e := ⟨q, r⟩) hv]
  · rw [hedges, hedges', List.countP_append, List.countP_append,
      Segment.countP_parts (e := ⟨q, r⟩) hv]

/-- A further corner on any edge. -/
theorem contains_insertIdx {i : ℕ} (h : 3 ≤ o.length) (hi : i < o.edges.length)
    (hv : v ∈ o.edges[i].points) (p : Point ℝ) :
    contains (o.insertIdx (i + 1) v) p = o.contains p := by
  obtain ⟨q, ps, ho, hdivided⟩ := exists_rotate_insertIdx (o.length_edges ▸ hi) v
  rw [← List.length_rotate o i, ho] at h
  cases ps with
  | nil => simp at h
  | cons r ps =>
    have hfirst : o.edges[i]? = some ⟨q, r⟩ := by
      rw [← List.head?_rotate hi, ← edges_rotate, ho]
      rfl
    rw [List.getElem?_eq_getElem hi, Option.some_inj] at hfirst
    calc contains (o.insertIdx (i + 1) v) p
        = contains ((o.insertIdx (i + 1) v).rotate i) p := (contains_rotate _ i p).symm
      _ = contains (q :: v :: r :: ps) p := by rw [hdivided]
      _ = contains (q :: r :: ps) p := contains_divided h (hfirst ▸ hv) p
      _ = contains (o.rotate i) p := by rw [ho]
      _ = o.contains p := contains_rotate o i p

/-- Whether the region of an outline holds a point does not depend on the corner from which the
outline is drawn, on the way round, or on further corners on its edges.  It holds all points of
the edges. -/
theorem contains_redrawn (h : 3 ≤ o.length) (p : Point ℝ) :
    (∀ k, contains (o.rotate k) p = o.contains p) ∧
    contains o.reverse p = o.contains p ∧
    (∀ (i : ℕ) (hi : i < o.edges.length), ∀ v ∈ o.edges[i].points,
      contains (o.insertIdx (i + 1) v) p = o.contains p) ∧
    ∀ e ∈ o.edges, p ∈ e.points → o.contains p := by
  refine ⟨fun k => o.contains_rotate k p, o.contains_reverse p,
    fun i hi v hv => contains_insertIdx h hi hv p, fun e he hp => ?_⟩
  exact contains_iff.2 ⟨h, border_subset_region o ⟨e, he, hp⟩⟩

/-- An outline that crosses itself at `(1 / 2, 1 / 2)`. -/
def bowTie : Outline ℝ := [⟨0, 0⟩, ⟨1, 1⟩, ⟨1, 0⟩, ⟨0, 1⟩]

theorem bowTie_contains : bowTie.contains ⟨1 / 4, 1 / 2⟩ := by
  norm_num [bowTie, contains, edges, passesRight]

/-- The ray from `(1 / 4, 1 / 2)` to the right leaves the region where it crosses itself, which is
also where a corner is added. -/
theorem contains_redrawn_bowTie : 3 ≤ bowTie.length ∧ bowTie.contains ⟨1 / 4, 1 / 2⟩ ∧
    contains (bowTie.rotate 2) ⟨1 / 4, 1 / 2⟩ ∧ contains bowTie.reverse ⟨1 / 4, 1 / 2⟩ ∧
    contains (bowTie.insertIdx 1 ⟨1 / 2, 1 / 2⟩) ⟨1 / 4, 1 / 2⟩ ∧
    bowTie.contains ⟨1 / 2, 1 / 2⟩ := by
  have hlength : 3 ≤ bowTie.length := by decide
  have hcrossing : (⟨1 / 2, 1 / 2⟩ : Point ℝ) ∈ (Segment.mk ⟨0, 0⟩ ⟨1, 1⟩).points :=
    ⟨1 / 2, ⟨by norm_num, by norm_num⟩, by ext <;> norm_num⟩
  obtain ⟨hrotate, hreverse, hdivided, -⟩ := contains_redrawn hlength ⟨1 / 4, 1 / 2⟩
  obtain ⟨-, -, -, hborder⟩ := contains_redrawn hlength ⟨1 / 2, 1 / 2⟩
  exact ⟨hlength, bowTie_contains, (hrotate 2).trans bowTie_contains,
    hreverse.trans bowTie_contains,
    (hdivided 0 (by decide) ⟨1 / 2, 1 / 2⟩ hcrossing).trans bowTie_contains,
    hborder _ List.mem_cons_self hcrossing⟩

end Outline

end Ratsnest
