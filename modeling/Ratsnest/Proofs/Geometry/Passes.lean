import Ratsnest.Geometry.Outline
import Ratsnest.Proofs.Geometry.Side

/-!
# Passing edges

How many edges of a closed outline pass to the right of a point is what an outline winds around
it, up to parity.  On the way from one point to another the parity changes with each edge that
the way meets (`Outline.even_passes`): an edge enters or leaves the strip to the right of the way
by the rays to the right of its ends, or through the way itself.
-/

namespace Ratsnest

universe u

/-! ## Closed outlines -/

namespace Outline

section Edges

variable {α : Type u} {o : Outline α} {e : Segment α} {v : Point α}

theorem edges_cons (p : Point α) (ps : List (Point α)) :
    edges (p :: ps) = List.zipWith Segment.mk (p :: ps) (ps ++ [p]) := rfl

theorem mem_of_mem_edges (h : e ∈ o.edges) : e.a ∈ o ∧ e.b ∈ o := by
  cases o with
  | nil => cases h
  | cons p ps =>
    rw [edges_cons, ← List.map_uncurry_zip_eq_zipWith] at h
    obtain ⟨⟨v, w⟩, hvw, rfl⟩ := List.mem_map.1 h
    obtain ⟨hv, hw⟩ := List.of_mem_zip hvw
    refine ⟨hv, ?_⟩
    simp only [List.mem_append, List.mem_singleton] at hw
    rcases hw with hw | rfl
    · exact List.mem_cons_of_mem p hw
    · exact List.mem_cons_self

theorem exists_edge (h : v ∈ o) : ∃ e ∈ o.edges, e.a = v := by
  cases o with
  | nil => cases h
  | cons p ps =>
    obtain ⟨k, hk, rfl⟩ := List.mem_iff_getElem.1 h
    have hk' : k < (edges (p :: ps)).length := by
      rw [edges_cons, List.length_zipWith, List.length_append, List.length_singleton]
      exact lt_min hk hk
    refine ⟨(edges (p :: ps)).get ⟨k, hk'⟩, List.get_mem _ _, ?_⟩
    simp [edges_cons]

theorem edges_ne_nil (h : o ≠ []) : o.edges ≠ [] := by
  obtain ⟨v, hv⟩ := List.exists_mem_of_ne_nil o h
  obtain ⟨e, he, -⟩ := exists_edge hv
  exact List.ne_nil_of_mem he

end Edges

/-- Along a chain of edges a property changes an even number of times if it is the same at both
ends. -/
theorem odd_countP_chain (g : Point ℝ → Bool) (p q : Point ℝ) (ps : List (Point ℝ)) :
    Odd ((List.zipWith Segment.mk (p :: ps) (ps ++ [q])).countP fun e => g e.a != g e.b) ↔
      (g p != g q) = true := by
  induction ps generalizing p with
  | nil => cases h : g p != g q <;> simp [h]
  | cons v ps ih =>
    have ih := ih v
    rw [List.cons_append, List.zipWith_cons_cons, List.countP_cons]
    cases hpv : g p != g v
    · rw [if_neg Bool.false_ne_true, Nat.add_zero, ih, bne_eq_false_iff_eq.1 hpv]
    · rw [if_pos rfl, Nat.odd_add_one, ih]
      have hne := bne_iff_ne.1 hpv
      cases hp : g p <;> cases hv : g v <;> cases hq : g q <;> simp_all

/-- Around an outline a property of corners changes an even number of times. -/
theorem even_countP_change (g : Point ℝ → Bool) (o : Outline ℝ) :
    Even (o.edges.countP fun e => g e.a != g e.b) := by
  cases o with
  | nil => exact Even.zero
  | cons p ps =>
    rw [← Nat.not_odd_iff_even, edges_cons, odd_countP_chain]
    simp

end Outline

/-- How often two properties differ is even just if they hold equally often up to parity. -/
theorem even_countP_bne_iff {κ : Type} (f g : κ → Bool) (xs : List κ) :
    Even (xs.countP fun x => f x != g x) ↔ (Even (xs.countP f) ↔ Even (xs.countP g)) := by
  induction xs with
  | nil => simp
  | cons x xs ih =>
    rw [List.countP_cons, List.countP_cons, List.countP_cons]
    cases f x <;> cases g x <;> simp [ih, Nat.even_add_one, -Nat.not_even_iff_odd] <;> tauto

/-! ## Passing the ends of a way -/

namespace Segment

open Outline

variable {s e : Segment ℝ} {p v : Point ℝ} {k : ℝ}

/-- An edge that passes a point has one end above it, the other not, and is to the right of it at
its height. -/
theorem passesRight_iff : passesRight p e = true ↔ ¬(p.y < e.a.y ↔ p.y < e.b.y) ∧
    p.x < (e.along ((p.y - e.a.y) / (e.b.y - e.a.y))).x := by
  rw [passesRight, Bool.and_eq_true, bne_iff_ne, ne_eq, decide_eq_decide, decide_eq_true_iff,
    along_x, mul_comm]

theorem passesRight_reverse (p : Point ℝ) (e : Segment ℝ) :
    passesRight p e.reverse = passesRight p e := by
  rw [Bool.eq_iff_iff, passesRight_iff, passesRight_iff, reverse_a, reverse_b, not_congr Iff.comm]
  apply and_congr_right
  intro h
  have hne : e.b.y - e.a.y ≠ 0 := fun h' => h (by rw [sub_eq_zero.1 h'])
  have hne' : e.a.y - e.b.y ≠ 0 := fun h' => hne (by linarith)
  rw [reverse_along]
  have hk : 1 - (p.y - e.b.y) / (e.a.y - e.b.y) = (p.y - e.a.y) / (e.b.y - e.a.y) := by
    field_simp
    ring
  rw [hk]

/-- The point of an edge at the height of `p`. -/
theorem exists_level (h : ¬(p.y < e.a.y ↔ p.y < e.b.y)) : ∃ k ∈ Set.Icc (0 : ℝ) 1,
    (e.along k).y = p.y ∧ (passesRight p e = true ↔ p.x < (e.along k).x) := by
  have hne : e.b.y - e.a.y ≠ 0 := fun h' => h (by rw [sub_eq_zero.1 h'])
  refine ⟨(p.y - e.a.y) / (e.b.y - e.a.y), ?_, ?_, ?_⟩
  · rcases lt_or_gt_of_ne hne with hlt | hlt
    · rw [← neg_div_neg_eq]
      have hpos : 0 < -(e.b.y - e.a.y) := by linarith
      have ha : p.y < e.a.y := by
        by_contra hn
        exact h ⟨fun h' => absurd h' hn, fun h' => by linarith⟩
      have hb : ¬p.y < e.b.y := fun h' => h ⟨fun _ => h', fun _ => ha⟩
      exact ⟨div_nonneg (by linarith) hpos.le, (div_le_one hpos).2 (by linarith)⟩
    · have hb : p.y < e.b.y := by
        by_contra hn
        exact h ⟨fun h' => by linarith, fun h' => absurd h' hn⟩
      have ha : ¬p.y < e.a.y := fun h' => h ⟨fun _ => hb, fun _ => h'⟩
      exact ⟨div_nonneg (by linarith) hlt.le, (div_le_one hlt).2 (by linarith)⟩
  · rw [along_y, mul_div_cancel₀ _ hne]
    ring
  · rw [passesRight_iff]
    exact and_iff_right h

/-- The strip to the right of a way that rises. -/
def strip (s : Segment ℝ) : Set (Point ℝ) := {v | s.a.y < v.y ∧ v.y ≤ s.b.y ∧ s.side v < 0}

theorem mem_strip_iff : v ∈ s.strip ↔ s.a.y < v.y ∧ v.y ≤ s.b.y ∧ s.side v < 0 := Iff.rfl

/-- Where an edge that does not fall comes to the height of the lower end of a way: it is to the
right there if it passes that end or starts in the strip. -/
theorem exists_entry (hs : s.a.y < s.b.y) (h : s.Apart e)
    (ha : e.a.y ≤ s.b.y) (hb : s.a.y < e.b.y) : ∃ k ∈ Set.Icc (0 : ℝ) 1,
      s.a.y ≤ (e.along k).y ∧ (∀ m, 0 ≤ m → s.a.y ≤ (e.along m).y → k ≤ m) ∧
        s.side (e.along k) ≠ 0 ∧
        (s.side (e.along k) < 0 ↔ ¬(passesRight s.a e = true ↔ e.a ∈ s.strip)) := by
  by_cases hlow : s.a.y < e.a.y
  · refine ⟨0, ⟨le_rfl, zero_le_one⟩, ?_, fun m hm _ => hm, ?_, ?_⟩
    · rw [along_zero]
      exact hlow.le
    · rw [along_zero]
      exact fun hside => h.off_a (mem_of_side_eq_zero hs hlow.le ha hside)
    · rw [along_zero, passesRight_iff, mem_strip_iff]
      tauto
  · obtain ⟨k, hk, hky, hpass⟩ := exists_level (p := s.a) (e := e) fun hiff => hlow (hiff.2 hb)
    have hpos : 0 < e.b.y - e.a.y := by linarith
    have hside : s.side (e.along k) = -((s.b.y - s.a.y) * ((e.along k).x - s.a.x)) := by
      rw [side_eq, hky]
      ring
    refine ⟨k, hk, hky.ge, fun m _ hm => ?_, fun h0 => ?_, ?_⟩
    · rw [along_y] at hky hm
      exact le_of_mul_le_mul_left (by linarith) hpos
    · refine h.a_off ⟨k, hk, ?_⟩
      rw [hside, neg_eq_zero, mul_eq_zero] at h0
      ext
      · exact sub_eq_zero.1 (h0.resolve_left (by linarith))
      · exact hky
    · rw [hside, neg_lt_zero, mul_pos_iff_of_pos_left (by linarith), sub_pos, hpass,
        mem_strip_iff]
      tauto

/-- Where an edge that does not fall leaves the height of the upper end of a way. -/
theorem exists_leave (hs : s.a.y < s.b.y) (h : s.Apart e)
    (ha : e.a.y ≤ s.b.y) (hb : s.a.y < e.b.y) : ∃ k ∈ Set.Icc (0 : ℝ) 1,
      s.a.y ≤ (e.along k).y ∧ (e.along k).y ≤ s.b.y ∧
        (∀ m, m ≤ 1 → (e.along m).y ≤ s.b.y → m ≤ k) ∧ s.side (e.along k) ≠ 0 ∧
        (s.side (e.along k) < 0 ↔ ¬(passesRight s.b e = true ↔ e.b ∈ s.strip)) := by
  by_cases hhigh : s.b.y < e.b.y
  · obtain ⟨k, hk, hky, hpass⟩ := exists_level (p := s.b) (e := e) fun hiff =>
      ha.not_gt (hiff.2 hhigh)
    have hpos : 0 < e.b.y - e.a.y := by linarith
    have hside : s.side (e.along k) = -((s.b.y - s.a.y) * ((e.along k).x - s.b.x)) := by
      rw [side_eq, hky]
      ring
    refine ⟨k, hk, hky ▸ hs.le, hky.le, fun m _ hm => ?_, fun h0 => ?_, ?_⟩
    · rw [along_y] at hky hm
      exact le_of_mul_le_mul_left (by linarith) hpos
    · refine h.b_off ⟨k, hk, ?_⟩
      rw [hside, neg_eq_zero, mul_eq_zero] at h0
      ext
      · exact sub_eq_zero.1 (h0.resolve_left (by linarith))
      · exact hky
    · rw [hside, neg_lt_zero, mul_pos_iff_of_pos_left (by linarith), sub_pos, hpass,
        mem_strip_iff]
      have := hhigh.not_ge
      tauto
  · rw [not_lt] at hhigh
    refine ⟨1, ⟨zero_le_one, le_rfl⟩, ?_, ?_, fun m hm _ => hm, ?_, ?_⟩
    · rw [along_one]
      exact hb.le
    · rw [along_one]
      exact hhigh
    · rw [along_one]
      exact fun hside => h.off_b (mem_of_side_eq_zero hs hb.le hhigh hside)
    · have := ha.not_gt
      have := hhigh.not_gt
      rw [along_one, passesRight_iff, mem_strip_iff]
      tauto

/-- The side is affine along an edge, so it has no zero between places on one side. -/
theorem side_ne_zero {k l m : ℝ} (hkm : k ≤ m) (hml : m ≤ l) (hk0 : s.side (e.along k) ≠ 0)
    (hl0 : s.side (e.along l) ≠ 0) (h : s.side (e.along k) < 0 ↔ s.side (e.along l) < 0) :
    s.side (e.along m) ≠ 0 := by
  intro hm
  rw [side_along] at hm hk0 hl0 h
  rw [side_along] at h
  rcases lt_or_gt_of_ne hk0 with hlt | hlt
  · have hlt' := h.1 hlt
    rcases le_total 0 (s.side e.b - s.side e.a) with hd | hd
    · nlinarith [mul_le_mul_of_nonneg_left hml hd]
    · nlinarith [mul_le_mul_of_nonpos_left hkm hd]
  · have hlt' := lt_of_le_of_ne (not_lt.1 fun h' => hlt.not_gt (h.2 h')) hl0.symm
    rcases le_total 0 (s.side e.b - s.side e.a) with hd | hd
    · nlinarith [mul_le_mul_of_nonneg_left hkm hd]
    · nlinarith [mul_le_mul_of_nonpos_left hml hd]

/-- Between places on different sides an edge crosses the line of a way. -/
theorem exists_side_eq_zero {k l : ℝ} (hkl : k ≤ l) (hk0 : s.side (e.along k) ≠ 0)
    (h : ¬(s.side (e.along k) < 0 ↔ s.side (e.along l) < 0)) :
    ∃ m ∈ Set.Icc k l, s.side (e.along m) = 0 := by
  have hcont : Continuous fun m => s.side (e.along m) := by
    simp only [side_along]
    fun_prop
  rcases lt_or_gt_of_ne hk0 with hlt | hlt
  · have hgt : 0 ≤ s.side (e.along l) := not_lt.1 fun h' => h ⟨fun _ => h', fun _ => hlt⟩
    exact intermediate_value_Icc hkl hcont.continuousOn ⟨hlt.le, hgt⟩
  · have hgt : s.side (e.along l) ≤ 0 := by
      by_contra hn
      exact h ⟨fun h' => absurd h' hlt.not_gt, fun h' => absurd h'.le hn⟩
    exact intermediate_value_Icc' hkl hcont.continuousOn ⟨hgt, hlt.le⟩

/-- Between its ends' heights an edge meets a way just if it changes its side. -/
theorem meets_iff {k l : ℝ} (hs : s.a.y < s.b.y) (he : e.a.y ≤ e.b.y) (hk : 0 ≤ k) (hl : l ≤ 1)
    (hkl : k ≤ l) (hka : s.a.y ≤ (e.along k).y) (hlb : (e.along l).y ≤ s.b.y)
    (hleast : ∀ m, 0 ≤ m → s.a.y ≤ (e.along m).y → k ≤ m)
    (hgreatest : ∀ m, m ≤ 1 → (e.along m).y ≤ s.b.y → m ≤ l)
    (hk0 : s.side (e.along k) ≠ 0) (hl0 : s.side (e.along l) ≠ 0) :
    (s.points ∩ e.points).Nonempty ↔ ¬(s.side (e.along k) < 0 ↔ s.side (e.along l) < 0) := by
  constructor
  · rintro ⟨v, hvs, m, ⟨hm0, hm1⟩, rfl⟩ hiff
    have hy := y_mem_of_rises hs.le hvs
    have hkm := hleast m hm0 hy.1
    have hml := hgreatest m hm1 hy.2
    exact side_ne_zero hkm hml hk0 hl0 hiff (side_eq_zero_of_mem hvs)
  · intro hiff
    obtain ⟨m, ⟨hkm, hml⟩, hm⟩ := exists_side_eq_zero hkl hk0 hiff
    refine ⟨e.along m, mem_of_side_eq_zero hs ?_ ?_ hm, along_mem (by linarith) (by linarith)⟩
    · rw [along_y] at hka ⊢
      nlinarith
    · rw [along_y] at hlb ⊢
      nlinarith

/-- A way that rises and an edge above it, which does not fall, do not meet. -/
theorem not_meets_of_above (hs : s.a.y < s.b.y) (he : e.a.y ≤ e.b.y) (h : s.b.y < e.a.y) :
    ¬(s.points ∩ e.points).Nonempty := by
  rintro ⟨v, hvs, hve⟩
  have hys := y_mem_of_rises hs.le hvs
  have hye := y_mem_of_rises he hve
  linarith [hys.2, hye.1]

/-- A way that rises meets an edge that ends at most as high as it starts only in its start. -/
theorem not_meets_of_not_above (hs : s.a.y < s.b.y) (he : e.a.y ≤ e.b.y) (h : s.Apart e)
    (hb : e.b.y ≤ s.a.y) : ¬(s.points ∩ e.points).Nonempty := by
  rintro ⟨v, hvs, hve⟩
  have hys := y_mem_of_rises hs.le hvs
  have hye := y_mem_of_rises he hve
  have hy : v.y = s.a.y := by linarith [hys.1, hye.2]
  have hside := side_eq_zero_of_mem hvs
  rw [side_eq, hy, sub_self, mul_zero, zero_sub, neg_eq_zero, mul_eq_zero] at hside
  have hv : v = s.a := Point.ext (sub_eq_zero.1 (hside.resolve_left (by linarith))) hy
  exact h.a_off (hv ▸ hve)

/-- An edge that does not fall, by the lower and the upper end of a way and by the way itself. -/
theorem passesRight_of_rises (hs : s.a.y < s.b.y) (he : e.a.y ≤ e.b.y) (h : s.Apart e) :
    (passesRight s.a e = true ↔ (passesRight s.b e = true ↔ (s.points ∩ e.points).Nonempty)) ↔
      ¬(e.a ∈ s.strip ↔ e.b ∈ s.strip) := by
  by_cases hb : s.a.y < e.b.y
  · by_cases ha : e.a.y ≤ s.b.y
    · obtain ⟨k, ⟨hk0, hk1⟩, hka, hleast, hkne, hkiff⟩ := exists_entry hs h ha hb
      obtain ⟨l, ⟨hl0, hl1⟩, hla, hlb, hgreatest, hlne, hliff⟩ := exists_leave hs h ha hb
      rw [meets_iff hs he hk0 hl1 (hleast l hl0 hla) hka hlb hleast hgreatest hkne hlne, hkiff,
        hliff]
      grind
    · rw [not_le] at ha
      have hmeet := not_meets_of_above hs he ha
      have hlow : s.a.y < e.a.y := hs.trans ha
      have hhigh : s.b.y < e.b.y := ha.trans_le he
      have := ha.not_ge
      have := hhigh.not_ge
      rw [passesRight_iff, passesRight_iff, mem_strip_iff, mem_strip_iff]
      grind
  · have hmeet := not_meets_of_not_above hs he h (not_lt.1 hb)
    have hlow : ¬s.a.y < e.a.y := fun h' => hb (h'.trans_le he)
    have hlow' : ¬s.b.y < e.a.y := fun h' => hlow (hs.trans h')
    have hhigh' : ¬s.b.y < e.b.y := fun h' => hb (hs.trans h')
    rw [passesRight_iff, passesRight_iff, mem_strip_iff, mem_strip_iff]
    grind

/-- Level segments that meet have an end of one on the other. -/
theorem not_meets_of_level (hs : s.a.y = s.b.y) (he : e.a.y = e.b.y) (h : s.Apart e) :
    ¬(s.points ∩ e.points).Nonempty := by
  rintro ⟨v, hvs, hve⟩
  obtain ⟨ha, hb, ha', hb'⟩ := h
  rw [mem_of_level hs, Set.mem_uIcc] at ha' hb' hvs
  rw [mem_of_level he, Set.mem_uIcc] at ha hb hve
  have hy : s.a.y = e.a.y := hvs.1.symm.trans hve.1
  rw [hy, and_iff_right rfl] at ha
  rw [← hs, hy, and_iff_right rfl] at hb
  rw [hy, and_iff_right rfl] at ha'
  rw [← he, hy, and_iff_right rfl] at hb'
  grind

/-- An edge with both ends at most as high as a level way meets it only in an end. -/
theorem not_meets_of_below (hs : s.a.y = s.b.y) (h : s.Apart e) (ha : e.a.y ≤ s.a.y)
    (hb : e.b.y ≤ s.a.y) : ¬(s.points ∩ e.points).Nonempty := by
  by_cases he : e.a.y = e.b.y
  · exact not_meets_of_level hs he h
  · rintro ⟨v, hvs, k, ⟨hk0, hk1⟩, rfl⟩
    have hy := ((mem_of_level hs).1 hvs).1
    rw [along_y] at hy
    rcases lt_or_gt_of_ne he with hlt | hlt
    · have hk : k = 1 := by nlinarith
      rw [hk, along_one] at hvs
      exact h.off_b hvs
    · have hk : k = 0 := by nlinarith
      rw [hk, along_zero] at hvs
      exact h.off_a hvs

/-- An edge passes both ends of a level way or neither, unless it meets the way. -/
theorem passesRight_of_level (hs : s.a.y = s.b.y) (h : s.Apart e) :
    ¬(passesRight s.a e = true ↔
      (passesRight s.b e = true ↔ (s.points ∩ e.points).Nonempty)) := by
  by_cases hiff : s.a.y < e.a.y ↔ s.a.y < e.b.y
  · have hmeet : ¬(s.points ∩ e.points).Nonempty := by
      by_cases ha : s.a.y < e.a.y
      · rintro ⟨v, hvs, hve⟩
        have hye := y_mem_of_mem hve
        rw [((mem_of_level hs).1 hvs).1, Set.mem_uIcc] at hye
        have hb := hiff.1 ha
        rcases hye with hye | hye
        · exact ha.not_ge hye.1
        · exact hb.not_ge hye.1
      · exact not_meets_of_below hs h (not_lt.1 ha) (not_lt.1 (mt hiff.2 ha))
    rw [passesRight_iff, passesRight_iff, ← hs]
    tauto
  · obtain ⟨k, hk, hky, hpass⟩ := exists_level (p := s.a) hiff
    obtain ⟨l, hl, hly, hpass'⟩ := exists_level (p := s.b) (hs ▸ hiff)
    have hne : e.b.y - e.a.y ≠ 0 := fun h' => hiff (by rw [sub_eq_zero.1 h'])
    have huniq : ∀ m, (e.along m).y = s.a.y → m = k := by
      intro m hm
      rw [along_y] at hm hky
      exact mul_left_cancel₀ hne (by linarith)
    obtain rfl := huniq l (hly.trans hs.symm)
    have hmeet : (s.points ∩ e.points).Nonempty ↔ e.along l ∈ s.points := by
      constructor
      · rintro ⟨v, hvs, m, hm, rfl⟩
        rw [← huniq m ((mem_of_level hs).1 hvs).1]
        exact hvs
      · intro hmem
        exact ⟨_, hmem, l, hl, rfl⟩
    have ha : (e.along l).x ≠ s.a.x := fun hx => h.a_off ⟨l, hl, Point.ext hx hky⟩
    have hb : (e.along l).x ≠ s.b.x := fun hx => h.b_off ⟨l, hl, Point.ext hx hly⟩
    rw [hmeet, mem_of_level hs, and_iff_right hky, hpass, hpass', Set.mem_uIcc]
    grind

/-- An edge run backwards passes the same points and meets the same ways. -/
theorem passesRight_of_apart (hs : s.a.y < s.b.y) (h : s.Apart e) :
    (passesRight s.a e = true ↔ (passesRight s.b e = true ↔ (s.points ∩ e.points).Nonempty)) ↔
      ¬(e.a ∈ s.strip ↔ e.b ∈ s.strip) := by
  rcases le_total e.a.y e.b.y with he | he
  · exact passesRight_of_rises hs he h
  · have hback := passesRight_of_rises hs (e := e.reverse) he h.reverse_right
    rw [passesRight_reverse, passesRight_reverse, reverse_points, reverse_a, reverse_b] at hback
    rw [hback, not_congr Iff.comm]

/-- Whether an edge passes the ends of a way and whether it meets the way add up to whether it
leaves or enters a set of corners that depends on the way only. -/
theorem exists_passesRight_iff (s : Segment ℝ) : ∃ g : Set (Point ℝ), ∀ e, s.Apart e →
    ((passesRight s.a e = true ↔
        (passesRight s.b e = true ↔ (s.points ∩ e.points).Nonempty)) ↔
      ¬(e.a ∈ g ↔ e.b ∈ g)) := by
  rcases lt_trichotomy s.a.y s.b.y with hs | hs | hs
  · exact ⟨s.strip, fun e h => passesRight_of_apart hs h⟩
  · refine ⟨∅, ?_⟩
    intro e h
    have hlevel := passesRight_of_level hs h
    constructor
    · intro hiff
      exact absurd hiff hlevel
    · intro hne
      exact absurd Iff.rfl hne
  · refine ⟨s.reverse.strip, ?_⟩
    intro e h
    have hback := passesRight_of_apart (s := s.reverse) hs h.reverse_left
    rw [reverse_points, reverse_a, reverse_b] at hback
    rw [← hback]
    grind

end Segment

namespace Outline

open Classical in
/-- How many edges of an outline meet a set. -/
noncomputable def meetings (o : Outline ℝ) (A : Set (Point ℝ)) : ℕ :=
  o.edges.countP fun e => (A ∩ e.points).Nonempty

theorem meetings_congr {o : Outline ℝ} {A B : Set (Point ℝ)}
    (h : ∀ e ∈ o.edges, (A ∩ e.points).Nonempty ↔ (B ∩ e.points).Nonempty) :
    o.meetings A = o.meetings B := by
  classical
  apply List.countP_congr
  intro e he
  rw [decide_eq_true_iff, decide_eq_true_iff]
  exact h e he

theorem meetings_eq_zero {o : Outline ℝ} {A : Set (Point ℝ)}
    (h : ∀ e ∈ o.edges, ¬(A ∩ e.points).Nonempty) : o.meetings A = 0 := by
  classical
  apply List.countP_eq_zero.2
  intro e he
  rw [decide_eq_true_iff]
  exact h e he

/-- On a way that keeps clear of the corners, the number of edges that pass to the right changes,
up to parity, by the edges met. -/
theorem even_passes {o : Outline ℝ} {s : Segment ℝ} (h : ∀ e ∈ o.edges, s.Apart e) :
    Even (o.meetings s.points) ↔
      (Even (o.edges.countP (passesRight s.a)) ↔ Even (o.edges.countP (passesRight s.b))) := by
  classical
  obtain ⟨g, hg⟩ := s.exists_passesRight_iff
  have hchange := even_countP_change (fun v => v ∈ g) o
  have hcount : (o.edges.countP fun e => decide (e.a ∈ g) != decide (e.b ∈ g)) =
      o.edges.countP fun e => passesRight s.a e !=
        (passesRight s.b e != decide (s.points ∩ e.points).Nonempty) := by
    apply List.countP_congr
    intro e he
    have hiff := hg e (h e he)
    grind
  rw [hcount, even_countP_bne_iff, even_countP_bne_iff] at hchange
  rw [meetings]
  grind

end Outline

end Ratsnest
