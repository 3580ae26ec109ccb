import Ratsnest.Proofs.Scalar.Real

/-!
# Closest approaches of sets

A pair of points is a closest approach of two sets if none of their points are closer
(`Approach.IsClosest`).  A search finds one if its candidates bound all distances
(`Approach.exists_isClosest`).
-/

namespace Ratsnest

universe u

namespace Approach

/-! ## What a search finds -/

section Search

variable {α : Type u} [Scalar α] {xs : List (Approach α)} {x : Point α} {p : Approach α}

theorem offer_some (p q : Approach α) :
    offer (some p) q = if q.d2 < p.d2 then some q else some p := rfl

theorem mem_of_foldl_offer {best : Option (Approach α)} (h : xs.foldl offer best = some p) :
    p ∈ xs ∨ best = some p := by
  induction xs generalizing best with
  | nil => exact .inr h
  | cons q xs ih =>
    rcases ih h with hmem | hbest
    · exact .inl (List.mem_cons_of_mem q hmem)
    · cases best with
      | none =>
        simp only [offer] at hbest
        split at hbest
        · cases hbest
          exact .inl List.mem_cons_self
        · cases hbest
      | some b =>
        rw [offer_some] at hbest
        split at hbest
        · cases hbest
          exact .inl List.mem_cons_self
        · exact .inr hbest

/-- What a search finds is one of its candidates. -/
theorem mem_of_closest (h : closest xs = some p) : p ∈ xs :=
  (mem_of_foldl_offer h).resolve_right (Option.some_ne_none p).symm

theorem eq_of_meeting (h : meeting x = some p) : p = ⟨x, x⟩ :=
  List.mem_singleton.1 (mem_of_closest h)

end Search

/-! ## Closest approaches -/

/-- Whether no point of `A` is closer to one of `B` than those of `p` are to each other. -/
structure IsClosest (A B : Set (Point ℝ)) (p : Approach ℝ) : Prop where
  a_mem : p.a ∈ A
  b_mem : p.b ∈ B
  least : ∀ x ∈ A, ∀ y ∈ B, p.d2 ≤ x.distance2 y

variable {A B : Set (Point ℝ)} {p : Approach ℝ}

theorem IsClosest.swap (h : IsClosest A B p) : IsClosest B A p.swap where
  a_mem := h.b_mem
  b_mem := h.a_mem
  least x hx y hy := by
    rw [Point.distance2_comm x y, d2, Approach.swap, Point.distance2_comm]
    exact h.least y hy x hx

/-- A common point is a closest approach. -/
theorem isClosest_of_mem {x : Point ℝ} (hA : x ∈ A) (hB : x ∈ B) : IsClosest A B ⟨x, x⟩ where
  a_mem := hA
  b_mem := hB
  least y _ z _ := by
    rw [d2, Point.distance2_self]
    exact Point.distance2_nonneg y z

/-! ## Searches -/

theorem exists_foldl_offer (xs : List (Approach ℝ)) (p : Approach ℝ) :
    ∃ q ∈ p :: xs, xs.foldl offer (some p) = some q ∧ ∀ x ∈ p :: xs, q.d2 ≤ x.d2 := by
  induction xs generalizing p with
  | nil => exact ⟨p, List.mem_cons_self, rfl, fun x hx => by rw [List.mem_singleton.1 hx]⟩
  | cons y xs ih =>
    rw [List.foldl_cons, offer_some]
    split
    · rename_i hlt
      obtain ⟨q, hq, heq, hle⟩ := ih y
      refine ⟨q, List.mem_cons_of_mem p hq, heq, ?_⟩
      intro x hx
      rcases List.mem_cons.1 hx with rfl | hx
      · exact (hle y List.mem_cons_self).trans hlt.le
      · exact hle x hx
    · rename_i hlt
      obtain ⟨q, hq, heq, hle⟩ := ih p
      have hsub : ∀ x ∈ p :: xs, x ∈ p :: y :: xs := by
        intro x hx
        simp only [List.mem_cons] at hx ⊢
        tauto
      refine ⟨q, hsub q hq, heq, ?_⟩
      intro x hx
      rcases List.mem_cons.1 hx with rfl | hx
      · exact hle x List.mem_cons_self
      · rcases List.mem_cons.1 hx with rfl | hx
        · exact (hle p List.mem_cons_self).trans (not_lt.1 hlt)
        · exact hle x (List.mem_cons_of_mem p hx)

/-- A search among some candidates finds a closest one. -/
theorem exists_closest {xs : List (Approach ℝ)} (h : xs ≠ []) :
    ∃ p ∈ xs, closest xs = some p ∧ ∀ q ∈ xs, p.d2 ≤ q.d2 := by
  cases xs with
  | nil => exact absurd rfl h
  | cons x xs => exact exists_foldl_offer xs x

/-- Candidates from two sets that bound all distances between these include a closest approach. -/
theorem exists_isClosest {xs : List (Approach ℝ)} (hne : xs ≠ [])
    (hmem : ∀ p ∈ xs, p.a ∈ A ∧ p.b ∈ B)
    (hle : ∀ x ∈ A, ∀ y ∈ B, ∃ p ∈ xs, p.d2 ≤ x.distance2 y) :
    ∃ p, closest xs = some p ∧ IsClosest A B p := by
  obtain ⟨p, hp, heq, hleast⟩ := exists_closest hne
  refine ⟨p, heq, (hmem p hp).1, (hmem p hp).2, ?_⟩
  intro x hx y hy
  obtain ⟨q, hq, hqle⟩ := hle x hx y hy
  exact (hleast q hq).trans hqle

end Approach

end Ratsnest
