import Mathlib
import Ratsnest.Geometry.Segment
import Ratsnest.Proofs.Scalar.Order

/-!
# Real scalars

The reals as scalars: what the geometry means.  Nothing overflows and nothing is rounded.  The
laws of points are stated here in coordinates, so that they can be used without opening the
operations of points.
-/

namespace Ratsnest

-- The division of the reals, which would otherwise be looked for among those of all scalars.
noncomputable instance realDiv : Div ℝ := DivInvMonoid.toDiv

open Classical in
noncomputable instance : Scalar ℝ where
  beq x y := decide (x = y)
  decideLT _ _ := inferInstance
  decideLE _ _ := inferInstance
  magnitude x := |x|
  finite _ := true
  capAbove x := x
  capBelow x := x
  turnRemainder x := x - 360 * ⌊x / 360⌋

noncomputable instance : AngularScalar ℝ where
  sqrt := Real.sqrt
  sin x := Real.sin (x * (Real.pi / 180))
  cos x := Real.cos (x * (Real.pi / 180))
  atan2 y x := Complex.arg ⟨x, y⟩ * (180 / Real.pi)

namespace Scalar

variable {x y : ℝ}

@[simp] theorem real_beq_iff : (x == y) = true ↔ x = y := decide_eq_true_iff

theorem real_half (x : ℝ) : half x = x / 2 := by simp [half]

theorem real_inUnit_iff : inUnit x = true ↔ 0 ≤ x ∧ x ≤ 1 := by simp [inUnit]

theorem clampUnit_mem (x : ℝ) : 0 ≤ clampUnit x ∧ clampUnit x ≤ 1 := by
  rw [clampUnit]
  split
  · exact ⟨le_rfl, zero_le_one⟩
  · split
    · exact ⟨zero_le_one, le_rfl⟩
    · exact ⟨not_lt.1 ‹_›, not_lt.1 ‹_›⟩

/-- The clamped value is the nearest one in `[0, 1]`. -/
theorem abs_clampUnit_sub_le (hy : 0 ≤ y) (hy' : y ≤ 1) : |clampUnit x - x| ≤ |y - x| := by
  rw [clampUnit]
  split
  · rename_i hx
    rw [abs_of_nonneg (by linarith), abs_of_nonneg (by linarith)]
    linarith
  · split
    · rename_i hx
      rw [abs_of_nonpos (by linarith), abs_of_nonpos (by linarith)]
      linarith
    · rw [sub_self, abs_zero]
      exact abs_nonneg _

end Scalar

instance : OrderedScalar ℝ where
  lt_irrefl := lt_irrefl
  lt_trans := lt_trans
  le_of_not_lt _ _ h := not_lt.1 h
  lt_zero_of_beq h hy := (Scalar.real_beq_iff.1 h) ▸ hy
  not_squares_lt_zero x y := not_lt.2 (add_nonneg (mul_self_nonneg x) (mul_self_nonneg y))

instance : LinearScalar ℝ where
  lt_or_lt {x _ z} _ h := (lt_or_ge x z).imp_right fun hz => hz.trans_lt h

namespace Point

variable (p q v : Point ℝ) (k : ℝ)

@[ext] theorem ext {p q : Point ℝ} (hx : p.x = q.x) (hy : p.y = q.y) : p = q := by
  cases p
  cases q
  exact congrArg₂ Point.mk hx hy

@[simp] theorem add_x : (p + v).x = p.x + v.x := rfl
@[simp] theorem add_y : (p + v).y = p.y + v.y := rfl
@[simp] theorem sub_x : (p - q).x = p.x - q.x := rfl
@[simp] theorem sub_y : (p - q).y = p.y - q.y := rfl
@[simp] theorem scale_x : (v.scale k).x = v.x * k := rfl
@[simp] theorem scale_y : (v.scale k).y = v.y * k := rfl

theorem real_beq_iff {p q : Point ℝ} : (p == q) = true ↔ p = q := by
  change (p.x == q.x && p.y == q.y) = true ↔ p = q
  rw [Bool.and_eq_true, Scalar.real_beq_iff, Scalar.real_beq_iff]
  constructor
  · rintro ⟨hx, hy⟩
    exact Point.ext hx hy
  · rintro rfl
    exact ⟨rfl, rfl⟩

theorem distance2_eq : p.distance2 q = (p.x - q.x) ^ 2 + (p.y - q.y) ^ 2 := by
  rw [sq, sq]
  rfl

theorem distance2_nonneg : 0 ≤ p.distance2 q := by
  rw [distance2_eq]
  positivity

@[simp] theorem distance2_self : p.distance2 p = 0 := by
  rw [distance2_eq]
  simp

theorem distance2_comm : p.distance2 q = q.distance2 p := by
  rw [distance2_eq, distance2_eq]
  ring

theorem distance2_eq_zero_iff {p q : Point ℝ} : p.distance2 q = 0 ↔ p = q := by
  constructor
  · intro h
    rw [distance2_eq] at h
    have hx : (p.x - q.x) ^ 2 = 0 := by nlinarith [sq_nonneg (p.x - q.x), sq_nonneg (p.y - q.y)]
    have hy : (p.y - q.y) ^ 2 = 0 := by nlinarith [sq_nonneg (p.x - q.x), sq_nonneg (p.y - q.y)]
    exact Point.ext (sub_eq_zero.1 (pow_eq_zero_iff two_ne_zero |>.1 hx))
      (sub_eq_zero.1 (pow_eq_zero_iff two_ne_zero |>.1 hy))
  · rintro rfl
    exact distance2_self p

/-! ## Distances -/

/-- The point in the complex plane. -/
def toComplex (p : Point ℝ) : ℂ := ⟨p.x, p.y⟩

theorem distance_eq_dist : p.distance q = dist p.toComplex q.toComplex := by
  rw [Complex.dist_eq, Complex.norm_def, Complex.normSq_apply]
  rfl

theorem distance_nonneg : 0 ≤ p.distance q := Real.sqrt_nonneg _

theorem distance_sq : p.distance q ^ 2 = p.distance2 q := Real.sq_sqrt (distance2_nonneg p q)

theorem distance_comm : p.distance q = q.distance p := by
  rw [distance, distance, distance2_comm]

theorem distance_triangle (p q r : Point ℝ) : p.distance r ≤ p.distance q + q.distance r := by
  simp only [distance_eq_dist]
  exact dist_triangle _ _ _

theorem distance_le_iff {p q : Point ℝ} {r : ℝ} (hr : 0 ≤ r) :
    p.distance q ≤ r ↔ p.distance2 q ≤ r * r := by
  rw [← sq, ← distance_sq]
  exact (sq_le_sq₀ (distance_nonneg p q) hr).symm

end Point

end Ratsnest
