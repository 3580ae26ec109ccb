import Ratsnest.Proofs.Geometry.Sweep

/-!
# Sweeps in rational numbers

The rationals are scalars without rounding, and a rational arc covers the angles that it covers
among the reals (`Arc.containsAngle_toReal`).  So an angle is covered just if it differs by full
turns from one on the way along the sweep, and neither full turns nor the direction of the sweep
matter (`Arc.containsAngle_sweeps`).
-/

namespace Ratsnest

-- The division of the rationals, which would otherwise be looked for among those of all scalars.
local instance ratDiv : Div ℚ := DivInvMonoid.toDiv

instance : Scalar ℚ where
  beq x y := decide (x = y)
  decideLT _ _ := inferInstance
  decideLE _ _ := inferInstance
  magnitude x := |x|
  finite _ := true
  capAbove x := x
  capBelow x := x
  turnRemainder x := x - 360 * ⌊x / 360⌋

namespace Scalar

theorem cast_magnitude (x : ℚ) : ((magnitude x : ℚ) : ℝ) = magnitude (x : ℝ) := Rat.cast_abs x

theorem cast_turnRemainder (x : ℚ) :
    ((turnRemainder x : ℚ) : ℝ) = turnRemainder (x : ℝ) := by
  change ((x - 360 * ⌊x / 360⌋ : ℚ) : ℝ) = (x : ℝ) - 360 * ⌊(x : ℝ) / 360⌋
  have hfloor : ⌊(x : ℝ) / 360⌋ = ⌊x / 360⌋ := by
    rw [← Rat.floor_cast (x / 360) (α := ℝ), Rat.cast_div, Rat.cast_ofNat]
  rw [hfloor]
  push_cast
  rfl

end Scalar

namespace Arc

/-- The arc with the same numbers among the reals. -/
noncomputable def toReal (c : Arc ℚ) : Arc ℝ :=
  ⟨⟨c.center.x, c.center.y⟩, c.radius, c.startAngle, c.sweep⟩

variable {c : Arc ℚ} {angle : ℚ}

/-- An arc covers the same rational angles among the reals. -/
theorem containsAngle_toReal (c : Arc ℚ) (angle : ℚ) :
    c.toReal.containsAngle angle = c.containsAngle angle := by
  have hfull : ((360 : ℕ) : ℝ) ≤ Scalar.magnitude c.toReal.sweep ↔
      ((360 : ℕ) : ℚ) ≤ Scalar.magnitude c.sweep := by
    rw [toReal, ← Scalar.cast_magnitude, ← Rat.cast_natCast, Rat.cast_le]
  have hneg : c.toReal.sweep < 0 ↔ c.sweep < 0 := Rat.cast_lt_zero
  rw [containsAngle, containsAngle]
  by_cases hsweep : c.sweep < 0
  · rw [if_pos hsweep, if_pos (hneg.2 hsweep)]
    have hend : Scalar.turnRemainder ((angle : ℝ) - (c.toReal.startAngle + c.toReal.sweep)) ≤
        -c.toReal.sweep ↔ Scalar.turnRemainder (angle - (c.startAngle + c.sweep)) ≤ -c.sweep := by
      rw [toReal, ← Rat.cast_add, ← Rat.cast_sub, ← Scalar.cast_turnRemainder, ← Rat.cast_neg,
        Rat.cast_le]
    simp only [hfull, hend]
  · rw [if_neg hsweep, if_neg (mt hneg.1 hsweep)]
    have hend : Scalar.turnRemainder ((angle : ℝ) - c.toReal.startAngle) ≤ c.toReal.sweep ↔
        Scalar.turnRemainder (angle - c.startAngle) ≤ c.sweep := by
      rw [toReal, ← Rat.cast_sub, ← Scalar.cast_turnRemainder, Rat.cast_le]
    simp only [hfull, hend]

/-- The share of the sweep that full turns lead to from a rational angle is rational. -/
theorem exists_share {n : ℤ} {k : ℝ} (hk : k ∈ Set.Icc (0 : ℝ) 1)
    (h : (c.startAngle : ℝ) + k * c.sweep = angle + 360 * n) :
    ∃ s ∈ Set.Icc (0 : ℚ) 1, c.startAngle + s * c.sweep = angle + 360 * n := by
  by_cases hsweep : c.sweep = 0
  · refine ⟨0, ⟨le_rfl, zero_le_one⟩, ?_⟩
    rw [hsweep, Rat.cast_zero, mul_zero] at h
    rw [hsweep, mul_zero]
    exact_mod_cast h
  · have hne : (c.sweep : ℝ) ≠ 0 := Rat.cast_ne_zero.2 hsweep
    have hshare : (((angle + 360 * n - c.startAngle) / c.sweep : ℚ) : ℝ) = k := by
      push_cast
      rw [div_eq_iff hne]
      linear_combination -h
    rw [← hshare] at hk
    refine ⟨(angle + 360 * n - c.startAngle) / c.sweep, ⟨?_, ?_⟩, ?_⟩
    · exact_mod_cast hk.1
    · exact_mod_cast hk.2
    · rw [div_mul_cancel₀ _ hsweep]
      ring

/-- The sweep covers what differs by full turns from an angle on the way along it. -/
theorem rat_containsAngle_iff : c.containsAngle angle ↔
    ∃ n : ℤ, ∃ s ∈ Set.Icc (0 : ℚ) 1, angle = c.startAngle + s * c.sweep + 360 * n := by
  rw [← containsAngle_toReal, containsAngle_iff_exists]
  constructor
  · rintro ⟨n, k, hk, h⟩
    obtain ⟨s, hs, heq⟩ := exists_share hk h
    refine ⟨-n, s, hs, ?_⟩
    push_cast
    linear_combination -heq
  · rintro ⟨n, s, ⟨h0, h1⟩, rfl⟩
    refine ⟨-n, s, ⟨by exact_mod_cast h0, by exact_mod_cast h1⟩, ?_⟩
    rw [toReal]
    push_cast
    ring

/-- What matters is how far an angle is from the start of the sweep, up to full turns. -/
theorem containsAngle_of_offset {d : Arc ℚ} {other : ℚ} {m : ℤ} (hsweep : d.sweep = c.sweep)
    (hoffset : other - d.startAngle = angle - c.startAngle + 360 * m)
    (h : c.containsAngle angle) : d.containsAngle other := by
  obtain ⟨n, s, hs, heq⟩ := rat_containsAngle_iff.1 h
  refine rat_containsAngle_iff.2 ⟨n + m, s, hs, ?_⟩
  rw [hsweep]
  push_cast
  linear_combination heq + hoffset

/-- A sweep that is run backwards covers the same angles. -/
theorem containsAngle_of_reversed {d : Arc ℚ} (hstart : d.startAngle = c.startAngle + c.sweep)
    (hsweep : d.sweep = -c.sweep) (h : c.containsAngle angle) : d.containsAngle angle := by
  obtain ⟨n, s, ⟨h0, h1⟩, heq⟩ := rat_containsAngle_iff.1 h
  refine rat_containsAngle_iff.2 ⟨n, 1 - s, ⟨by linarith, by linarith⟩, ?_⟩
  rw [hstart, hsweep]
  linear_combination heq

/-- An arc covers an angle just if it differs by full turns from one on the way along the sweep.
So it covers both ends, and neither full turns of the angle or of the arc matter nor from which end
the sweep is run. -/
theorem containsAngle_sweeps (c : Arc ℚ) (angle : ℚ) :
    (c.containsAngle angle ↔
      ∃ n : ℤ, ∃ s ∈ Set.Icc (0 : ℚ) 1, angle = c.startAngle + s * c.sweep + 360 * n) ∧
    (∀ n : ℤ, c.containsAngle (angle + 360 * n) = c.containsAngle angle) ∧
    (∀ n : ℤ, { c with startAngle := c.startAngle + 360 * n }.containsAngle angle =
      c.containsAngle angle) ∧
    { c with startAngle := c.startAngle + c.sweep, sweep := -c.sweep }.containsAngle angle =
      c.containsAngle angle ∧
    c.containsAngle c.startAngle ∧ c.containsAngle (c.startAngle + c.sweep) := by
  refine ⟨rat_containsAngle_iff, fun n => ?turned, fun n => ?turnedArc, ?reversed, ?start, ?stop⟩
  case turned =>
    rw [Bool.eq_iff_iff]
    constructor
    · exact containsAngle_of_offset (m := -n) rfl (by push_cast; ring)
    · exact containsAngle_of_offset (m := n) rfl (by ring)
  case turnedArc =>
    rw [Bool.eq_iff_iff]
    constructor
    · exact containsAngle_of_offset (m := n) rfl (by ring)
    · exact containsAngle_of_offset (m := -n) rfl (by push_cast; ring)
  case reversed =>
    rw [Bool.eq_iff_iff]
    constructor
    · exact containsAngle_of_reversed (by ring) (by ring)
    · exact containsAngle_of_reversed rfl rfl
  case start => exact rat_containsAngle_iff.2 ⟨0, 0, ⟨le_rfl, zero_le_one⟩, by simp⟩
  case stop => exact rat_containsAngle_iff.2 ⟨0, 1, ⟨zero_le_one, le_rfl⟩, by simp⟩

-- A quarter turn downwards from 350 degrees on.
example : containsAngle (⟨⟨0, 0⟩, 10, 350, -90⟩ : Arc ℚ) (-100) ∧
    ¬containsAngle (⟨⟨0, 0⟩, 10, 350, -90⟩ : Arc ℚ) 0 := by decide +kernel

end Arc

end Ratsnest
