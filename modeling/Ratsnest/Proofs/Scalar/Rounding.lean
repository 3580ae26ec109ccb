import Mathlib.Data.Int.Log
import Ratsnest.Proofs.Scalar.Order

/-!
# Rounding

What rounding a floating-point result means.  The finite numbers are counted from zero on
(`FloatOrder.ordinal`), and rounding finds the one nearest to the exact value, the even one of two
(`FloatOrder.ordinal_round`).  A sum is rounded once (`FloatOrder.ordinal_add`), and so is a square
(`FloatOrder.ordinal_mul_self`).

Counting makes rounding monotone (`FloatOrder.nearest_mono`) without a look at the carry into a
new digit: a full mantissa has the place of the least one of the next exponent.
-/

namespace Ratsnest

/-! ## Rounding to an integer -/

/-- The integer nearest to `x`, the even one of two. -/
def halfEven (x : ℚ) : ℤ :=
  if Int.fract x < 1 / 2 then ⌊x⌋
  else if 1 / 2 < Int.fract x then ⌊x⌋ + 1
  else ⌊x⌋ + ⌊x⌋ % 2

theorem floor_le_halfEven (x : ℚ) : ⌊x⌋ ≤ halfEven x := by
  unfold halfEven
  split_ifs <;> omega

theorem halfEven_le (x : ℚ) : halfEven x ≤ ⌊x⌋ + 1 := by
  unfold halfEven
  split_ifs <;> omega

@[simp] theorem halfEven_intCast (n : ℤ) : halfEven n = n := by
  simp [halfEven]

theorem halfEven_mono {x y : ℚ} (h : x ≤ y) : halfEven x ≤ halfEven y := by
  rcases (Int.floor_le_floor h).lt_or_eq with hlt | heq
  · exact (halfEven_le x).trans ((Int.add_one_le_of_lt hlt).trans (floor_le_halfEven y))
  · have hfract : Int.fract x ≤ Int.fract y := by
      rw [Int.fract, Int.fract, heq]
      exact sub_le_sub_right h _
    unfold halfEven
    rw [heq]
    split_ifs <;> first | omega | linarith

namespace FloatOrder

open Float.Model Float.Model.UnpackedFloat

/-! ## Shifting a mantissa -/

/-- What is left of a mantissa after `n` shifts: the quotient, and how the remainder compares with
half of the last place. -/
structure Shifted (m n : ℕ) (em : ExtendedMantissa) : Prop where
  mantissa : em.mantissa = m / 2 ^ n
  roundBit : em.roundBit = true ↔ 2 ^ n ≤ 2 * (m % 2 ^ n)
  stickyBit : em.stickyBit = true ↔ 2 * (m % 2 ^ n) % 2 ^ n ≠ 0

theorem shifted_zero (m : ℕ) : Shifted m 0 (ExtendedMantissa.ofMantissaAndAccuracy m .exact) := by
  constructor <;> simp [ExtendedMantissa.ofMantissaAndAccuracy, Nat.mod_one]

theorem Shifted.succ {m n : ℕ} {em : ExtendedMantissa} (h : Shifted m n em) :
    Shifted m (n + 1) em.shiftRightOne := by
  have hmod : m % 2 ^ (n + 1) = m % 2 ^ n + 2 ^ n * (m / 2 ^ n % 2) := Nat.mod_pow_succ
  have hlt : m % 2 ^ n < 2 ^ n := Nat.mod_lt m (Nat.two_pow_pos n)
  constructor
  · rw [ExtendedMantissa.shiftRightOne, h.mantissa, Nat.div_div_eq_div_mul, Nat.pow_succ]
  · simp only [ExtendedMantissa.shiftRightOne, h.mantissa, hmod, bne_iff_ne]
    rcases Nat.mod_two_eq_zero_or_one (m / 2 ^ n) with h2 | h2
    · simp only [h2, ne_eq, not_true_eq_false, false_iff, Nat.pow_succ]
      omega
    · simp only [h2, Nat.pow_succ]
      omega
  · have hsticky : 2 * (m % 2 ^ (n + 1)) % 2 ^ (n + 1) = 2 * (m % 2 ^ n) := by
      rw [Nat.pow_succ', Nat.mul_mod_mul_left, Nat.mod_mul_left_mod]
    simp only [ExtendedMantissa.shiftRightOne, Bool.or_eq_true, h.roundBit, h.stickyBit, hsticky]
    constructor
    · rintro (hround | hstick) h0
      · have := Nat.two_pow_pos n
        omega
      · exact hstick (by rw [h0, Nat.zero_mod])
    · intro h0
      rcases Nat.lt_or_ge (2 * (m % 2 ^ n)) (2 ^ n) with hsmall | hbig
      · right
        rwa [Nat.mod_eq_of_lt hsmall]
      · exact .inl hbig

theorem shifted_shiftRight (m n : ℕ) :
    Shifted m n (ExtendedMantissa.ofMantissaAndAccuracy m .exact >>> n) := by
  induction n with
  | zero => exact shifted_zero m
  | succ n ih => exact ih.succ

/-- Shifted digits are rounded to the nearest mantissa. -/
theorem Shifted.roundedMantissa {m n : ℕ} {em : ExtendedMantissa} (h : Shifted m n em) :
    (em.roundedMantissa : ℤ) = halfEven (m / 2 ^ n) := by
  have hpos : (0 : ℚ) < 2 ^ n := by positivity
  have hfloor : ⌊(m / 2 ^ n : ℚ)⌋ = ((m / 2 ^ n : ℕ) : ℤ) := by
    have := Rat.floor_natCast_div_natCast m (2 ^ n)
    push_cast at this
    rw [this]
    norm_cast
  have hfract : Int.fract (m / 2 ^ n : ℚ) = (m % 2 ^ n : ℕ) / 2 ^ n := by
    have hdiv : (m : ℚ) = 2 ^ n * (m / 2 ^ n : ℕ) + (m % 2 ^ n : ℕ) := by
      exact_mod_cast (Nat.div_add_mod m (2 ^ n)).symm
    rw [Int.fract, hfloor, eq_div_iff hpos.ne', sub_mul, div_mul_cancel₀ _ hpos.ne',
      Int.cast_natCast]
    linarith
  have hlt : m % 2 ^ n < 2 ^ n := Nat.mod_lt m (Nat.two_pow_pos n)
  -- The bits say on which side of one half the remainder lies.
  have hless : Int.fract (m / 2 ^ n : ℚ) < 1 / 2 ↔ em.roundBit = false := by
    rw [← Bool.not_eq_true, h.roundBit, not_le, hfract, div_lt_div_iff₀ hpos two_pos, one_mul,
      mul_comm]
    norm_cast
  have hmore : 1 / 2 < Int.fract (m / 2 ^ n : ℚ) ↔ em.roundBit = true ∧ em.stickyBit = true := by
    have hnat : 1 / 2 < Int.fract (m / 2 ^ n : ℚ) ↔ 2 ^ n < 2 * (m % 2 ^ n) := by
      rw [hfract, div_lt_div_iff₀ two_pos hpos, one_mul, mul_comm]
      norm_cast
    rw [hnat, h.roundBit, h.stickyBit]
    constructor
    · intro hlt'
      refine ⟨hlt'.le, ?_⟩
      rw [Nat.mod_eq_sub_mod hlt'.le, Nat.mod_eq_of_lt (by omega)]
      omega
    · rintro ⟨hle, hne⟩
      refine lt_of_le_of_ne hle fun heq => hne ?_
      rw [← heq, Nat.mod_self]
  obtain ⟨q, round, sticky⟩ := em
  obtain rfl : q = m / 2 ^ n := h.mantissa
  unfold halfEven
  simp only [hless, hmore, hfloor]
  cases round <;> cases sticky <;>
    simp [ExtendedMantissa.roundedMantissa, ExtendedMantissa.accuracy,
      Accuracy.roundToNearestEven]

/-! ## Counting numbers -/

/-- The exponent of the last place of the floating-point numbers around `x`. -/
def lastPlace (x : ℚ) : ℤ := max (Int.log 2 x - 52) (-1074)

/-- The number of floating-point numbers from zero, without it, up to the one nearest to `x`.
There is no greatest exponent. -/
def countTo (x : ℚ) : ℤ :=
  if x ≤ 0 then 0 else (lastPlace x + 1074) * 2 ^ 52 + halfEven (x / 2 ^ lastPlace x)

theorem lastPlace_mono {x y : ℚ} (hx : 0 < x) (h : x ≤ y) : lastPlace x ≤ lastPlace y :=
  max_le_max_right _ (sub_le_sub_right (Int.log_mono_right hx h) _)

theorem neg_le_lastPlace (x : ℚ) : -1074 ≤ lastPlace x := le_max_right _ _

/-- The mantissa has at most 53 digits. -/
theorem halfEven_lastPlace_le {x : ℚ} : halfEven (x / 2 ^ lastPlace x) ≤ 2 ^ 53 := by
  have hpos : (0 : ℚ) < 2 ^ lastPlace x := zpow_pos two_pos _
  have hlt : x / 2 ^ lastPlace x ≤ ((2 ^ 53 : ℤ) : ℚ) := by
    rw [div_le_iff₀ hpos]
    have hlog : x < (2 : ℚ) ^ (Int.log 2 x + 1) := Int.lt_zpow_succ_log_self Nat.one_lt_two x
    have hle : Int.log 2 x + 1 ≤ 53 + lastPlace x := by
      have := le_max_left (Int.log 2 x - 52) (-1074)
      rw [← lastPlace] at this
      omega
    calc x ≤ 2 ^ (Int.log 2 x + 1) := hlog.le
      _ ≤ 2 ^ (53 + lastPlace x) := zpow_le_zpow_right₀ one_le_two hle
      _ = ((2 ^ 53 : ℤ) : ℚ) * 2 ^ lastPlace x := by
        rw [zpow_add₀ two_ne_zero]
        norm_num
  exact (halfEven_mono hlt).trans_eq (halfEven_intCast _)

/-- It has exactly 53 digits above the least exponent. -/
theorem le_halfEven_lastPlace {x : ℚ} (hx : 0 < x) (h : -1074 < lastPlace x) :
    2 ^ 52 ≤ halfEven (x / 2 ^ lastPlace x) := by
  have hpos : (0 : ℚ) < 2 ^ lastPlace x := zpow_pos two_pos _
  have hle : ((2 ^ 52 : ℤ) : ℚ) ≤ x / 2 ^ lastPlace x := by
    rw [le_div_iff₀ hpos]
    have hlog : (2 : ℚ) ^ Int.log 2 x ≤ x := Int.zpow_log_le_self Nat.one_lt_two hx
    have heq : 52 + lastPlace x = Int.log 2 x := by
      rw [lastPlace] at h ⊢
      omega
    calc ((2 ^ 52 : ℤ) : ℚ) * 2 ^ lastPlace x = 2 ^ (52 + lastPlace x) := by
          rw [zpow_add₀ two_ne_zero]
          norm_num
      _ = 2 ^ Int.log 2 x := by rw [heq]
      _ ≤ x := hlog
  exact (halfEven_intCast _).symm.trans_le (halfEven_mono hle)

theorem countTo_nonneg (x : ℚ) : 0 ≤ countTo x := by
  unfold countTo
  split_ifs with hx
  · exact le_rfl
  · have hpos : (0 : ℚ) < 2 ^ lastPlace x := zpow_pos two_pos _
    have hmant : halfEven ((0 : ℤ) : ℚ) ≤ halfEven (x / 2 ^ lastPlace x) :=
      halfEven_mono (by rw [Int.cast_zero]; exact (div_pos (not_le.1 hx) hpos).le)
    rw [halfEven_intCast] at hmant
    have := neg_le_lastPlace x
    omega

/-- A greater number is not rounded to a smaller one. -/
theorem countTo_mono {x y : ℚ} (h : x ≤ y) : countTo x ≤ countTo y := by
  by_cases hx : x ≤ 0
  · rw [countTo, if_pos hx]
    exact countTo_nonneg y
  have hx := not_le.1 hx
  rw [countTo, countTo, if_neg hx.not_ge, if_neg (hx.trans_le h).not_ge]
  rcases (lastPlace_mono hx h).lt_or_eq with hlt | heq
  · -- The last place has moved up, so at most the least mantissa there is reached.
    have hmant := le_halfEven_lastPlace (hx.trans_le h) ((neg_le_lastPlace x).trans_lt hlt)
    have hmax := halfEven_lastPlace_le (x := x)
    omega
  · rw [heq]
    have hpos : (0 : ℚ) < 2 ^ lastPlace y := zpow_pos two_pos _
    exact add_le_add_right (halfEven_mono (div_le_div_of_nonneg_right h hpos.le)) _

/-- The number of the floating-point number nearest to `x`, counted from zero on. -/
def nearest (x : ℚ) : ℤ := countTo x - countTo (-x)

theorem nearest_mono {x y : ℚ} (h : x ≤ y) : nearest x ≤ nearest y :=
  sub_le_sub (countTo_mono h) (countTo_mono (neg_le_neg h))

@[simp] theorem nearest_zero : nearest 0 = 0 := by simp [nearest, countTo]

theorem nearest_of_nonneg {x : ℚ} (h : 0 ≤ x) : nearest x = countTo x := by
  have hneg : countTo (-x) = 0 := if_pos (neg_nonpos.2 h)
  rw [nearest, hneg, sub_zero]

theorem nearest_neg (x : ℚ) : nearest (-x) = -nearest x := by
  rw [nearest, nearest, neg_neg, neg_sub]

/-! ## Rounding -/

/-- The rational number of a mantissa and an exponent. -/
def dyadic (m : ℤ) (e : ℤ) : ℚ := m * 2 ^ e

theorem dyadic_pos {m : ℤ} (hm : 0 < m) (e : ℤ) : 0 < dyadic m e :=
  mul_pos (Int.cast_pos.2 hm) (zpow_pos two_pos e)

theorem dyadic_neg (m e : ℤ) : dyadic (-m) e = -dyadic m e := by
  rw [dyadic, dyadic, Int.cast_neg, neg_mul]

theorem dyadic_div (m : ℤ) (e : ℤ) (n : ℕ) : dyadic m e / 2 ^ (e + n) = m / 2 ^ n := by
  rw [dyadic, zpow_add₀ two_ne_zero, zpow_natCast, mul_comm,
    mul_div_mul_left _ _ (zpow_ne_zero e two_ne_zero)]

theorem dyadic_shiftLeft (m n : ℕ) (e : ℤ) : dyadic (m <<< n : ℕ) (e - n) = dyadic m e := by
  rw [dyadic, dyadic, Nat.shiftLeft_eq, zpow_sub₀ two_ne_zero, zpow_natCast]
  push_cast
  field_simp

theorem log_dyadic {m : ℕ} (hm : 0 < m) (e : ℤ) : Int.log 2 (dyadic m e) = m.log2 + e := by
  have hpos := dyadic_pos (Int.natCast_pos.2 hm) e
  have hbound : (2 : ℚ) ^ ((m.log2 : ℤ) + e) ≤ dyadic m e ∧
      dyadic m e < 2 ^ ((m.log2 : ℤ) + e + 1) := by
    have hlow : ((2 ^ m.log2 : ℕ) : ℚ) ≤ m := Nat.cast_le.2 (Nat.log2_self_le hm.ne')
    have hhigh : (m : ℚ) < (2 ^ (m.log2 + 1) : ℕ) := Nat.cast_lt.2 Nat.lt_log2_self
    push_cast at hlow hhigh
    have he : (0 : ℚ) < 2 ^ e := zpow_pos two_pos e
    rw [dyadic, Int.cast_natCast, add_right_comm, zpow_add₀ two_ne_zero, zpow_add₀ two_ne_zero,
      zpow_natCast, show ((m.log2 : ℤ) + 1) = ((m.log2 + 1 : ℕ) : ℤ) by push_cast; rfl,
      zpow_natCast]
    exact ⟨mul_le_mul_of_nonneg_right hlow he.le, mul_lt_mul_of_pos_right hhigh he⟩
  apply le_antisymm
  · exact Int.lt_add_one_iff.1 ((Int.lt_zpow_iff_log_lt Nat.one_lt_two hpos).1 hbound.2)
  · exact (Int.zpow_le_iff_le_log Nat.one_lt_two hpos).1 hbound.1

theorem targetExponent_binary64 (k : ℤ) :
    Format.binary64.targetExponent k = max (k - 53) (-1074) := by
  have hmant : Format.binary64.mantissaBits = 53 := rfl
  have hmin : Format.binary64.minExponent = -1074 := by decide
  rw [Format.targetExponent, hmant, hmin]
  rfl

theorem targetExponent_eq {m : ℕ} (hm : 0 < m) (e : ℤ) :
    Format.binary64.targetExponent (totalExponent m e) = lastPlace (dyadic m e) := by
  rw [lastPlace, log_dyadic hm, targetExponent_binary64, totalExponent]
  omega

/-- Whether the mantissa and the exponent are those that the format keeps. -/
def Canonical : UnpackedFloat → Prop
  | .finite _ m e _ => m < 2 ^ 53 ∧ -1074 ≤ e ∧ (2 ^ 52 ≤ m ∨ e = -1074)
  | _ => True

/-- The place of a number among all floating-point numbers, counted from zero. -/
def ordinal : UnpackedFloat → Option ℤ
  | .notANumber => none
  | .infinity s => some (s.apply (2047 * 2 ^ 52))
  | .zero _ => some 0
  | .finite s m e _ => some (s.apply ((e + 1074) * 2 ^ 52 + m))

theorem shift_of_small {m : ℕ} {e : ℤ} (hm : m < 2 ^ 53) (he : -1074 ≤ e) :
    shiftToTargetExponent .binary64 m e .exact = (⟨m, false, false⟩, e) := by
  have hlog : m.log2 ≤ 52 := by
    rcases Nat.eq_zero_or_pos m with rfl | hpos
    · decide
    · exact Nat.lt_succ_iff.1 ((Nat.log2_lt hpos.ne').2 hm)
  have hshift : (Format.binary64.targetExponent (totalExponent m e) - e).toNat = 0 := by
    rw [targetExponent_binary64, totalExponent]
    omega
  rw [shiftToTargetExponent, shiftToExponent, hshift]
  simp [ExtendedMantissa.ofMantissaAndAccuracy, HShiftRight.hShiftRight, Nat.repeat]

theorem shift_of_full {e : ℤ} (he : -1074 ≤ e) :
    shiftToTargetExponent .binary64 (2 ^ 53) e .exact = (⟨2 ^ 52, false, false⟩, e + 1) := by
  have hshift : (Format.binary64.targetExponent (totalExponent (2 ^ 53) e) - e).toNat = 1 := by
    rw [targetExponent_binary64, totalExponent, Nat.log2_two_pow]
    omega
  rw [shiftToTargetExponent, shiftToExponent, hshift]
  simp [ExtendedMantissa.ofMantissaAndAccuracy, HShiftRight.hShiftRight, Nat.repeat,
    ExtendedMantissa.shiftRightOne]

/-- Where the exponent is not too large, rounding finds the nearest number. -/
theorem ordinal_roundWithAccuracy (s : Sign) {m : ℕ} (hm : 0 < m) {e : ℤ}
    (he : e ≤ lastPlace (dyadic m e)) :
    ordinal (roundWithAccuracy .binary64 s m e .exact) = some (s.apply (nearest (dyadic m e))) ∧
      Canonical (roundWithAccuracy .binary64 s m e .exact) := by
  let x := dyadic m e
  let n := (lastPlace x - e).toNat
  have hx : 0 < x := dyadic_pos (Int.natCast_pos.2 hm) e
  have hplace : e + n = lastPlace x := by
    have : 0 ≤ lastPlace x - e := sub_nonneg.2 he
    omega
  let em := ExtendedMantissa.ofMantissaAndAccuracy m .exact >>> n
  have hfirst : shiftToTargetExponent .binary64 m e .exact = (em, lastPlace x) := by
    have hn : (lastPlace x - e).toNat = n := rfl
    rw [shiftToTargetExponent, targetExponent_eq hm, shiftToExponent, hn, hplace]
  have hmant : (em.roundedMantissa : ℤ) = halfEven (x / 2 ^ lastPlace x) := by
    rw [(shifted_shiftRight m n).roundedMantissa, ← hplace, dyadic_div, Int.cast_natCast]
  have hcount : nearest x = (lastPlace x + 1074) * 2 ^ 52 + em.roundedMantissa := by
    rw [nearest_of_nonneg hx.le, countTo, if_neg hx.not_ge, hmant]
  have hmax := halfEven_lastPlace_le (x := x)
  have hmin := neg_le_lastPlace x
  have hfull : 2 ^ 52 ≤ em.roundedMantissa ∨ lastPlace x = -1074 := by
    rcases hmin.lt_or_eq with hlt | heq
    · have hle := le_halfEven_lastPlace hx hlt
      rw [← hmant] at hle
      exact .inl (by omega)
    · exact .inr heq.symm
  rw [← hmant] at hmax
  change ordinal _ = some (s.apply (nearest x)) ∧ _
  rw [hcount, roundWithAccuracy, hfirst]
  dsimp only
  rcases Nat.lt_or_ge em.roundedMantissa (2 ^ 53) with hlt | hge
  · rw [shift_of_small hlt hmin]
    split_ifs with hzero
    · replace hzero : em.roundedMantissa = 0 := hzero
      have hleast : lastPlace x = -1074 := hfull.resolve_left (by omega)
      refine ⟨?_, trivial⟩
      rw [hzero, hleast]
      cases s <;> rfl
    · exact ⟨rfl, hlt, hmin, hfull⟩
  · -- One digit too many: the mantissa is a power of two, so nothing is lost with its last one.
    have heq : em.roundedMantissa = 2 ^ 53 := by omega
    rw [heq, shift_of_full hmin]
    have hne : 2 ^ 52 < 2 ^ 53 := by decide
    refine ⟨congrArg (fun k => some (s.apply k)) ?_, hne, by omega, .inl le_rfl⟩
    push_cast
    ring

/-- Rounding finds the nearest number. -/
theorem ordinal_round (s : Sign) {m : ℕ} (hm : 0 < m) (e : ℤ) :
    ordinal (round .binary64 s m e) = some (s.apply (nearest (dyadic m e))) ∧
      Canonical (round .binary64 s m e) := by
  let n := (e - lastPlace (dyadic m e)).toNat
  have hn : 0 < m <<< n := by
    rw [Nat.shiftLeft_eq]
    exact Nat.mul_pos hm (Nat.two_pow_pos n)
  have heq : dyadic (m <<< n : ℕ) (e - n) = dyadic m e := dyadic_shiftLeft m n e
  have hround : round .binary64 s m e =
      roundWithAccuracy .binary64 s (m <<< n) (e - n) .exact := by
    rw [UnpackedFloat.round, targetExponent_eq hm, decreaseExponent]
  rw [hround, ← heq]
  apply ordinal_roundWithAccuracy s hn
  rw [heq]
  omega

theorem ordinal_normalize (m e : ℤ) (z : Sign) :
    ordinal (normalize .binary64 m e z) = some (nearest (dyadic m e)) ∧
      Canonical (normalize .binary64 m e z) := by
  rw [UnpackedFloat.normalize]
  rcases lt_trichotomy m 0 with hneg | rfl | hpos
  · rw [compare_lt_iff_lt.2 hneg]
    have hm : ((-m).toNat : ℤ) = -m := Int.toNat_of_nonneg (by omega)
    have hround := ordinal_round .negative (m := (-m).toNat) (by omega) e
    rw [hm, dyadic_neg, nearest_neg] at hround
    rw [hround.1]
    exact ⟨congrArg some (neg_neg _), hround.2⟩
  · rw [compare_eq_iff_eq.2 rfl]
    refine ⟨?_, trivial⟩
    rw [dyadic, Int.cast_zero, zero_mul]
    rfl
  · rw [compare_gt_iff_gt.2 hpos]
    have hm : (m.toNat : ℤ) = m := Int.toNat_of_nonneg hpos.le
    have hround := ordinal_round .positive (m := m.toNat) (by omega) e
    rw [hm] at hround
    exact hround

/-! ## Exact values -/

/-- The rational number that a finite number stands for. -/
def value : UnpackedFloat → ℚ
  | .finite s m e _ => dyadic (s.apply m) e
  | _ => 0

theorem dyadic_apply (s : Sign) (m : ℕ) (e : ℤ) :
    dyadic (s.apply m) e = s.apply 1 * dyadic m e := by
  cases s <;> simp [Sign.apply, dyadic]

theorem nearest_apply (s : Sign) (x : ℚ) : nearest (s.apply 1 * x) = s.apply (nearest x) := by
  cases s
  · simp [Sign.apply, nearest_neg]
  · simp [Sign.apply]

/-- A number that the format keeps is not rounded. -/
theorem Canonical.ordinal_eq {a : UnpackedFloat} (h : Canonical a) (hfin : a.isFinite) :
    ordinal a = some (nearest (value a)) := by
  rcases a with _ | _ | s | ⟨s, m, e, hm⟩
  · cases hfin
  · cases hfin
  · rfl
  · obtain ⟨hlt, hmin, hfull⟩ := h
    have hplace : lastPlace (dyadic m e) = e := by
      rw [lastPlace, log_dyadic hm]
      have hlog : m.log2 ≤ 52 := Nat.lt_succ_iff.1 ((Nat.log2_lt hm.ne').2 hlt)
      rcases hfull with hfull | rfl
      · have hle : 52 ≤ m.log2 := (Nat.le_log2 hm.ne').2 hfull
        omega
      · omega
    have hpos := dyadic_pos (Int.natCast_pos.2 hm) e
    have hdiv : dyadic m e / 2 ^ e = ((m : ℤ) : ℚ) :=
      mul_div_cancel_right₀ _ (zpow_ne_zero e two_ne_zero)
    rw [value, dyadic_apply, nearest_apply, nearest_of_nonneg hpos.le, countTo,
      if_neg hpos.not_ge, hplace, hdiv, halfEven_intCast]
    rfl

/-- The sum is the number nearest to the exact sum. -/
theorem ordinal_add {a b : UnpackedFloat} (ha : Canonical a) (hb : Canonical b)
    (hfa : a.isFinite) (hfb : b.isFinite) :
    ordinal (UnpackedFloat.add .binary64 a b) = some (nearest (value a + value b)) ∧
      Canonical (UnpackedFloat.add .binary64 a b) := by
  rcases a with _ | _ | s | ⟨s, m, e, hm⟩
  · cases hfa
  · cases hfa
  · rcases b with _ | _ | t | ⟨t, n, f, hn⟩
    · cases hfb
    · cases hfb
    · have hzero (s : Sign) : value (.zero s) = 0 := rfl
      rw [hzero, hzero, add_zero, nearest_zero]
      cases s <;> cases t <;> exact ⟨rfl, trivial⟩
    · have hsum := hb.ordinal_eq hfb
      rw [← zero_add (value _)] at hsum
      exact ⟨hsum, hb⟩
  · rcases b with _ | _ | t | ⟨t, n, f, hn⟩
    · cases hfb
    · cases hfb
    · have hsum := ha.ordinal_eq hfa
      rw [← add_zero (value _)] at hsum
      exact ⟨hsum, ha⟩
    · have hshift (s : Sign) (m : ℕ) (e k : ℤ) (hk : k ≤ e) :
          dyadic (s.apply (decreaseExponent m e k).1) k = dyadic (s.apply m) e := by
        have hsub : e - ((e - k).toNat : ℤ) = k := by omega
        have hshift := dyadic_shiftLeft m (e - k).toNat e
        rw [hsub] at hshift
        rw [dyadic_apply, dyadic_apply, decreaseExponent, hshift]
      have hvalue : dyadic (s.apply (decreaseExponent m e (min e f)).1 +
          t.apply (decreaseExponent n f (min e f)).1) (min e f) =
          dyadic (s.apply m) e + dyadic (t.apply n) f := by
        rw [← hshift s m e _ (min_le_left e f), ← hshift t n f _ (min_le_right e f), dyadic,
          dyadic, dyadic, Int.cast_add, add_mul]
      have hsum := ordinal_normalize (s.apply (decreaseExponent m e (min e f)).1 +
        t.apply (decreaseExponent n f (min e f)).1) (min e f) .positive
      rw [hvalue] at hsum
      exact hsum

/-- The square is the number nearest to the exact square. -/
theorem ordinal_mul_self {a : UnpackedFloat} (ha : Canonical a) (hfa : a.isFinite) :
    ordinal (UnpackedFloat.mul .binary64 a a) = some (nearest (value a * value a)) ∧
      Canonical (UnpackedFloat.mul .binary64 a a) := by
  rcases a with _ | _ | s | ⟨s, m, e, hm⟩
  · cases hfa
  · cases hfa
  · have hzero : value (.zero s) = 0 := rfl
    rw [hzero, mul_zero, nearest_zero]
    exact ⟨rfl, trivial⟩
  · have hvalue : value (.finite s m e hm) * value (.finite s m e hm) =
        dyadic (m * m : ℕ) (e + e) := by
      rw [value, dyadic, dyadic, zpow_add₀ two_ne_zero]
      cases s
      · simp only [Sign.apply]
        push_cast
        ring
      · simp only [Sign.apply]
        push_cast
        ring
    have hplace : e + e ≤ lastPlace (dyadic (m * m : ℕ) (e + e)) := by
      obtain ⟨-, -, hfull⟩ := ha
      rw [lastPlace, log_dyadic (Nat.mul_pos hm hm)]
      rcases hfull with hfull | rfl
      · have hlog : 104 ≤ (m * m).log2 := by
          rw [Nat.le_log2 (Nat.mul_pos hm hm).ne']
          exact (Nat.mul_le_mul hfull hfull : 2 ^ 52 * 2 ^ 52 ≤ m * m)
        omega
      · omega
    have hround := ordinal_roundWithAccuracy (s * s) (Nat.mul_pos hm hm) hplace
    rw [← hvalue] at hround
    cases s
    · exact hround
    · exact hround

end FloatOrder

end Ratsnest
