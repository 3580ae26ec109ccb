import Ratsnest.Proofs.Scalar.Rounding

/-!
# Packed numbers

Packing keeps the place of a rounded number or makes the number infinite
(`FloatOrder.ordinal_settle`), and the places of numbers that are read back compare like the
numbers (`FloatOrder.rank_le_iff`).  With monotone rounding this makes the sum of floating-point
numbers monotone, and the square too (`FloatOrder.add_le`, `FloatOrder.mul_self_le`).
-/

namespace Ratsnest

namespace FloatOrder

open Float.Model Float.Model.UnpackedFloat

/-! ## Reading back -/

/-- The ordinals that packing keeps apart; what lies beyond is infinite. -/
def clip (k : ℤ) : ℤ := max (-(2047 * 2 ^ 52)) (min k (2047 * 2 ^ 52))

theorem clip_mono {k l : ℤ} (h : k ≤ l) : clip k ≤ clip l :=
  max_le_max_left _ (min_le_min_right _ h)

/-- What is read back after packing. -/
def settle (a : UnpackedFloat) : UnpackedFloat :=
  UnpackedFloat.unpack .binary64 (UnpackedFloat.pack .binary64 a)

@[simp] theorem settle_notANumber : settle .notANumber = .notANumber := rfl

@[simp] theorem settle_infinity (s : Sign) : settle (.infinity s) = .infinity s := by
  cases s <;> rfl

@[simp] theorem settle_zero (s : Sign) : settle (.zero s) = .zero s := by
  cases s <;> rfl

theorem unpack_normal (s : Sign) {b m : ℕ} (hb : 0 < b) (hb' : b < 2047) (hm : 2 ^ 52 ≤ m)
    (hm' : m < 2 ^ 53) : UnpackedFloat.unpack .binary64 (packComponents .binary64 s
      (BitVec.ofNat 11 b) (BitVec.ofNat 52 m)) = .finite s m (b - 1075) (by omega) := by
  have hexp : (BitVec.ofNat 11 b).toNat = b := Nat.mod_eq_of_lt (by omega)
  have hones : BitVec.ofNat 11 b ≠ -1#11 := by
    intro h
    have h := congrArg BitVec.toNat h
    rw [hexp] at h
    exact absurd h (by simp; omega)
  have hzero : BitVec.ofNat 11 b ≠ 0#11 := by
    intro h
    have h := congrArg BitVec.toNat h
    rw [hexp] at h
    exact absurd h (by simp; omega)
  simp only [UnpackedFloat.unpack, unpackExponent_packComponents, unpackMantissa_packComponents,
    unpackSign_packComponents, Sign.ofBitVec_toBitVec, if_neg hones, hexp]
  have hmant : (1#1 ++ BitVec.ofNat 52 m).toNat = m := by
    have hlow : (BitVec.ofNat 52 m).toNat = m - 2 ^ 52 := by
      rw [BitVec.toNat_ofNat, Nat.mod_eq_sub_mod hm, Nat.mod_eq_of_lt (by omega)]
    have hor := Nat.two_pow_add_eq_or_of_lt (b := m - 2 ^ 52) (i := 52) (by omega) 1
    rw [BitVec.toNat_append, hlow, Nat.shiftLeft_eq, mul_comm]
    exact hor.symm.trans (by omega)
  have hbias : (Format.binary64.exponentBias : ℤ) + (52 : ℕ) = 1075 := by decide
  simp only [if_neg hzero, hmant, hbias]

theorem unpack_subnormal (s : Sign) {m : ℕ} (hm : 0 < m) (hm' : m < 2 ^ 52) :
    UnpackedFloat.unpack .binary64 (packComponents .binary64 s 0#11 (BitVec.ofNat 52 m)) =
      .finite s m (-1074) hm := by
  have hmant : (BitVec.ofNat 52 m).toNat = m := Nat.mod_eq_of_lt hm'
  have hzero : BitVec.ofNat 52 m ≠ 0#52 := by
    intro h
    have h := congrArg BitVec.toNat h
    rw [hmant] at h
    exact absurd h (by simp; omega)
  have hones : 0#11 ≠ -1#11 := by decide
  simp only [UnpackedFloat.unpack, unpackExponent_packComponents, unpackMantissa_packComponents,
    unpackSign_packComponents, Sign.ofBitVec_toBitVec, if_neg hones, dif_neg hzero, hmant]
  rfl

theorem settle_ne_notANumber {a : UnpackedFloat} (h : a ≠ .notANumber) :
    settle a ≠ .notANumber := by
  -- A packed number has an exponent below the greatest one.
  have hcomponents (s : Sign) {b : ℕ} (hb : b < 2047) (m : BitVec 52) :
      UnpackedFloat.unpack .binary64 (packComponents .binary64 s (BitVec.ofNat 11 b) m) ≠
        .notANumber := by
    have hones : BitVec.ofNat 11 b ≠ -1#11 := by
      intro heq
      have heq := congrArg BitVec.toNat heq
      rw [BitVec.toNat_ofNat, Nat.mod_eq_of_lt (by omega)] at heq
      exact absurd heq (by simp; omega)
    simp only [UnpackedFloat.unpack, unpackExponent_packComponents,
      unpackMantissa_packComponents, if_neg hones]
    split
    · split
      · exact UnpackedFloat.noConfusion
      · exact UnpackedFloat.noConfusion
    · exact UnpackedFloat.noConfusion
  rcases a with s | _ | s | ⟨s, m, e, hm⟩
  · rw [settle_infinity]
    exact UnpackedFloat.noConfusion
  · exact absurd rfl h
  · rw [settle_zero]
    exact UnpackedFloat.noConfusion
  · have hbits : 2 ^ Format.binary64.exponentBits = 2048 := by decide
    rw [settle, UnpackedFloat.pack]
    dsimp only
    split
    · have hinf := settle_infinity s
      rw [settle] at hinf
      change UnpackedFloat.unpack .binary64 (UnpackedFloat.pack .binary64 (.infinity s)) ≠ _
      rw [hinf]
      exact UnpackedFloat.noConfusion
    · split
      · apply hcomponents
        omega
      · exact hcomponents s (b := 0) (by omega) _

theorem round_ne_notANumber (spec : Format) (s : Sign) (m : ℕ) (e : ℤ) (acc : Accuracy) :
    roundWithAccuracy spec s m e acc ≠ .notANumber := by
  simp only [roundWithAccuracy]
  split
  · exact UnpackedFloat.noConfusion
  · exact UnpackedFloat.noConfusion

theorem isFinite_of_settle {a : UnpackedFloat} (h : (settle a).isFinite) : a.isFinite := by
  rcases a with s | _ | s | ⟨s, m, e, hm⟩
  · rw [settle_infinity] at h
    cases h
  · cases h
  · rfl
  · rfl

theorem settle_finite (s : Sign) {m : ℕ} {e : ℤ} (hm : 0 < m)
    (h : Canonical (.finite s m e hm)) :
    settle (.finite s m e hm) = if 972 ≤ e then .infinity s else .finite s m e hm := by
  obtain ⟨hlt, hmin, hfull⟩ := h
  have hbiased : (e + Format.binary64.exponentBias +
      Format.binary64.mantissaBitsWithoutImplicit).toNat = (e + 1075).toNat := by
    have hbias : Format.binary64.exponentBias = 1023 := by decide
    rw [hbias]
    congr 1
    push_cast
    ring
  have hlog : m.log2 + 1 = Format.binary64.mantissaBits ↔ 2 ^ 52 ≤ m := by
    have hmant : Format.binary64.mantissaBits = 53 := rfl
    have hle := (Nat.le_log2 hm.ne' (k := 52))
    have hlt' := (Nat.log2_lt hm.ne' (k := 53)).2 hlt
    rw [hmant, ← hle]
    omega
  by_cases hbig : 972 ≤ e
  · have hover : 2 ^ Format.binary64.exponentBits ≤ (e + 1075).toNat + 1 := by
      have hbits : 2 ^ Format.binary64.exponentBits = 2048 := by decide
      omega
    rw [if_pos hbig, ← settle_infinity, settle, settle, UnpackedFloat.pack, UnpackedFloat.pack]
    dsimp only
    rw [hbiased, if_pos hover]
  · have hover : ¬2 ^ Format.binary64.exponentBits ≤ (e + 1075).toNat + 1 := by
      have hbits : 2 ^ Format.binary64.exponentBits = 2048 := by decide
      omega
    rw [if_neg hbig, settle, UnpackedFloat.pack]
    dsimp only
    rw [hbiased, if_neg hover]
    by_cases hnormal : 2 ^ 52 ≤ m
    · rw [if_pos (hlog.2 hnormal)]
      have hexp : (((e + 1075).toNat : ℕ) : ℤ) - 1075 = e := by omega
      have hunpack := unpack_normal s (b := (e + 1075).toNat) (by omega) (by omega) hnormal hlt
      simp only [hexp] at hunpack
      exact hunpack
    · rw [if_neg (mt hlog.1 hnormal)]
      obtain rfl := hfull.resolve_left hnormal
      exact unpack_subnormal s hm (not_le.1 hnormal)

theorem canonical_unpack (b : BitVec Format.binary64.numBits) :
    Canonical (UnpackedFloat.unpack .binary64 b) := by
  have hbias : (Format.binary64.exponentBias : ℤ) +
      (Format.binary64.mantissaBitsWithoutImplicit : ℕ) = 1075 := by decide
  have hmant := (unpackMantissa b).isLt
  rw [UnpackedFloat.unpack]
  dsimp only
  split_ifs with hones hinf hzero
  · trivial
  · trivial
  · trivial
  · refine ⟨hmant.trans (by decide), ?_⟩
    rw [hbias, hzero]
    exact ⟨by decide, .inr (by decide)⟩
  · have happend : (1#1 ++ unpackMantissa b).toNat = 2 ^ 52 + (unpackMantissa b).toNat := by
      rw [BitVec.toNat_append, Nat.shiftLeft_eq, mul_comm]
      exact (Nat.two_pow_add_eq_or_of_lt hmant 1).symm
    have hpos : (unpackExponent b).toNat ≠ 0 := fun h => hzero (BitVec.eq_of_toNat_eq h)
    have hmant' : (unpackMantissa b).toNat < 2 ^ 52 := hmant
    rw [Canonical, happend, hbias]
    exact ⟨by omega, by omega, .inl (by omega)⟩

/-- Numbers that have been unpacked stay as they are. -/
theorem settle_unpack (b : BitVec Format.binary64.numBits) :
    settle (UnpackedFloat.unpack .binary64 b) = UnpackedFloat.unpack .binary64 b := by
  rw [settle, UnpackedFloat.pack_unpack]
  split_ifs with hnan
  · have hbits : unpackExponent b = -1#_ ∧ unpackMantissa b ≠ 0#_ := of_decide_eq_true hnan
    rw [unpack_packedNaN, UnpackedFloat.unpack]
    dsimp only
    rw [if_pos hbits.1, if_neg hbits.2]
  · rfl

/-- Packing keeps the place of a number, or makes it infinite. -/
theorem ordinal_settle {a : UnpackedFloat} (h : Canonical a) :
    ordinal (settle a) = (ordinal a).map clip := by
  rcases a with s | _ | s | ⟨s, m, e, hm⟩
  · rw [settle_infinity]
    cases s <;> rfl
  · rw [settle_notANumber]
    rfl
  · rw [settle_zero]
    rfl
  · rw [settle_finite s hm h]
    obtain ⟨hlt, hmin, hfull⟩ := h
    split_ifs with hbig
    · have hover : 2047 * 2 ^ 52 ≤ (e + 1074) * 2 ^ 52 + m := by omega
      cases s
      · refine congrArg some ?_
        simp only [Sign.apply, clip]
        omega
      · refine congrArg some ?_
        simp only [Sign.apply, clip]
        omega
    · have hless : (e + 1074) * 2 ^ 52 + m ≤ 2047 * 2 ^ 52 := by omega
      cases s
      · refine congrArg some ?_
        simp only [Sign.apply, clip]
        omega
      · refine congrArg some ?_
        simp only [Sign.apply, clip]
        omega

/-- Whether a number is one that has been unpacked. -/
structure Settled (a : UnpackedFloat) : Prop where
  canonical : Canonical a
  settle_eq : settle a = a

theorem settled_unpack (b : BitVec Format.binary64.numBits) :
    Settled (UnpackedFloat.unpack .binary64 b) :=
  ⟨canonical_unpack b, settle_unpack b⟩

theorem Settled.exponent_lt {s : Sign} {m : ℕ} {e : ℤ} {hm : 0 < m}
    (h : Settled (.finite s m e hm)) : e < 972 := by
  have heq := h.settle_eq
  rw [settle_finite s hm h.canonical] at heq
  split_ifs at heq with hbig
  exact not_le.1 hbig

theorem Settled.bounds {s : Sign} {m : ℕ} {e : ℤ} {hm : 0 < m}
    (h : Settled (.finite s m e hm)) :
    m < 2 ^ 53 ∧ -1074 ≤ e ∧ e < 972 ∧ (2 ^ 52 ≤ m ∨ e = -1074) :=
  ⟨h.canonical.1, h.canonical.2.1, h.exponent_lt, h.canonical.2.2⟩

/-- Comparing numbers is comparing their places. -/
theorem rank_le_iff {a b : UnpackedFloat} (ha : Settled a) (hb : Settled b) :
    (∃ r ∈ rank a, ∃ t ∈ rank b, r ≤ t) ↔ ∃ k ∈ ordinal a, ∃ l ∈ ordinal b, k ≤ l := by
  rcases a with (_ | _) | _ | _ | ⟨_ | _, m, e, hm⟩ <;>
    rcases b with (_ | _) | _ | _ | ⟨_ | _, n, f, hn⟩ <;>
    simp [rank, ordinal, Sign.apply, Prod.Lex.toLex_le_toLex]
  all_goals
    try have ha := ha.bounds
    try have hb := hb.bounds
    omega

/-- Numbers in order stand for rational numbers in order. -/
theorem dyadic_le {s t : Sign} {m n : ℕ} {e f : ℤ} {hm : 0 < m} {hn : 0 < n}
    (ha : Settled (.finite s m e hm)) (hb : Settled (.finite t n f hn))
    (h : (e + 1074) * 2 ^ 52 + m ≤ (f + 1074) * 2 ^ 52 + n) : dyadic m e ≤ dyadic n f := by
  obtain ⟨hlt, he, -, hfull⟩ := ha.bounds
  obtain ⟨hlt', hf, -, hfull'⟩ := hb.bounds
  rcases lt_trichotomy e f with hef | rfl | hef
  · have hm : (m : ℚ) ≤ 2 ^ 53 := by exact_mod_cast hlt.le
    have hn : (2 : ℚ) ^ 52 ≤ n := by
      have hfull : 2 ^ 52 ≤ n := hfull'.resolve_right (by omega)
      exact_mod_cast hfull
    calc dyadic m e ≤ 2 ^ 53 * 2 ^ e := mul_le_mul_of_nonneg_right hm (zpow_pos two_pos e).le
      _ = 2 ^ 52 * 2 ^ (e + 1) := by
        rw [zpow_add_one₀ two_ne_zero]
        ring
      _ ≤ 2 ^ 52 * 2 ^ f := mul_le_mul_of_nonneg_left (zpow_le_zpow_right₀ one_le_two hef)
        (by positivity)
      _ ≤ dyadic n f := mul_le_mul_of_nonneg_right hn (zpow_pos two_pos f).le
  · have hmn : (m : ℚ) ≤ n := Nat.cast_le.2 (by omega)
    exact mul_le_mul_of_nonneg_right hmn (zpow_pos two_pos e).le
  · omega

theorem value_le {a b : UnpackedFloat} (ha : Settled a) (hb : Settled b) (hfa : a.isFinite)
    (hfb : b.isFinite) (h : ∃ k ∈ ordinal a, ∃ l ∈ ordinal b, k ≤ l) : value a ≤ value b := by
  obtain ⟨k, hk, l, hl, hkl⟩ := h
  have hpos {m : ℕ} (hm : 0 < m) (e : ℤ) := dyadic_pos (Int.natCast_pos.2 hm) e
  rcases a with _ | _ | s | ⟨_ | _, m, e, hm⟩
  · cases hfa
  · cases hfa
  · rcases b with _ | _ | t | ⟨_ | _, n, f, hn⟩
    · cases hfb
    · cases hfb
    · exact le_rfl
    · cases hk
      cases hl
      have hb := hb.bounds
      simp only [Sign.apply] at hkl
      omega
    · exact (hpos hn f).le
  · rcases b with _ | _ | t | ⟨_ | _, n, f, hn⟩
    · cases hfb
    · cases hfb
    · rw [value, Sign.apply, dyadic_neg]
      exact neg_nonpos.2 (hpos hm e).le
    · cases hk
      cases hl
      rw [value, value, Sign.apply, Sign.apply, dyadic_neg, dyadic_neg]
      exact neg_le_neg (dyadic_le hb ha (neg_le_neg_iff.1 hkl))
    · rw [value, value, Sign.apply, Sign.apply, dyadic_neg]
      exact (neg_nonpos.2 (hpos hm e).le).trans (hpos hn f).le
  · rcases b with _ | _ | t | ⟨_ | _, n, f, hn⟩
    · cases hfb
    · cases hfb
    · cases hk
      cases hl
      have ha := ha.bounds
      simp only [Sign.apply] at hkl
      omega
    · cases hk
      cases hl
      have ha := ha.bounds
      have hb := hb.bounds
      simp only [Sign.apply] at hkl
      omega
    · cases hk
      cases hl
      exact dyadic_le ha hb hkl

/-! ## Sums and squares -/

theorem add_infinity (s : Sign) {a : UnpackedFloat}
    (h : UnpackedFloat.add .binary64 (.infinity s) a ≠ .notANumber) :
    UnpackedFloat.add .binary64 (.infinity s) a = .infinity s := by
  rcases a with t | _ | t | ⟨t, m, e, hm⟩
  · cases s <;> cases t
    · rfl
    · exact absurd rfl h
    · exact absurd rfl h
    · rfl
  · exact absurd rfl h
  · rfl
  · rfl

theorem add_infinity_right {a : UnpackedFloat} (ha : a.isFinite) (s : Sign) :
    UnpackedFloat.add .binary64 a (.infinity s) = .infinity s := by
  rcases a with t | _ | t | ⟨t, m, e, hm⟩
  · cases ha
  · cases ha
  · rfl
  · rfl

theorem eq_infinity_of_not_finite {a : UnpackedFloat} (hfin : ¬a.isFinite)
    (hnum : a ≠ .notANumber) : ∃ s, a = .infinity s := by
  rcases a with s | _ | s | ⟨s, m, e, hm⟩
  · exact ⟨s, rfl⟩
  · exact absurd rfl hnum
  · exact absurd rfl hfin
  · exact absurd rfl hfin

/-- The place of a finite number is before that of infinity. -/
theorem Settled.exists_ordinal {a : UnpackedFloat} (ha : Settled a) (hfin : a.isFinite) :
    ∃ k ∈ ordinal a, -(2047 * 2 ^ 52) < k ∧ k < 2047 * 2 ^ 52 := by
  rcases a with s | _ | s | ⟨_ | _, m, e, hm⟩
  · cases hfin
  · cases hfin
  · exact ⟨0, rfl, by decide⟩
  · have hbounds := ha.bounds
    refine ⟨_, rfl, ?_⟩
    simp only [Sign.apply]
    omega
  · have hbounds := ha.bounds
    refine ⟨_, rfl, ?_⟩
    simp only [Sign.apply]
    omega

/-- The place of a number is none beyond the infinite ones. -/
theorem Settled.exists_bounded {a : UnpackedFloat} (ha : Settled a) (hnum : a ≠ .notANumber) :
    ∃ k ∈ ordinal a, -(2047 * 2 ^ 52) ≤ k ∧ k ≤ 2047 * 2 ^ 52 := by
  by_cases hfin : a.isFinite
  · obtain ⟨k, hk, hlow, hhigh⟩ := ha.exists_ordinal hfin
    exact ⟨k, hk, hlow.le, hhigh.le⟩
  · obtain ⟨s, rfl⟩ := eq_infinity_of_not_finite hfin hnum
    cases s
    · exact ⟨_, rfl, by decide⟩
    · exact ⟨_, rfl, by decide⟩

/-- Numbers in order are both finite, unless the first one is the least of all or the second one
the greatest. -/
theorem finite_or_extreme {a b : UnpackedFloat} (ha : Settled a) (hb : Settled b)
    (h : ∃ k ∈ ordinal a, ∃ l ∈ ordinal b, k ≤ l) :
    (a.isFinite ∧ b.isFinite) ∨ a = .infinity .negative ∨ b = .infinity .positive := by
  obtain ⟨k, hk, l, hl, hkl⟩ := h
  have hna : a ≠ .notANumber := by
    rintro rfl
    cases hk
  have hnb : b ≠ .notANumber := by
    rintro rfl
    cases hl
  by_cases hfa : a.isFinite
  · by_cases hfb : b.isFinite
    · exact .inl ⟨hfa, hfb⟩
    · obtain ⟨s, rfl⟩ := eq_infinity_of_not_finite hfb hnb
      cases s
      · obtain ⟨k', hk', hlow, -⟩ := ha.exists_ordinal hfa
        obtain rfl := Option.mem_unique hk hk'
        cases hl
        exact absurd hkl (not_le.2 hlow)
      · exact .inr (.inr rfl)
  · obtain ⟨s, rfl⟩ := eq_infinity_of_not_finite hfa hna
    cases s
    · exact .inr (.inl rfl)
    · cases hk
      by_cases hfb : b.isFinite
      · obtain ⟨l', hl', -, hhigh⟩ := hb.exists_ordinal hfb
        obtain rfl := Option.mem_unique hl hl'
        exact absurd hkl (not_le.2 hhigh)
      · obtain ⟨t, rfl⟩ := eq_infinity_of_not_finite hfb hnb
        cases t
        · cases hl
          exact absurd hkl (by decide)
        · exact .inr (.inr rfl)

/-- A greater summand gives no smaller sum, where both sums are numbers. -/
theorem add_le {a b c : UnpackedFloat} (ha : Settled a) (hb : Settled b) (hc : Settled c)
    (h : ∃ k ∈ ordinal b, ∃ l ∈ ordinal c, k ≤ l)
    (hab : UnpackedFloat.add .binary64 a b ≠ .notANumber)
    (hac : UnpackedFloat.add .binary64 a c ≠ .notANumber) :
    ∃ k ∈ ordinal (settle (UnpackedFloat.add .binary64 a b)),
      ∃ l ∈ ordinal (settle (UnpackedFloat.add .binary64 a c)), k ≤ l := by
  obtain ⟨k, hk, -, hhigh⟩ := (settled_unpack _).exists_bounded (settle_ne_notANumber hab)
  obtain ⟨l, hl, hlow, -⟩ := (settled_unpack _).exists_bounded (settle_ne_notANumber hac)
  by_cases hfa : a.isFinite
  · rcases finite_or_extreme hb hc h with ⟨hfb, hfc⟩ | rfl | rfl
    · have hsum {b : UnpackedFloat} (hb : Settled b) (hfb : b.isFinite) :
          ordinal (settle (UnpackedFloat.add .binary64 a b)) =
            some (clip (nearest (value a + value b))) := by
        obtain ⟨hord, hcan⟩ := ordinal_add ha.canonical hb.canonical hfa hfb
        rw [ordinal_settle hcan, hord, Option.map_some]
      rw [hsum hb hfb, hsum hc hfc]
      have hle := add_le_add_right (value_le hb hc hfb hfc h) (value a)
      exact ⟨_, rfl, _, rfl, clip_mono (nearest_mono hle)⟩
    · rw [add_infinity_right hfa, settle_infinity]
      exact ⟨_, rfl, l, hl, hlow⟩
    · rw [add_infinity_right hfa, settle_infinity]
      exact ⟨k, hk, _, rfl, hhigh⟩
  · have hnan : a ≠ .notANumber := by
      rintro rfl
      exact hab rfl
    obtain ⟨s, rfl⟩ := eq_infinity_of_not_finite hfa hnan
    rw [add_infinity s hab, add_infinity s hac, settle_infinity]
    exact ⟨_, rfl, _, rfl, le_rfl⟩

/-- The square of a greater number that is not negative is not smaller. -/
theorem mul_self_le {b c : UnpackedFloat} (hb : Settled b) (hc : Settled c)
    (hzero : ∃ k ∈ ordinal b, 0 ≤ k) (h : ∃ k ∈ ordinal b, ∃ l ∈ ordinal c, k ≤ l) :
    ∃ k ∈ ordinal (settle (UnpackedFloat.mul .binary64 b b)),
      ∃ l ∈ ordinal (settle (UnpackedFloat.mul .binary64 c c)), k ≤ l := by
  rcases finite_or_extreme hb hc h with ⟨hfb, hfc⟩ | rfl | rfl
  · have hsquare {b : UnpackedFloat} (hb : Settled b) (hfb : b.isFinite) :
        ordinal (settle (UnpackedFloat.mul .binary64 b b)) =
          some (clip (nearest (value b * value b))) := by
      obtain ⟨hord, hcan⟩ := ordinal_mul_self hb.canonical hfb
      rw [ordinal_settle hcan, hord, Option.map_some]
    have hnonneg : 0 ≤ value b := by
      obtain ⟨k, hk, hle⟩ := hzero
      exact value_le (a := .zero .positive) ⟨trivial, settle_zero _⟩ hb rfl hfb
        ⟨0, rfl, k, hk, hle⟩
    have hle := mul_self_le_mul_self hnonneg (value_le hb hc hfb hfc h)
    rw [hsquare hb hfb, hsquare hc hfc]
    exact ⟨_, rfl, _, rfl, clip_mono (nearest_mono hle)⟩
  · obtain ⟨k, hk, hle⟩ := hzero
    cases hk
    exact absurd hle (by decide)
  · have hnan : UnpackedFloat.mul .binary64 b b ≠ .notANumber := by
      obtain ⟨k, hk, -⟩ := hzero
      rcases b with s | _ | s | ⟨s, m, e, hm⟩
      · exact UnpackedFloat.noConfusion
      · cases hk
      · exact UnpackedFloat.noConfusion
      · exact round_ne_notANumber _ _ _ _ _
    have hinf : UnpackedFloat.mul .binary64 (.infinity .positive) (.infinity .positive) =
        .infinity .positive := rfl
    obtain ⟨k, hk, -, hhigh⟩ := (settled_unpack _).exists_bounded (settle_ne_notANumber hnan)
    rw [hinf, settle_infinity]
    exact ⟨k, hk, _, rfl, hhigh⟩

end FloatOrder

end Ratsnest
