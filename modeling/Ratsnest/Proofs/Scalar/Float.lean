import Ratsnest.Proofs.Scalar.Packing
import Ratsnest.Proofs.Scalar.Rounded

/-!
# Floating-point numbers are rounded scalars

The laws of rounded scalars for 64-bit floating-point numbers.  Comparison is that of the places
among all numbers (`FloatOrder.float_le_iff_ordinal`), an operation gives a number exactly if it
does so before packing (`FloatOrder.isNumber_iff_of_settle`), and the rest is a look at the signs
and at the infinite operands.
-/

namespace Ratsnest

open Scalar (IsNumber)

namespace FloatOrder

open Float.Model Float.Model.UnpackedFloat

theorem settled (x : Float) : Settled x.toModel.unpack := settled_unpack _

theorem float_le_iff_ordinal {x y : Float} :
    x ≤ y ↔ ∃ k ∈ ordinal x.toModel.unpack, ∃ l ∈ ordinal y.toModel.unpack, k ≤ l :=
  float_le_iff.trans (rank_le_iff (settled x) (settled y))

theorem isNumber_iff {x : Float} : IsNumber x ↔ x.toModel.unpack ≠ .notANumber := by
  rw [IsNumber, float_le_iff_ordinal]
  constructor
  · rintro ⟨k, hk, -⟩ hx
    rw [hx] at hk
    cases hk
  · intro hx
    have hord : ∃ k, k ∈ ordinal x.toModel.unpack := by
      rcases hunpack : x.toModel.unpack with s | _ | s | ⟨s, m, e, hm⟩
      · exact ⟨_, rfl⟩
      · exact absurd hunpack hx
      · exact ⟨_, rfl⟩
      · exact ⟨_, rfl⟩
    obtain ⟨k, hk⟩ := hord
    exact ⟨k, hk, k, hk, le_refl k⟩

theorem isNumber_of_finite {x : Float} (hx : x.toModel.unpack.isFinite) : IsNumber x := by
  rw [isNumber_iff]
  intro h
  rw [h] at hx
  cases hx

theorem isNumber_of_float_le {x y : Float} (h : x ≤ y) : IsNumber x ∧ IsNumber y := by
  obtain ⟨k, hk, l, hl, -⟩ := float_le_iff_ordinal.1 h
  exact ⟨float_le_iff_ordinal.2 ⟨k, hk, k, hk, le_refl k⟩,
    float_le_iff_ordinal.2 ⟨l, hl, l, hl, le_refl l⟩⟩

theorem float_le_of_lt {x y : Float} (h : x < y) : x ≤ y := by
  obtain ⟨r, hr, t, ht, hlt⟩ := float_lt_iff.1 h
  exact float_le_iff.2 ⟨r, hr, t, ht, hlt.le⟩

theorem float_le_of_not_lt {x y : Float} (hx : IsNumber x) (hy : IsNumber y) (h : ¬y < x) :
    x ≤ y := by
  obtain ⟨r, hr, -⟩ := float_le_iff.1 hx
  obtain ⟨t, ht, -⟩ := float_le_iff.1 hy
  exact float_le_iff.2 ⟨r, hr, t, ht, not_lt.1 fun hlt => h (float_lt_iff.2 ⟨t, ht, r, hr, hlt⟩)⟩

theorem float_finite_or_beyond {x : Float} (hx : IsNumber x) :
    Scalar.finite x ∨ (∀ z : Float, Scalar.finite z → z ≤ x) ∨
      ∀ z : Float, Scalar.finite z → x ≤ z := by
  by_cases hfin : x.toModel.unpack.isFinite
  · exact .inl hfin
  · obtain ⟨s, hs⟩ := eq_infinity_of_not_finite hfin (isNumber_iff.1 hx)
    right
    cases s
    case negative =>
      right
      intro z hz
      obtain ⟨k, hk, hlow, -⟩ := (settled z).exists_ordinal hz
      rw [float_le_iff_ordinal, hs]
      exact ⟨_, rfl, k, hk, hlow.le⟩
    case positive =>
      left
      intro z hz
      obtain ⟨k, hk, -, hhigh⟩ := (settled z).exists_ordinal hz
      rw [float_le_iff_ordinal, hs]
      exact ⟨k, hk, _, rfl, hhigh.le⟩

/-! ### The smaller and the greater number -/

theorem isNaN_iff {x : Float} : x.isNaN = true ↔ ¬IsNumber x := by
  rw [isNumber_iff, not_not]
  change x.toModel.unpack.isNaN = true ↔ _
  rcases x.toModel.unpack with s | _ | s | ⟨s, m, e, hm⟩ <;> simp [UnpackedFloat.isNaN]

open FloatScalar (least greatest)

theorem least_eq (x y : Float) : least x y = x ∨ least x y = y := by
  rw [least]
  split
  · exact .inr rfl
  · split
    · exact .inr rfl
    · exact .inl rfl

theorem least_le_left {x : Float} (y : Float) (hx : IsNumber x) : least x y ≤ x := by
  rw [least, if_neg (mt isNaN_iff.1 (not_not.2 hx))]
  split
  · exact float_le_of_lt ‹_›
  · exact hx

theorem least_le_right (x : Float) {y : Float} (hy : IsNumber y) : least x y ≤ y := by
  rw [least]
  split
  · exact hy
  · split
    · exact hy
    · exact float_le_of_not_lt (not_not.1 (mt isNaN_iff.2 ‹_›)) hy ‹_›

theorem greatest_eq (x y : Float) : greatest x y = x ∨ greatest x y = y := by
  rw [greatest]
  split
  · exact .inr rfl
  · split
    · exact .inr rfl
    · exact .inl rfl

theorem le_greatest_left {x : Float} (y : Float) (hx : IsNumber x) : x ≤ greatest x y := by
  rw [greatest, if_neg (mt isNaN_iff.1 (not_not.2 hx))]
  split
  · exact float_le_of_lt ‹_›
  · exact hx

theorem le_greatest_right (x : Float) {y : Float} (hy : IsNumber y) : y ≤ greatest x y := by
  rw [greatest]
  split
  · exact hy
  · split
    · exact hy
    · exact float_le_of_not_lt hy (not_not.1 (mt isNaN_iff.2 ‹_›)) ‹_›

theorem finite_top : Scalar.finite FloatScalar.top := by decide +kernel

theorem finite_bottom : Scalar.finite FloatScalar.bottom := by decide +kernel

instance : NumericOrder Float where
  isNumber_of_finite := isNumber_of_finite
  isNumber_of_le := isNumber_of_float_le
  finite_zero := by decide +kernel
  le_trans {x y z} hxy hyz := by
    obtain ⟨k, hk, l, hl, hkl⟩ := float_le_iff_ordinal.1 hxy
    obtain ⟨l', hl', m, hm, hlm⟩ := float_le_iff_ordinal.1 hyz
    obtain rfl := Option.mem_unique hl hl'
    exact float_le_iff_ordinal.2 ⟨k, hk, m, hm, hkl.trans hlm⟩
  le_of_lt := float_le_of_lt
  finite_or_beyond := float_finite_or_beyond
  min_eq := least_eq
  min_le_left := least_le_left
  min_le_right := least_le_right
  max_eq := greatest_eq
  le_max_left := le_greatest_left
  le_max_right := le_greatest_right
  capAbove_le := least_le_right _
  exists_capAbove_le x := ⟨_, finite_top, least_le_left x (isNumber_of_finite finite_top)⟩
  le_capBelow := le_greatest_right _
  exists_le_capBelow x := ⟨_, finite_bottom, le_greatest_left x (isNumber_of_finite finite_bottom)⟩

/-! ### Operations -/

theorem isNumber_iff_of_settle {x : Float} {a : UnpackedFloat} (h : x.toModel.unpack = settle a) :
    IsNumber x ↔ a ≠ .notANumber := by
  rw [isNumber_iff, h]
  constructor
  · rintro hnan rfl
    exact hnan settle_notANumber
  · exact settle_ne_notANumber

theorem isNumber_add_iff {x y : Float} : IsNumber (x + y) ↔
    UnpackedFloat.add .binary64 x.toModel.unpack y.toModel.unpack ≠ .notANumber :=
  isNumber_iff_of_settle rfl

theorem float_add_le {x y z : Float} (h : y ≤ z) (hxy : IsNumber (x + y))
    (hxz : IsNumber (x + z)) : x + y ≤ x + z := by
  rw [float_le_iff_ordinal] at h ⊢
  exact add_le (settled x) (settled y) (settled z) h (isNumber_add_iff.1 hxy)
    (isNumber_add_iff.1 hxz)

theorem add_finite_ne_notANumber {a b : UnpackedFloat} (ha : Canonical a) (hb : Canonical b)
    (hfa : a.isFinite) (hnb : b ≠ .notANumber) :
    UnpackedFloat.add .binary64 a b ≠ .notANumber := by
  by_cases hfb : b.isFinite
  · intro hnan
    have hord := (ordinal_add ha hb hfa hfb).1
    rw [hnan] at hord
    cases hord
  · obtain ⟨t, rfl⟩ := eq_infinity_of_not_finite hfb hnb
    rw [add_infinity_right hfa]
    exact UnpackedFloat.noConfusion

/-- Numbers of which none is infinite with the sign `s` have a sum. -/
theorem add_ne_notANumber {a b : UnpackedFloat} (ha : Canonical a) (hb : Canonical b)
    (hna : a ≠ .notANumber) (hnb : b ≠ .notANumber) {s : Sign} (has : a ≠ .infinity s)
    (hbs : b ≠ .infinity s) : UnpackedFloat.add .binary64 a b ≠ .notANumber := by
  have hother {t u : Sign} (ht : t ≠ s) (hu : u ≠ s) : t = u := by
    cases s <;> cases t <;> cases u <;> first | rfl | exact absurd rfl ht | exact absurd rfl hu
  by_cases hfa : a.isFinite
  · exact add_finite_ne_notANumber ha hb hfa hnb
  · obtain ⟨t, rfl⟩ := eq_infinity_of_not_finite hfa hna
    rcases b with u | _ | u | ⟨u, m, e, hm⟩
    · obtain rfl : t = u := hother (fun h => has (congrArg _ h)) fun h => hbs (congrArg _ h)
      cases t
      · exact UnpackedFloat.noConfusion
      · exact UnpackedFloat.noConfusion
    · exact absurd rfl hnb
    · exact UnpackedFloat.noConfusion
    · exact UnpackedFloat.noConfusion

/-- What is below a finite number is not positive infinity, and what is above one not negative
infinity. -/
theorem ne_infinity_of_le {x z : Float} (hz : Scalar.finite z) :
    (x ≤ z → x.toModel.unpack ≠ .infinity .positive) ∧
      (z ≤ x → x.toModel.unpack ≠ .infinity .negative) := by
  obtain ⟨k, hk, hlow, hhigh⟩ := (settled z).exists_ordinal hz
  constructor
  · intro h hx
    obtain ⟨l, hl, k', hk', hle⟩ := float_le_iff_ordinal.1 h
    obtain rfl := Option.mem_unique hk hk'
    rw [hx] at hl
    cases hl
    exact absurd hle (not_le.2 hhigh)
  · intro h hx
    obtain ⟨k', hk', l, hl, hle⟩ := float_le_iff_ordinal.1 h
    obtain rfl := Option.mem_unique hk hk'
    rw [hx] at hl
    cases hl
    exact absurd hle (not_le.2 hlow)

theorem ordinal_add_zero {a : UnpackedFloat} (ha : Settled a) :
    ordinal (settle (UnpackedFloat.add .binary64 a (.zero .positive))) = ordinal a := by
  rcases a with s | _ | s | ⟨s, m, e, hm⟩
  · exact congrArg ordinal (settle_infinity s)
  · rfl
  · cases s
    · rfl
    · rfl
  · exact congrArg ordinal ha.settle_eq

theorem float_add_zero {x : Float} (hx : IsNumber x) : x + 0 ≤ x ∧ x ≤ x + 0 := by
  have hord : ordinal (x + 0).toModel.unpack = ordinal x.toModel.unpack :=
    ordinal_add_zero (settled x)
  constructor
  · rw [IsNumber, float_le_iff_ordinal] at hx
    rwa [float_le_iff_ordinal, hord]
  · rw [IsNumber, float_le_iff_ordinal] at hx
    rwa [float_le_iff_ordinal, hord]

theorem ordinal_neg {a : UnpackedFloat} (ha : Settled a) :
    ordinal (settle a.neg) = (ordinal a).map Neg.neg := by
  rcases a with s | _ | s | ⟨s, m, e, hm⟩
  · cases s
    · rfl
    · rfl
  · rfl
  · cases s
    · rfl
    · rfl
  · rw [UnpackedFloat.neg, settle_finite (-s) hm ha.canonical, if_neg (not_le.2 ha.exponent_lt)]
    cases s
    · exact congrArg some (neg_neg _).symm
    · rfl

theorem float_neg_le_neg {x y : Float} (h : x ≤ y) : -y ≤ -x := by
  have hneg (x : Float) : ordinal (-x).toModel.unpack = (ordinal x.toModel.unpack).map Neg.neg :=
    ordinal_neg (settled x)
  obtain ⟨k, hk, l, hl, hkl⟩ := float_le_iff_ordinal.1 h
  rw [float_le_iff_ordinal, hneg, hneg, hk, hl]
  exact ⟨_, rfl, _, rfl, neg_le_neg hkl⟩

theorem float_neg_nonpos {x : Float} (h : 0 ≤ x) : -x ≤ 0 := by
  have hle := float_neg_le_neg h
  rw [float_le_iff_ordinal] at hle ⊢
  exact hle

/-- What is not negative has the positive sign or is zero. -/
theorem positive_or_zero {a : UnpackedFloat} (h : ∃ r ∈ rank a, toLex (0, toLex (0, 0)) ≤ r) :
    (Positive a ∧ a ≠ .notANumber) ∨ ∃ s, a = .zero s := by
  obtain ⟨r, hr, hle⟩ := h
  rcases a with (_ | _) | _ | s | ⟨_ | _, m, e, hm⟩
  · cases hr
    exact absurd hle (by decide)
  · exact .inl ⟨rfl, UnpackedFloat.noConfusion⟩
  · cases hr
  · exact .inr ⟨s, rfl⟩
  · cases hr
    exact absurd (Prod.Lex.toLex_le_toLex.1 hle) (by simp)
  · exact .inl ⟨rfl, UnpackedFloat.noConfusion⟩

theorem zero_le_of_positive {x : Float} (h : Positive x.toModel.unpack) (hx : IsNumber x) :
    0 ≤ x := by
  apply float_le_of_not_lt (isNumber_of_finite rfl) hx
  intro hlt
  obtain ⟨r, hr, t, ht, hlt⟩ := float_lt_iff.1 hlt
  obtain rfl := Option.mem_unique place_zero ht
  exact not_rank_lt_zero h r hr hlt

theorem positive_div (spec : Format) {a b : UnpackedFloat} (ha : Positive a) (hb : Positive b) :
    Positive (UnpackedFloat.div spec a b) := by
  rcases a with s | _ | s | ⟨s, m, e, hm⟩
  · obtain rfl : s = .positive := ha
    rcases b with t | _ | t | ⟨t, n, f, hn⟩
    · trivial
    · trivial
    · obtain rfl : t = .positive := hb
      rfl
    · obtain rfl : t = .positive := hb
      rfl
  · trivial
  · obtain rfl : s = .positive := ha
    rcases b with t | _ | t | ⟨t, n, f, hn⟩
    · obtain rfl : t = .positive := hb
      rfl
    · trivial
    · trivial
    · obtain rfl : t = .positive := hb
      rfl
  · obtain rfl : s = .positive := ha
    rcases b with t | _ | t | ⟨t, n, f, hn⟩
    · obtain rfl : t = .positive := hb
      rfl
    · trivial
    · obtain rfl : t = .positive := hb
      rfl
    · obtain rfl : t = .positive := hb
      exact positive_round ..

theorem place_two : toLex (1, toLex (-51, 2 ^ 52)) ∈ place (2 : ℕ) := by decide +kernel

theorem eq_finite_of_rank {a : UnpackedFloat} {e m : ℤ}
    (h : toLex (1, toLex (e, m)) ∈ rank a) : ∃ n f hn, a = .finite .positive n f hn := by
  rcases a with (_ | _) | _ | s | ⟨_ | _, n, f, hn⟩
  · cases h
  · cases h
  · cases h
  · cases h
  · cases h
  · exact ⟨n, f, hn, rfl⟩

theorem div_finite_ne_notANumber (spec : Format) {a : UnpackedFloat} (h : a ≠ .notANumber)
    (s : Sign) (m : ℕ) (e : ℤ) (hm : 0 < m) :
    UnpackedFloat.div spec a (.finite s m e hm) ≠ .notANumber := by
  rcases a with t | _ | t | ⟨t, n, f, hn⟩
  · exact UnpackedFloat.noConfusion
  · exact absurd rfl h
  · exact UnpackedFloat.noConfusion
  · exact round_ne_notANumber _ _ _ _ _

theorem float_half_nonneg {x : Float} (h : 0 ≤ x) : 0 ≤ Scalar.half x := by
  obtain ⟨m, e, hm, htwo⟩ := eq_finite_of_rank place_two
  have hhalf : (Scalar.half x).toModel.unpack =
      settle (UnpackedFloat.div .binary64 x.toModel.unpack (.finite .positive m e hm)) := by
    rw [← htwo]
    rfl
  obtain ⟨r, hr, t, ht, hle⟩ := float_le_iff.1 h
  obtain rfl := Option.mem_unique place_zero hr
  rcases positive_or_zero ⟨t, ht, hle⟩ with ⟨hpos, hnan⟩ | ⟨s, hs⟩
  · apply zero_le_of_positive
    · rw [hhalf]
      exact positive_unpack_pack _ (positive_div _ hpos rfl)
    · exact (isNumber_iff_of_settle hhalf).2 (div_finite_ne_notANumber _ hnan _ _ _ _)
  · rw [hs] at hhalf
    have hzero : settle (UnpackedFloat.div .binary64 (.zero s) (.finite .positive m e hm)) =
        .zero (s / .positive) := settle_zero _
    rw [float_le_iff_ordinal, hhalf, hzero]
    exact ⟨0, rfl, 0, rfl, le_refl 0⟩

theorem float_mul_self_le {x y : Float} (hx : 0 ≤ x) (h : x ≤ y) : x * x ≤ y * y := by
  rw [float_le_iff_ordinal] at hx h ⊢
  apply mul_self_le (settled x) (settled y) _ h
  obtain ⟨k, hk, l, hl, hkl⟩ := hx
  cases hk
  exact ⟨l, hl, hkl⟩

theorem mul_ne_notANumber (spec : Format) {a b : UnpackedFloat} (ha : a.isFinite)
    (hb : b.isFinite) : UnpackedFloat.mul spec a b ≠ .notANumber := by
  rcases a with _ | _ | s | ⟨s, m, e, hm⟩
  · cases ha
  · cases ha
  · rcases b with _ | _ | t | ⟨t, n, f, hn⟩
    · cases hb
    · cases hb
    · exact UnpackedFloat.noConfusion
    · exact UnpackedFloat.noConfusion
  · rcases b with _ | _ | t | ⟨t, n, f, hn⟩
    · cases hb
    · cases hb
    · exact UnpackedFloat.noConfusion
    · exact round_ne_notANumber _ _ _ _ _

instance : MonotoneScalar Float where
  add_le_add_left := float_add_le
  isNumber_add {x y} hx hy := isNumber_add_iff.2 (add_finite_ne_notANumber (settled x).canonical
    (settled y).canonical hx (isNumber_iff.1 hy))
  isNumber_add_of_nonpos {x y z} hxz hz hy := by
    have hzero : Scalar.finite (0 : Float) := rfl
    exact isNumber_add_iff.2 (add_ne_notANumber (settled x).canonical (settled y).canonical
      (isNumber_iff.1 (isNumber_of_float_le hxz).1) (isNumber_iff.1 (isNumber_of_float_le hy).1)
      ((ne_infinity_of_le hz).1 hxz) ((ne_infinity_of_le hzero).1 hy))
  isNumber_add_of_nonneg {x y z} hzx hz hy := by
    have hzero : Scalar.finite (0 : Float) := rfl
    exact isNumber_add_iff.2 (add_ne_notANumber (settled x).canonical (settled y).canonical
      (isNumber_iff.1 (isNumber_of_float_le hzx).2) (isNumber_iff.1 (isNumber_of_float_le hy).2)
      ((ne_infinity_of_le hz).2 hzx) ((ne_infinity_of_le hzero).2 hy))
  add_zero_le hx := (float_add_zero hx).1
  le_add_zero hx := (float_add_zero hx).2
  neg_nonpos := float_neg_nonpos
  neg_le_neg := float_neg_le_neg
  half_nonneg := float_half_nonneg
  mul_self_le_mul_self := float_mul_self_le
  isNumber_mul {x y} hx hy := by
    have hmul : (x * y).toModel.unpack =
        settle (UnpackedFloat.mul .binary64 x.toModel.unpack y.toModel.unpack) := rfl
    exact (isNumber_iff_of_settle hmul).2 (mul_ne_notANumber _ hx hy)

instance : SquareScalar Float where
  le_mul_self {d x} hd hx := by
    obtain ⟨r, hr, hzero⟩ := float_beq_iff.1 hd
    have hle : d ≤ 0 := float_le_iff.2 ⟨r, hr, r, hzero, le_refl r⟩
    have hsquare : (0 : Float) ≤ 0 * 0 := by decide +kernel
    have hnumber : (0 : Float) ≤ 0 := by decide +kernel
    exact NumericOrder.le_trans hle
      (NumericOrder.le_trans hsquare (float_mul_self_le hnumber hx))

/-! ### What is lost stays lost -/

theorem isFinite_of_add {a b : UnpackedFloat}
    (h : (UnpackedFloat.add .binary64 a b).isFinite) : a.isFinite ∧ b.isFinite := by
  rcases a with (_ | _) | _ | _ | _ <;> rcases b with (_ | _) | _ | _ | _ <;>
    first | exact ⟨rfl, rfl⟩ | cases h

theorem isFinite_of_sub {a b : UnpackedFloat}
    (h : (UnpackedFloat.sub .binary64 a b).isFinite) : a.isFinite ∧ b.isFinite := by
  rcases a with (_ | _) | _ | _ | _ <;> rcases b with (_ | _) | _ | _ | _ <;>
    first | exact ⟨rfl, rfl⟩ | cases h

theorem isFinite_of_mul {a b : UnpackedFloat}
    (h : (UnpackedFloat.mul .binary64 a b).isFinite) : a.isFinite ∧ b.isFinite := by
  rcases a with (_ | _) | _ | _ | _ <;> rcases b with (_ | _) | _ | _ | _ <;>
    first | exact ⟨rfl, rfl⟩ | cases h

theorem isFinite_of_div {a b : UnpackedFloat}
    (h : (UnpackedFloat.div .binary64 a b).isFinite) : a.isFinite := by
  rcases a with _ | _ | _ | _ <;> rcases b with _ | _ | _ | _ <;> first | rfl | cases h

theorem isFinite_of_sqrt {a : UnpackedFloat}
    (h : (UnpackedFloat.sqrt .binary64 a).isFinite) : a.isFinite := by
  rcases a with (_ | _) | _ | _ | _ <;> first | rfl | cases h

theorem finite_of_turnRemainder {x : Float} (h : IsNumber (FloatScalar.turnRemainder x)) :
    x.isFinite := by
  by_contra hfin
  rw [FloatScalar.turnRemainder, if_neg hfin] at h
  exact absurd h (by decide +kernel)

theorem ne_notANumber_of_strict {f : UnpackedFloat → UnpackedFloat → UnpackedFloat}
    (hleft : ∀ b, f .notANumber b = .notANumber) (hright : ∀ a, f a .notANumber = .notANumber)
    {a b : UnpackedFloat} (h : f a b ≠ .notANumber) : a ≠ .notANumber ∧ b ≠ .notANumber := by
  constructor
  · rintro rfl
    exact h (hleft b)
  · rintro rfl
    exact h (hright a)

/-- Whatever is added to an infinite number, the sums have no difference. -/
theorem isFinite_of_span {a b c : UnpackedFloat} (h : UnpackedFloat.sub .binary64
    (settle (UnpackedFloat.add .binary64 a b)) (settle (UnpackedFloat.add .binary64 a c)) ≠
      .notANumber) : a.isFinite := by
  by_contra hfin
  obtain ⟨hab, hac⟩ := ne_notANumber_of_strict (fun b => by cases b <;> rfl)
    (fun a => by cases a <;> rfl) h
  have hab' : UnpackedFloat.add .binary64 a b ≠ .notANumber := by
    intro heq
    rw [heq] at hab
    exact hab settle_notANumber
  have hac' : UnpackedFloat.add .binary64 a c ≠ .notANumber := by
    intro heq
    rw [heq] at hac
    exact hac settle_notANumber
  have hnan : a ≠ .notANumber := by
    rintro rfl
    exact hab' rfl
  obtain ⟨s, rfl⟩ := eq_infinity_of_not_finite hfin hnan
  rw [add_infinity s hab', add_infinity s hac', settle_infinity] at h
  cases s
  · exact h rfl
  · exact h rfl

theorem finite_of_place {x y : Float} (hy : Scalar.finite y) {r : ℤ ×ₗ ℤ ×ₗ ℤ} (hx : r ∈ place x)
    (hy' : r ∈ place y) : Scalar.finite x := by
  obtain ⟨k, hk, hlow, hhigh⟩ := (settled y).exists_ordinal hy
  by_contra hfin
  have hle : x ≤ y := float_le_iff.2 ⟨r, hx, r, hy', le_refl r⟩
  have hge : y ≤ x := float_le_iff.2 ⟨r, hy', r, hx, le_refl r⟩
  obtain ⟨s, hs⟩ := eq_infinity_of_not_finite hfin (isNumber_iff.1 (isNumber_of_float_le hle).1)
  cases s
  · exact (ne_infinity_of_le hy).2 hge hs
  · exact (ne_infinity_of_le hy).1 hle hs

theorem finite_of_not_lt_zero {x y : Float} (hx : ¬x < 0) (h : x < y) (hy : Scalar.finite y) :
    Scalar.finite x := by
  have hle := float_le_of_lt h
  by_contra hfin
  have hnum := (isNumber_of_float_le hle).1
  obtain ⟨s, hs⟩ := eq_infinity_of_not_finite hfin (isNumber_iff.1 hnum)
  cases s
  · have hzero : Scalar.finite (0 : Float) := rfl
    exact (ne_infinity_of_le hzero).2 (float_le_of_not_lt (isNumber_of_finite rfl) hnum hx) hs
  · exact (ne_infinity_of_le hy).1 hle hs

theorem isNumber_of_operation {f : UnpackedFloat → UnpackedFloat → UnpackedFloat}
    (hleft : ∀ b, f .notANumber b = .notANumber) (hright : ∀ a, f a .notANumber = .notANumber)
    {x y z : Float} (hz : z.toModel.unpack = settle (f x.toModel.unpack y.toModel.unpack))
    (h : IsNumber z) : IsNumber x ∧ IsNumber y := by
  rw [isNumber_iff, isNumber_iff]
  exact ne_notANumber_of_strict hleft hright ((isNumber_iff_of_settle hz).1 h)

instance : StrictScalar Float where
  finite_of_add h := isFinite_of_add (isFinite_of_settle h)
  finite_of_sub h := isFinite_of_sub (isFinite_of_settle h)
  finite_of_mul h := isFinite_of_mul (isFinite_of_settle h)
  finite_of_div h := isFinite_of_div (isFinite_of_settle h)
  finite_of_turnRemainder := finite_of_turnRemainder
  isNumber_of_add {x y} h := isNumber_of_operation (f := UnpackedFloat.add .binary64)
    (z := x + y) (fun b => by cases b <;> rfl) (fun a => by cases a <;> rfl) rfl h
  isNumber_of_sub {x y} h := isNumber_of_operation (f := UnpackedFloat.sub .binary64)
    (z := x - y) (fun b => by cases b <;> rfl) (fun a => by cases a <;> rfl) rfl h
  isNumber_of_mul {x y} h := isNumber_of_operation (f := UnpackedFloat.mul .binary64)
    (z := x * y) (fun b => by cases b <;> rfl) (fun a => by cases a <;> rfl) rfl h
  isNumber_of_div {x y} h := isNumber_of_operation (f := UnpackedFloat.div .binary64)
    (z := x / y) (fun b => by cases b <;> rfl) (fun a => by cases a <;> rfl) rfl h
  finite_of_isNumber_span {x y z} h := by
    have hspan : ((x + y) - (x + z)).toModel.unpack = settle (UnpackedFloat.sub .binary64
        (settle (UnpackedFloat.add .binary64 x.toModel.unpack y.toModel.unpack))
        (settle (UnpackedFloat.add .binary64 x.toModel.unpack z.toModel.unpack))) := rfl
    exact isFinite_of_span ((isNumber_iff_of_settle hspan).1 h)
  finite_of_beq h hy := by
    obtain ⟨r, hx, hr⟩ := float_beq_iff.1 h
    exact finite_of_place hy hx hr
  finite_of_lt := finite_of_not_lt_zero

instance : RoundedScalar Float where

instance : RoundedAngular Float where
  finite_of_sqrt h := isFinite_of_sqrt (isFinite_of_settle h)

end FloatOrder

end Ratsnest
