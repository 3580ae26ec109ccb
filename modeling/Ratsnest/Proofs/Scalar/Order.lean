import Mathlib
import Ratsnest.Geometry.Point
import Ratsnest.Scalar.Float

/-!
# The order of scalars

What the search for the least of some squared distances needs of the scalars: `OrderedScalar`, and
`LinearScalar` for the first one of the least.  Rounding is no obstacle, so floating-point numbers
are ordered in this sense too.  Their comparison is the lexicographic one of sign, exponent and
mantissa (`FloatOrder.compare_eq`), and the sign bit of a sum of squares is clear
(`FloatOrder.positive_squares`).
-/

namespace Ratsnest

universe u

/-- Scalars whose comparison is an order on the finite ones, with no sum of squares below zero. -/
class OrderedScalar (α : Type u) [Scalar α] : Prop where
  lt_irrefl (x : α) : ¬x < x
  lt_trans {x y z : α} : x < y → y < z → x < z
  le_of_not_lt {x y : α} : Scalar.finite x → Scalar.finite y → ¬y < x → x ≤ y
  /-- What is less than a zero of either sign is less than zero. -/
  lt_zero_of_beq {x y : α} : (x == 0) = true → y < x → y < 0
  not_squares_lt_zero (x y : α) : ¬x * x + y * y < 0

/-- Ordered scalars where a finite one stands on one side of each gap: values that are not told
apart compare alike with all others. -/
class LinearScalar (α : Type u) [Scalar α] : Prop extends OrderedScalar α where
  lt_or_lt {x y z : α} : Scalar.finite z → x < y → x < z ∨ z < y

theorem Point.not_distance2_lt_zero {α : Type u} [Scalar α] [OrderedScalar α] (p q : Point α) :
    ¬p.distance2 q < 0 :=
  OrderedScalar.not_squares_lt_zero _ _

namespace FloatOrder

open Float.Model Float.Model.UnpackedFloat

/-! ## Comparison -/

/-- The place of an unpacked number in the order: its sign, then exponent and mantissa. -/
def rank : UnpackedFloat → Option (ℤ ×ₗ ℤ ×ₗ ℤ)
  | .notANumber => none
  | .infinity .negative => some (toLex (-2, toLex (0, 0)))
  | .finite .negative m e _ => some (toLex (-1, toLex (-e, -m)))
  | .zero _ => some (toLex (0, toLex (0, 0)))
  | .finite .positive m e _ => some (toLex (1, toLex (e, m)))
  | .infinity .positive => some (toLex (2, toLex (0, 0)))

theorem compare_natCast (m n : ℕ) : compare (m : ℤ) (n : ℤ) = compare m n := by
  rcases lt_trichotomy m n with h | rfl | h
  · rw [compare_lt_iff_lt.2 h, compare_lt_iff_lt.2 (Int.ofNat_lt.2 h)]
  · rw [compare_eq_iff_eq.2 rfl, compare_eq_iff_eq.2 rfl]
  · rw [compare_gt_iff_gt.2 h, compare_gt_iff_gt.2 (Int.ofNat_lt.2 h)]

theorem compare_neg (a b : ℤ) : compare (-a) (-b) = (compare a b).swap := by
  rcases lt_trichotomy a b with h | rfl | h
  · rw [compare_lt_iff_lt.2 h, compare_gt_iff_gt.2 (Int.neg_lt_neg h)]
    rfl
  · rw [compare_eq_iff_eq.2 rfl, compare_eq_iff_eq.2 rfl]
    rfl
  · rw [compare_gt_iff_gt.2 h, compare_lt_iff_lt.2 (Int.neg_lt_neg h)]
    rfl

/-- Comparing unpacked numbers is comparing their ranks. -/
theorem compare_eq (a b : UnpackedFloat) :
    a.compare b = (rank a).bind fun r => (rank b).map fun t => compare r t := by
  rcases a with (_ | _) | _ | _ | ⟨_ | _, m, e, hm⟩ <;>
    rcases b with (_ | _) | _ | _ | ⟨_ | _, n, f, hn⟩ <;> try rfl
  · change some ((compare e f).then (compare m n)).swap =
      some ((compare (-e) (-f)).then (compare (-(m : ℤ)) (-(n : ℤ))))
    rw [compare_neg, compare_neg, compare_natCast, Ordering.swap_then]
  · change some ((compare e f).then (compare m n)) =
      some ((compare e f).then (compare (m : ℤ) (n : ℤ)))
    rw [compare_natCast]

theorem lt_iff (a b : UnpackedFloat) : a.lt b ↔ ∃ r ∈ rank a, ∃ t ∈ rank b, r < t := by
  simp only [UnpackedFloat.lt, compare_eq, beq_iff_eq]
  cases rank a <;> cases rank b <;> simp [compare_lt_iff_lt]

theorem le_iff (a b : UnpackedFloat) : a.le b ↔ ∃ r ∈ rank a, ∃ t ∈ rank b, r ≤ t := by
  simp only [UnpackedFloat.le, compare_eq]
  cases rank a with
  | none => simp
  | some r =>
    cases rank b with
    | none => simp
    | some t =>
      have h : (compare r t).isLE ↔ r ≤ t := by
        rw [← not_lt]
        have hlt : compare r t = .gt ↔ t < r := compare_gt_iff_gt
        rw [← hlt]
        cases compare r t <;> decide
      simpa using h

theorem beq_iff (a b : UnpackedFloat) : a.beq b ↔ ∃ r ∈ rank a, r ∈ rank b := by
  simp only [UnpackedFloat.beq, compare_eq, beq_iff_eq]
  cases rank a with
  | none => simp
  | some r =>
    cases rank b with
    | none => simp
    | some t =>
      have h : compare r t = .eq ↔ t = r := compare_eq_iff_eq.trans eq_comm
      simpa using h

theorem exists_rank {a : UnpackedFloat} (h : a.isFinite) : ∃ r, rank a = some r := by
  rcases a with _ | _ | _ | ⟨_ | _, m, e, hm⟩
  · cases h
  · cases h
  · exact ⟨_, rfl⟩
  · exact ⟨_, rfl⟩
  · exact ⟨_, rfl⟩

/-! ## Signs -/

/-- Whether a number is not one, or has the positive sign. -/
def Positive : UnpackedFloat → Prop
  | .notANumber => True
  | .infinity s | .zero s | .finite s _ _ _ => s = .positive

theorem positive_unpack_pack (spec : Format) {a : UnpackedFloat} (h : Positive a) :
    Positive (UnpackedFloat.unpack spec (UnpackedFloat.pack spec a)) := by
  have hsign : Sign.ofBitVec (unpackSign (UnpackedFloat.pack spec a)) = .positive := by
    rcases a with s | _ | s | ⟨s, m, e, hm⟩
    · rw [UnpackedFloat.pack, packedInfinity, unpackSign_packComponents, show s = .positive from h]
      rfl
    · rw [UnpackedFloat.pack, packedNaN, unpackSign_packComponents]
      rfl
    · rw [UnpackedFloat.pack, packedZero, unpackSign_packComponents, show s = .positive from h]
      rfl
    · rw [show s = .positive from h]
      simp only [UnpackedFloat.pack, packedInfinity]
      split
      · rw [unpackSign_packComponents]
        rfl
      · split
        · rw [unpackSign_packComponents]
          rfl
        · rw [unpackSign_packComponents]
          rfl
  simp only [UnpackedFloat.unpack]
  split
  · split
    · exact hsign
    · trivial
  · split
    · split
      · exact hsign
      · exact hsign
    · exact hsign

theorem positive_round (spec : Format) (m : Nat) (e : Int) (acc : Accuracy) :
    Positive (roundWithAccuracy spec .positive m e acc) := by
  simp only [roundWithAccuracy]
  split <;> rfl

theorem positive_mul_self (spec : Format) (a : UnpackedFloat) :
    Positive (UnpackedFloat.mul spec a a) := by
  rcases a with s | _ | s | ⟨s, m, e, hm⟩
  · cases s <;> rfl
  · trivial
  · cases s <;> rfl
  · cases s
    · exact positive_round ..
    · exact positive_round ..

theorem positive_normalize (spec : Format) {m : Int} (hm : 0 < m) (e : Int) (s : Sign) :
    Positive (UnpackedFloat.normalize spec m e s) := by
  rw [UnpackedFloat.normalize, show compare m 0 = .gt from compare_gt_iff_gt.2 hm]
  exact positive_round ..

theorem positive_add (spec : Format) {a b : UnpackedFloat} (ha : Positive a) (hb : Positive b) :
    Positive (UnpackedFloat.add spec a b) := by
  rcases a with s | _ | s | ⟨s, m, e, hm⟩
  · obtain rfl : s = .positive := ha
    rcases b with t | _ | t | _
    · obtain rfl : t = .positive := hb
      rfl
    all_goals trivial
  · trivial
  · obtain rfl : s = .positive := ha
    rcases b with t | _ | t | _
    · exact hb
    · trivial
    · obtain rfl : t = .positive := hb
      rfl
    · exact hb
  · obtain rfl : s = .positive := ha
    rcases b with t | _ | t | ⟨t, n, f, hn⟩
    · exact hb
    · trivial
    · rfl
    · obtain rfl : t = .positive := hb
      refine positive_normalize _ ?_ _ _
      have h (k i j) (hk : 0 < k) : 0 < (decreaseExponent k i j).1 := by
        simp only [decreaseExponent, Nat.shiftLeft_eq]
        exact Nat.mul_pos hk (Nat.two_pow_pos _)
      have h1 := h m e (min e f) hm
      have h2 := h n f (min e f) hn
      change (0 : ℤ) < ((decreaseExponent m e (min e f)).1 : ℤ) + (decreaseExponent n f (min e f)).1
      omega

theorem not_rank_lt_zero {a : UnpackedFloat} (h : Positive a) :
    ∀ r ∈ rank a, ¬r < toLex (0, toLex (0, 0)) := by
  intro r hr hlt
  rcases a with s | _ | s | ⟨s, m, e, hm⟩
  · obtain rfl : s = .positive := h
    cases hr
    exact absurd hlt (by decide)
  · cases hr
  · cases hr
    exact lt_irrefl _ hlt
  · obtain rfl : s = .positive := h
    cases hr
    exact absurd (Prod.Lex.toLex_lt_toLex.1 hlt) (by simp)

/-! ## Packed numbers -/

/-- The place of a number in the order; what is not a number has none. -/
def place (x : Float) : Option (ℤ ×ₗ ℤ ×ₗ ℤ) := rank x.toModel.unpack

theorem float_lt_iff {x y : Float} : x < y ↔ ∃ r ∈ place x, ∃ t ∈ place y, r < t := by
  rw [place, place, ← lt_iff]
  exact decide_eq_true_iff

theorem float_le_iff {x y : Float} : x ≤ y ↔ ∃ r ∈ place x, ∃ t ∈ place y, r ≤ t := by
  rw [place, place, ← le_iff]
  exact decide_eq_true_iff

theorem float_beq_iff {x y : Float} : (x == y) = true ↔ ∃ r ∈ place x, r ∈ place y :=
  beq_iff _ _

theorem place_zero : toLex (0, toLex (0, 0)) ∈ place 0 := by decide +kernel

/-- The sign of a sum of squares is positive. -/
theorem positive_squares (x y : Float) : Positive (x * x + y * y).toModel.unpack :=
  positive_unpack_pack _ (positive_add .binary64 (positive_unpack_pack _ (positive_mul_self _ _))
    (positive_unpack_pack _ (positive_mul_self _ _)))

end FloatOrder

open FloatOrder in
instance : OrderedScalar Float where
  lt_irrefl x h := by
    obtain ⟨r, hr, t, ht, hlt⟩ := float_lt_iff.1 h
    obtain rfl := Option.mem_unique hr ht
    exact lt_irrefl r hlt
  lt_trans {x y z} hxy hyz := by
    obtain ⟨r, hr, t, ht, hrt⟩ := float_lt_iff.1 hxy
    obtain ⟨t', ht', v, hv, htv⟩ := float_lt_iff.1 hyz
    obtain rfl := Option.mem_unique ht ht'
    exact float_lt_iff.2 ⟨r, hr, v, hv, hrt.trans htv⟩
  le_of_not_lt {x y} hx hy h := by
    obtain ⟨r, hr⟩ := exists_rank hx
    obtain ⟨t, ht⟩ := exists_rank hy
    exact float_le_iff.2 ⟨r, hr, t, ht,
      not_lt.1 fun hlt => h (float_lt_iff.2 ⟨t, ht, r, hr, hlt⟩)⟩
  lt_zero_of_beq {x y} hx hy := by
    obtain ⟨r, hr, hz⟩ := float_beq_iff.1 hx
    obtain ⟨t, ht, r', hr', hlt⟩ := float_lt_iff.1 hy
    obtain rfl := Option.mem_unique hr hr'
    exact float_lt_iff.2 ⟨t, ht, r, hz, hlt⟩
  not_squares_lt_zero x y h := by
    obtain ⟨r, hr, t, ht, hlt⟩ := float_lt_iff.1 h
    obtain rfl := Option.mem_unique place_zero ht
    exact not_rank_lt_zero (positive_squares x y) r hr hlt

open FloatOrder in
instance : LinearScalar Float where
  lt_or_lt {x y z} hz h := by
    obtain ⟨r, hr, t, ht, hlt⟩ := float_lt_iff.1 h
    obtain ⟨v, hv⟩ := exists_rank hz
    rcases lt_or_ge r v with hrv | hvr
    · exact .inl (float_lt_iff.2 ⟨r, hr, v, hv, hrv⟩)
    · exact .inr (float_lt_iff.2 ⟨v, hv, t, ht, hvr.trans_lt hlt⟩)

end Ratsnest
