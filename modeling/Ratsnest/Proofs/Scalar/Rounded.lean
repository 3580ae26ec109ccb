import Ratsnest.Proofs.Scalar.Real

/-!
# Rounded scalars

What rounding leaves of the laws of arithmetic.  Comparison orders the numbers, the infinite ones
included (`NumericOrder`); rounding keeps the order (`MonotoneScalar`); and what has been lost stays
lost: sums, differences and products of infinite values are not finite, and those of what is no
number are no numbers (`StrictScalar`).  The reals obey these laws, and so do the floating-point
numbers.
-/

namespace Ratsnest

universe u

/-- Whether a scalar is a number.  Infinite ones are. -/
def Scalar.IsNumber {α : Type u} [Scalar α] (x : α) : Prop := x ≤ x

instance {α : Type u} [Scalar α] (x : α) : Decidable (Scalar.IsNumber x) :=
  inferInstanceAs (Decidable (x ≤ x))

open Scalar (IsNumber)

/-- Scalars whose numbers are in an order by which the smaller and the greater of two are chosen. -/
class NumericOrder (α : Type u) [Scalar α] : Prop where
  isNumber_of_finite {x : α} : Scalar.finite x → IsNumber x
  isNumber_of_le {x y : α} : x ≤ y → IsNumber x ∧ IsNumber y
  finite_zero : Scalar.finite ((0 : ℕ) : α)
  le_trans {x y z : α} : x ≤ y → y ≤ z → x ≤ z
  le_of_lt {x y : α} : x < y → x ≤ y
  /-- What is not finite lies beyond all that is. -/
  finite_or_beyond {x : α} : IsNumber x →
    Scalar.finite x ∨ (∀ z, Scalar.finite z → z ≤ x) ∨ ∀ z, Scalar.finite z → x ≤ z
  min_eq (x y : α) : min x y = x ∨ min x y = y
  min_le_left {x : α} (y : α) : IsNumber x → min x y ≤ x
  min_le_right (x : α) {y : α} : IsNumber y → min x y ≤ y
  max_eq (x y : α) : max x y = x ∨ max x y = y
  le_max_left {x : α} (y : α) : IsNumber x → x ≤ max x y
  le_max_right (x : α) {y : α} : IsNumber y → y ≤ max x y
  capAbove_le {x : α} : IsNumber x → Scalar.capAbove x ≤ x
  exists_capAbove_le (x : α) : ∃ z, Scalar.finite z ∧ Scalar.capAbove x ≤ z
  le_capBelow {x : α} : IsNumber x → x ≤ Scalar.capBelow x
  exists_le_capBelow (x : α) : ∃ z, Scalar.finite z ∧ z ≤ Scalar.capBelow x

/-- Scalars whose operations keep the order, as far as they give numbers. -/
class MonotoneScalar (α : Type u) [Scalar α] : Prop extends NumericOrder α where
  add_le_add_left {x y z : α} : y ≤ z → IsNumber (x + y) → IsNumber (x + z) → x + y ≤ x + z
  isNumber_add {x y : α} : Scalar.finite x → IsNumber y → IsNumber (x + y)
  isNumber_add_of_nonpos {x y z : α} : x ≤ z → Scalar.finite z → y ≤ 0 → IsNumber (x + y)
  isNumber_add_of_nonneg {x y z : α} : z ≤ x → Scalar.finite z → 0 ≤ y → IsNumber (x + y)
  add_zero_le {x : α} : IsNumber x → x + 0 ≤ x
  le_add_zero {x : α} : IsNumber x → x ≤ x + 0
  neg_nonpos {x : α} : 0 ≤ x → -x ≤ 0
  neg_le_neg {x y : α} : x ≤ y → -y ≤ -x
  half_nonneg {x : α} : 0 ≤ x → 0 ≤ Scalar.half x
  mul_self_le_mul_self {x y : α} : 0 ≤ x → x ≤ y → x * x ≤ y * y
  isNumber_mul {x y : α} : Scalar.finite x → Scalar.finite y → IsNumber (x * y)

/-- Scalars where a result is a number, or finite, only if the operands are. -/
class StrictScalar (α : Type u) [Scalar α] : Prop where
  finite_of_add {x y : α} : Scalar.finite (x + y) → Scalar.finite x ∧ Scalar.finite y
  finite_of_sub {x y : α} : Scalar.finite (x - y) → Scalar.finite x ∧ Scalar.finite y
  finite_of_mul {x y : α} : Scalar.finite (x * y) → Scalar.finite x ∧ Scalar.finite y
  finite_of_div {x y : α} : Scalar.finite (x / y) → Scalar.finite x
  finite_of_turnRemainder {x : α} : IsNumber (Scalar.turnRemainder x) → Scalar.finite x
  isNumber_of_add {x y : α} : IsNumber (x + y) → IsNumber x ∧ IsNumber y
  isNumber_of_sub {x y : α} : IsNumber (x - y) → IsNumber x ∧ IsNumber y
  isNumber_of_mul {x y : α} : IsNumber (x * y) → IsNumber x ∧ IsNumber y
  isNumber_of_div {x y : α} : IsNumber (x / y) → IsNumber x ∧ IsNumber y
  /-- Infinite values have no difference, however far they are moved. -/
  finite_of_isNumber_span {x y z : α} : IsNumber ((x + y) - (x + z)) → Scalar.finite x
  finite_of_beq {x y : α} : (x == y) = true → Scalar.finite y → Scalar.finite x
  finite_of_lt {x y : α} : ¬x < 0 → x < y → Scalar.finite y → Scalar.finite x

/-- Scalars with the laws of rounded arithmetic. -/
class RoundedScalar (α : Type u) [Scalar α] : Prop extends OrderedScalar α, MonotoneScalar α,
  StrictScalar α

/-- Scalars where nothing that equals zero is more than the square of a distance. -/
class SquareScalar (α : Type u) [Scalar α] : Prop where
  le_mul_self {d x : α} : (d == 0) = true → 0 ≤ x → d ≤ x * x

/-- Rounded scalars where a root is finite only if the radicand is. -/
class RoundedAngular (α : Type u) [AngularScalar α] : Prop extends RoundedScalar α where
  finite_of_sqrt {x : α} : Scalar.finite (AngularScalar.sqrt x) → Scalar.finite x

/-! ## Real numbers -/

instance : RoundedScalar ℝ where
  isNumber_of_finite _ := le_refl _
  isNumber_of_le _ := ⟨le_refl _, le_refl _⟩
  finite_zero := rfl
  le_trans := le_trans
  le_of_lt := le_of_lt
  finite_or_beyond _ := .inl rfl
  min_eq := min_choice
  min_le_left y _ := min_le_left _ y
  min_le_right x {y} _ := min_le_right x y
  max_eq := max_choice
  le_max_left y _ := le_max_left _ y
  le_max_right x {y} _ := le_max_right x y
  capAbove_le _ := le_refl _
  exists_capAbove_le x := ⟨x, rfl, le_refl x⟩
  le_capBelow _ := le_refl _
  exists_le_capBelow x := ⟨x, rfl, le_refl x⟩
  add_le_add_left h _ _ := add_le_add_right h _
  isNumber_add _ _ := le_refl _
  isNumber_add_of_nonpos _ _ _ := le_refl _
  isNumber_add_of_nonneg _ _ _ := le_refl _
  add_zero_le _ := (add_zero _).le
  le_add_zero _ := (add_zero _).ge
  neg_nonpos := neg_nonpos.2
  neg_le_neg := neg_le_neg
  half_nonneg {x} h := Scalar.real_half x ▸ div_nonneg h zero_le_two
  mul_self_le_mul_self h h' := mul_self_le_mul_self h h'
  isNumber_mul _ _ := le_refl _
  finite_of_add _ := ⟨rfl, rfl⟩
  finite_of_sub _ := ⟨rfl, rfl⟩
  finite_of_mul _ := ⟨rfl, rfl⟩
  finite_of_div _ := rfl
  finite_of_turnRemainder _ := rfl
  isNumber_of_add _ := ⟨le_refl _, le_refl _⟩
  isNumber_of_sub _ := ⟨le_refl _, le_refl _⟩
  isNumber_of_mul _ := ⟨le_refl _, le_refl _⟩
  isNumber_of_div _ := ⟨le_refl _, le_refl _⟩
  finite_of_isNumber_span _ := rfl
  finite_of_beq _ _ := rfl
  finite_of_lt _ _ _ := rfl

instance : RoundedAngular ℝ where
  finite_of_sqrt _ := rfl

instance : SquareScalar ℝ where
  le_mul_self hd _ := (Scalar.real_beq_iff.1 hd).trans_le (mul_self_nonneg _)

end Ratsnest
