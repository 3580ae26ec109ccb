import Ratsnest.Flags

/-!
# Marks one by one

Sets of marks are the same if each mark is in both or in neither (`Flags.ext_bit`), and what a
change does to each mark is one equation (`Flags.bit_change`).
-/

namespace Ratsnest

namespace Flags

/-- Whether the mark with a number is in a set. -/
def bit (f : Flags) (i : Nat) : Bool := f.bits.toBitVec.getLsbD i

theorem ext_bit {f g : Flags} (h : ∀ i, f.bit i = g.bit i) : f = g := by
  cases f
  cases g
  exact congrArg Flags.mk (UInt32.toBitVec_inj.1 (BitVec.eq_of_getLsbD_eq fun i _ => h i))

@[simp] theorem bit_none (i : Nat) : none.bit i = false := BitVec.getLsbD_zero

theorem bit_remove (f g : Flags) (i : Nat) : (f.remove g).bit i = (f.bit i && !g.bit i) := by
  rw [remove, bit, UInt32.toBitVec_and, UInt32.toBitVec_not, BitVec.getLsbD_and,
    BitVec.getLsbD_not, bit, bit]
  by_cases hi : i < 32
  · rw [decide_eq_true hi, Bool.true_and]
  · rw [BitVec.getLsbD_of_ge f.bits.toBitVec i (Nat.not_lt.1 hi), Bool.false_and, Bool.false_and]

theorem bit_union (f g : Flags) (i : Nat) : (f.union g).bit i = (f.bit i || g.bit i) := by
  rw [union, bit, UInt32.toBitVec_or, BitVec.getLsbD_or]
  rfl

theorem bit_change (f set clear : Flags) (i : Nat) :
    (f.change set clear).bit i = (f.bit i && !clear.bit i || set.bit i) := by
  rw [change, bit_union, bit_remove]

/-- Marks that are set and cleared again are cleared. -/
theorem change_change_clear (f g : Flags) :
    (f.change g .none).change .none g = f.change .none g := by
  refine ext_bit fun i => ?_
  simp only [bit_change, bit_none]
  cases g.bit i <;> simp

/-- Marks are cleared once and for all. -/
theorem change_clear_clear (f g : Flags) :
    (f.change .none g).change .none g = f.change .none g := by
  refine ext_bit fun i => ?_
  simp only [bit_change, bit_none]
  cases g.bit i <;> simp

end Flags

end Ratsnest
