import Mathlib.Algebra.Group.Nat.Defs
import Mathlib.Algebra.GroupWithZero.Nat
import Mathlib.Algebra.Order.Monoid.Unbundled.Pow

/-!
# Masks of leading ones

A mask of a given width starts with ones and ends with zeros. Masking a number
keeps its leading bits and clears the others, so it rounds down to a multiple of
the power of two of the zeros (`and_leading`). The complement of the mask keeps the
remainder (`and_complement`), and joining a rounded number with the complement adds
the largest remainder (`or_complement`).
-/

set_option autoImplicit false

namespace Masks

/-- The mask of a width that starts with the given number of ones. -/
def leading (width ones : ℕ) : ℕ := 2 ^ width - 2 ^ (width - ones)

theorem pow_le_pow (width ones : ℕ) : 2 ^ (width - ones) ≤ 2 ^ width :=
  Nat.pow_le_pow_right (by decide) (Nat.sub_le width ones)

theorem leading_lt {width ones : ℕ} : leading width ones < 2 ^ width := by
  have := Nat.two_pow_pos (width - ones)
  have := pow_le_pow width ones
  rw [leading]
  omega

/-- **The bits of a mask**: ones in its leading places and zeros behind them. -/
theorem testBit_leading (width ones position : ℕ) :
    (leading width ones).testBit position =
      decide (width - ones ≤ position ∧ position < width) := by
  have positive := Nat.two_pow_pos (width - ones)
  have bound := pow_le_pow width ones
  have zeros : leading width ones = 2 ^ width - (2 ^ (width - ones) - 1 + 1) := by
    rw [leading, Nat.sub_add_cancel positive]
  rw [zeros, Nat.testBit_two_pow_sub_succ (by omega), Nat.testBit_two_pow_sub_one]
  by_cases behind : position < width - ones
  · have short : ¬width - ones ≤ position := Nat.not_le.mpr behind
    rw [decide_eq_true behind, Bool.not_true, Bool.and_false]
    exact (decide_eq_false fun inside => short inside.1).symm
  · have long : width - ones ≤ position := Nat.not_lt.mp behind
    rw [decide_eq_false behind, Bool.not_false, Bool.and_true]
    exact decide_eq_decide.mpr (and_iff_right long).symm

/-- All ones, moved behind the zeros and cut to the width, is the mask. -/
theorem shiftLeft_ones (width ones : ℕ) :
    (2 ^ width - 1) <<< (width - ones) % 2 ^ width = leading width ones := by
  apply Nat.eq_of_testBit_eq
  intro position
  rw [Nat.testBit_mod_two_pow, Nat.testBit_shiftLeft, Nat.testBit_two_pow_sub_one,
    testBit_leading]
  by_cases inside : position < width
  · have back : position - (width - ones) < width := by omega
    simp [inside, back]
  · simp [inside]

/-- **Masking rounds down** to a multiple of the power of the zeros. -/
theorem and_leading {width ones value : ℕ} (fits : value < 2 ^ width) :
    value &&& leading width ones = value / 2 ^ (width - ones) * 2 ^ (width - ones) := by
  apply Nat.eq_of_testBit_eq
  intro position
  rw [Nat.testBit_and, testBit_leading, Nat.testBit_mul_two_pow]
  by_cases front : width - ones ≤ position
  · rw [Nat.testBit_div_two_pow, Nat.sub_add_cancel front]
    by_cases inside : position < width
    · simp [front, inside]
    · have large : value < 2 ^ position :=
        Nat.lt_of_lt_of_le fits (Nat.pow_le_pow_right (by decide) (Nat.not_lt.mp inside))
      simp [front, inside, Nat.testBit_lt_two_pow large]
  · simp [front]

/-- The complement of a mask has the places of its zeros. -/
theorem complement (width ones : ℕ) :
    2 ^ width - 1 - leading width ones = 2 ^ (width - ones) - 1 := by
  have bound := pow_le_pow width ones
  rw [leading]
  omega

/-- **The complement keeps the remainder.** -/
theorem and_complement (width ones value : ℕ) :
    value &&& (2 ^ width - 1 - leading width ones) = value % 2 ^ (width - ones) := by
  rw [complement, Nat.and_two_pow_sub_one_eq_mod]

/-- **Joining the complement** adds the largest remainder. -/
theorem or_complement (width ones quotient : ℕ) :
    quotient * 2 ^ (width - ones) ||| (2 ^ width - 1 - leading width ones) =
      quotient * 2 ^ (width - ones) + (2 ^ (width - ones) - 1) := by
  have positive := Nat.two_pow_pos (width - ones)
  rw [complement, Nat.mul_comm, ← Nat.two_pow_add_eq_or_of_lt (by omega)]

end Masks
