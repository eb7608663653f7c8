import Mathlib.Algebra.Group.Nat.Defs
import Plotter.Number.Rounding

/-!
# Exact halves

Half of an integer is taken in a double.  Rounding to a double loses nothing as long as 53 bits are
enough for the significand, and those of a half are the bits of the integer itself.  So halves are
exact up to `2 ^ 53`, and dropping the fraction is truncated division.

## Main result

`truncatedHalf_eq_tdiv`: for an integer of at most `2 ^ 53`, the half with the fraction dropped is
there, and it is the exact half truncated towards zero.

## Proof strategy

An integer of `b + 1` bits is scaled by `2 ^ (53 - b)` before its half is rounded
(`exponentOf_two`).  The scaled integer is even, so there is nothing to round (`roundDiv_of_dvd`).
-/

namespace Plotter

namespace Binary

/-- A quotient without a rest is not rounded. -/
theorem roundDiv_of_dvd {num den : Nat} (positive : 0 < den) (divides : den ∣ num) :
    roundDiv num den = num / den := by
  simp [roundDiv, Nat.mod_eq_zero_of_dvd divides, positive]

theorem scaled_neg (num den k : Nat) : scaled num den (-k) = (num * 2 ^ k, den) := by
  cases k with
  | zero => simp [scaled]
  | succ k =>
    have negative : ¬ 0 ≤ -((k + 1 : Nat) : Int) := by omega
    rw [scaled, if_neg negative, Int.neg_neg, Int.toNat_natCast, Nat.pow_eq]

theorem floor_neg (significand k : Nat) : floor ⟨significand, -k⟩ = significand / 2 ^ k := by
  cases k with
  | zero => simp [floor]
  | succ k =>
    have negative : ¬ 0 ≤ -((k + 1 : Nat) : Int) := by omega
    rw [floor, if_neg negative, Int.neg_neg, Int.toNat_natCast, Nat.pow_eq]

section Halves

variable {n k : Nat}

/-- The bits that an integer lacks are the scale of its half. -/
theorem exponentOf_two (positive : n ≠ 0) (bits : n.log2 + k = 53) : exponentOf n 2 = -(k : Int) := by
  have guess : (n.log2 : Int) - Nat.log2 2 - 53 = -((k + 1 : Nat) : Int) := by
    have one : Nat.log2 2 = 1 := rfl
    omega
  have full : 2 ^ 53 ≤ n * 2 ^ (k + 1) / 2 := by
    calc 2 ^ 53 = 2 ^ n.log2 * 2 ^ k := by rw [← bits, Nat.pow_add]
      _ ≤ n * 2 ^ k := Nat.mul_le_mul_right _ (Nat.log2_self_le positive)
      _ = n * 2 ^ (k + 1) / 2 := by
        rw [Nat.pow_succ, ← Nat.mul_assoc, Nat.mul_div_cancel _ (by decide)]
  simp only [exponentOf, guess, scaled_neg, Nat.pow_eq, if_neg (Nat.not_lt.mpr full), leastExponent]
  omega

/-- A half that is not rounded. -/
theorem nearest_two (positive : n ≠ 0) (bits : n.log2 + k = 53) (even : 2 ∣ n * 2 ^ k) :
    nearest n 2 = some ⟨n * 2 ^ k / 2, -k⟩ := by
  have small : fitsDouble ⟨n * 2 ^ k / 2, -(k : Int)⟩ = true := by
    have below : -(k : Int) < 971 := by omega
    simp [fitsDouble, below]
  simp only [nearest, if_neg positive, exponentOf_two positive bits, scaled_neg,
    roundDiv_of_dvd (by decide) even, small, if_true]

/-- Only `2 ^ 53` itself has no room for a scale, and it is even. -/
theorem even_of_log2 (bound : n ≤ 2 ^ 53) (positive : n ≠ 0) (bits : n.log2 + k = 53) :
    2 ∣ n * 2 ^ k := by
  cases k with
  | zero =>
    have least : 2 ^ 53 ≤ n := by
      rw [← bits]
      exact Nat.log2_self_le positive
    obtain rfl : n = 2 ^ 53 := Nat.le_antisymm bound least
    decide
  | succ k => exact ⟨n * 2 ^ k, by rw [Nat.pow_succ, ← Nat.mul_assoc, Nat.mul_comm]⟩

/-- The whole part of a half is the half of the integer, as long as it is a double. -/
theorem floor_nearest_two (bound : n ≤ 2 ^ 53) : (nearest n 2).map floor = some (n / 2) := by
  by_cases zero : n = 0
  · subst zero
    rfl
  · have below : n.log2 < 54 := (Nat.log2_lt zero).mpr (Nat.lt_of_le_of_lt bound (by decide))
    obtain ⟨k, bits⟩ := Nat.exists_eq_add_of_le (Nat.le_of_lt_succ below)
    rw [nearest_two zero bits.symm (even_of_log2 bound zero bits.symm), Option.map_some, floor_neg,
      Nat.div_div_eq_div_mul, Nat.mul_div_mul_right]
    exact Nat.two_pow_pos k

end Halves

end Binary

/-- Up to `2 ^ 53` the half of an integer is exact before its fraction is dropped. -/
theorem truncatedHalf_eq_tdiv {n : Int} (bound : n.natAbs ≤ 2 ^ 53) :
    truncatedHalf n = some (n.tdiv 2) := by
  obtain ⟨half, rounded, whole⟩ := Option.map_eq_some_iff.mp (Binary.floor_nearest_two bound)
  simp only [truncatedHalf, rounded, Option.map_some, whole, Option.some.injEq]
  obtain ⟨size, rfl | rfl⟩ := n.eq_nat_or_neg
  · have nonneg : ¬ (size : Int) < 0 := by omega
    rw [if_neg nonneg]
    rfl
  · by_cases zero : size = 0
    · subst zero
      rfl
    · have negative : -(size : Int) < 0 := by omega
      rw [if_pos negative, Int.natAbs_neg, Int.natAbs_natCast, Int.neg_tdiv]
      rfl

/-- Three above the bound, the double of the half is the next even integer. -/
example : truncatedHalf (2 ^ 53 + 3) = some ((2 ^ 53 + 3 : Int).tdiv 2 + 1) := by decide

end Plotter
