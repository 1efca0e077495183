import Mathlib.Algebra.Group.Nat.Defs
import Mathlib.Order.Compare
import TableQuery.Json.Number

set_option autoImplicit false

namespace TableQuery.Json

/-- A multiple of the denominator is its own quotient. -/
theorem roundHalfEven_mul {den : Nat} (positive : 0 < den) (k : Nat) : roundHalfEven (k * den) den = k := by
  unfold roundHalfEven
  rw [Nat.mul_mod_left, Nat.mul_div_cancel k positive, Nat.mul_zero]
  simp only [positive, ↓reduceIte]

theorem div_le_roundHalfEven (num den : Nat) : num / den ≤ roundHalfEven num den := by
  unfold roundHalfEven
  dsimp only
  split_ifs <;> omega

theorem roundHalfEven_le_succ (num den : Nat) : roundHalfEven num den ≤ num / den + 1 := by
  unfold roundHalfEven
  dsimp only
  split_ifs <;> omega

theorem roundHalfEven_mono {num larger : Nat} (le : num ≤ larger) (den : Nat) :
    roundHalfEven num den ≤ roundHalfEven larger den := by
  have quotients : num / den ≤ larger / den := Nat.div_le_div_right le
  rcases Nat.lt_or_eq_of_le quotients with less | same
  · have above := roundHalfEven_le_succ num den
    have below := div_le_roundHalfEven larger den
    omega
  · -- With one quotient, the remainders decide, and they are ordered like the numbers.
    have split := Nat.div_add_mod num den
    have other := Nat.div_add_mod larger den
    rw [← same] at other
    have remainders : num % den ≤ larger % den := by omega
    unfold roundHalfEven
    rw [← same]
    dsimp only
    split_ifs <;> omega

theorem nearestInteger_eq (n : Nat) :
    nearestInteger n = roundHalfEven n (2 ^ (n.log2 - 52)) * 2 ^ (n.log2 - 52) := rfl

/-- A power of two that is at least as large as the step is rounded to itself. -/
theorem roundHalfEven_pow_mul {shift exponent : Nat} (le : shift ≤ exponent) :
    roundHalfEven (2 ^ exponent) (2 ^ shift) * 2 ^ shift = 2 ^ exponent := by
  have split : 2 ^ (exponent - shift) * 2 ^ shift = 2 ^ exponent := Nat.pow_sub_mul_pow 2 le
  rw [← split, roundHalfEven_mul (Nat.two_pow_pos shift)]

theorem pow_log2_le_nearestInteger {n : Nat} (nonzero : n ≠ 0) : 2 ^ n.log2 ≤ nearestInteger n := by
  have below : 2 ^ n.log2 ≤ n := Nat.log2_self_le nonzero
  have rounded := roundHalfEven_mono below (2 ^ (n.log2 - 52))
  rw [nearestInteger_eq, ← roundHalfEven_pow_mul (Nat.sub_le n.log2 52)]
  exact Nat.mul_le_mul_right _ rounded

theorem nearestInteger_le_pow_log2 (n : Nat) : nearestInteger n ≤ 2 ^ (n.log2 + 1) := by
  have above : n ≤ 2 ^ (n.log2 + 1) := Nat.le_of_lt Nat.lt_log2_self
  have rounded := roundHalfEven_mono above (2 ^ (n.log2 - 52))
  have shift : n.log2 - 52 ≤ n.log2 + 1 := by omega
  rw [nearestInteger_eq, ← roundHalfEven_pow_mul shift]
  exact Nat.mul_le_mul_right _ rounded

theorem nearestInteger_mono {n m : Nat} (le : n ≤ m) : nearestInteger n ≤ nearestInteger m := by
  rcases Nat.eq_zero_or_pos n with rfl | positive
  · exact Nat.zero_le _
  have present : n ≠ 0 := Nat.ne_of_gt positive
  have larger : m ≠ 0 := Nat.ne_of_gt (Nat.lt_of_lt_of_le positive le)
  have exponents : n.log2 ≤ m.log2 := (Nat.le_log2 larger).mpr (Nat.le_trans (Nat.log2_self_le present) le)
  rcases Nat.lt_or_eq_of_le exponents with less | same
  · calc nearestInteger n ≤ 2 ^ (n.log2 + 1) := nearestInteger_le_pow_log2 n
      _ ≤ 2 ^ m.log2 := Nat.pow_le_pow_right (by decide) less
      _ ≤ nearestInteger m := pow_log2_le_nearestInteger larger
  · rw [nearestInteger_eq, nearestInteger_eq, same]
    exact Nat.mul_le_mul_right _ (roundHalfEven_mono le _)

namespace Number

theorem approximation_ofNat (n : Nat) :
    (integer n).approximation = ((nearestInteger n * Binary64.unitsPerOne : Nat) : Int) := by
  rcases Nat.eq_zero_or_pos n with rfl | positive
  · have zero : nearestInteger 0 = 0 := by decide
    rw [approximation, Int.natAbs_natCast, zero, Nat.zero_mul, Int.natCast_zero, Int.sign_zero, Int.zero_mul]
  · have sign : (n : Int).sign = 1 := Int.sign_eq_one_of_pos (Int.natCast_pos.mpr positive)
    rw [approximation, sign, Int.natAbs_natCast, Int.one_mul, Int.natCast_mul]

theorem approximation_neg (n : Int) : (integer (-n)).approximation = -(integer n).approximation := by
  rw [approximation, approximation, Int.sign_neg, Int.natAbs_neg, Int.neg_mul]

/-- Rounding keeps the order of integers; different integers may round to one double. -/
theorem approximation_mono {n m : Int} (le : n ≤ m) :
    (integer n).approximation ≤ (integer m).approximation := by
  have ofNat {n m : Nat} (le : n ≤ m) : (integer n).approximation ≤ (integer m).approximation := by
    rw [approximation_ofNat, approximation_ofNat, Int.ofNat_le]
    exact Nat.mul_le_mul_right _ (nearestInteger_mono le)
  have nonnegative (n : Nat) : 0 ≤ (integer n).approximation := by
    rw [approximation_ofNat]
    exact Int.natCast_nonneg _
  obtain ⟨i, rfl | rfl⟩ := n.eq_nat_or_neg
  · obtain ⟨j, rfl⟩ := Int.eq_ofNat_of_zero_le (Int.le_trans (Int.natCast_nonneg i) le)
    exact ofNat (Int.ofNat_le.mp le)
  · obtain ⟨j, rfl | rfl⟩ := m.eq_nat_or_neg
    · have positive := nonnegative j
      have negative := nonnegative i
      rw [approximation_neg]
      omega
    · have order := ofNat (Int.ofNat_le.mp (Int.neg_le_neg_iff.mp le))
      rw [approximation_neg, approximation_neg]
      omega

end Number

end TableQuery.Json
