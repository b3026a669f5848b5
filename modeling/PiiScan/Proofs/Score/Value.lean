import Mathlib.Algebra.Order.Field.Rat
import Mathlib.Tactic.NormNum
import PiiScan.Proofs.Score

/-!
This module contains the numbers that finite scores stand for. They are multiples of the least
positive one, `2 ^ -1074`, and larger bit patterns without the sign are larger multiples of it.
Comparing patterns is thus comparing numbers, and the range that is asked of a score is the unit
interval.
-/

namespace PiiScan
namespace Score

def value (s : Score) : Rat :=
  if s.isNegative then -((s.ratio.1 : Rat) / s.ratio.2) else (s.ratio.1 : Rat) / s.ratio.2

/--
How many times the least positive number goes into the number with the given magnitude.
-/
def multiple (magnitude : Nat) : Nat :=
  if magnitude / 2 ^ 52 = 0 then magnitude % 2 ^ 52
  else (magnitude % 2 ^ 52 + 2 ^ 52) * 2 ^ (magnitude / 2 ^ 52 - 1)

theorem multiple_lt_succ (n : Nat) : multiple n < multiple (n + 1) := by
  unfold multiple
  by_cases carry : n % 2 ^ 52 + 1 = 2 ^ 52
  · -- the significand is full, so that the next number has a larger exponent
    have hdiv : (n + 1) / 2 ^ 52 = n / 2 ^ 52 + 1 := by omega
    have hmod : (n + 1) % 2 ^ 52 = 0 := by omega
    have full : n % 2 ^ 52 + 2 ^ 52 = 2 ^ 53 - 1 := by omega
    rw [hdiv, hmod, if_neg (Nat.succ_ne_zero _), Nat.add_sub_cancel, full]
    cases hexponent : n / 2 ^ 52 with
    | zero =>
      rw [if_pos rfl]
      omega
    | succ exponent =>
      have := Nat.two_pow_pos exponent
      rw [if_neg (Nat.succ_ne_zero _), Nat.add_sub_cancel, Nat.pow_succ]
      omega
  · have hdiv : (n + 1) / 2 ^ 52 = n / 2 ^ 52 := by omega
    have hmod : (n + 1) % 2 ^ 52 = n % 2 ^ 52 + 1 := by omega
    rw [hdiv, hmod]
    split
    · omega
    · exact Nat.mul_lt_mul_of_pos_right (by omega) (Nat.two_pow_pos _)

theorem multiple_le_iff {m n : Nat} : multiple m ≤ multiple n ↔ m ≤ n :=
  (strictMono_nat_of_lt_succ multiple_lt_succ).le_iff_le

def unitsInOne : Nat := 2 ^ 1074

theorem ratio_eq (s : Score) :
    s.ratio = (s.decode.1 * 2 ^ s.decode.2.toNat, 2 ^ (-s.decode.2).toNat) := by
  unfold ratio
  simp only [Nat.shiftLeft_eq, Nat.one_mul]

theorem ratio_mul (s : Score) : s.ratio.1 * unitsInOne = multiple s.magnitude * s.ratio.2 := by
  rw [ratio_eq]
  unfold decode multiple unitsInOne
  simp only [Nat.shiftLeft_eq, Nat.one_mul]
  split
  · have up : (-1074 : Int).toNat = 0 := rfl
    have down : (-(-1074) : Int).toNat = 1074 := rfl
    rw [up, down, Nat.pow_zero, Nat.mul_one]
  · next normal =>
    have exponents : ((s.magnitude / 2 ^ 52 : Nat) - 1075 : Int).toNat + 1074 =
        s.magnitude / 2 ^ 52 - 1 + (-((s.magnitude / 2 ^ 52 : Nat) - 1075 : Int)).toNat := by
      omega
    rw [Nat.mul_assoc, ← Nat.pow_add, exponents, Nat.pow_add, Nat.mul_assoc]

theorem ratio_div (s : Score) :
    (s.ratio.1 : Rat) / s.ratio.2 = multiple s.magnitude / unitsInOne := by
  have den : (s.ratio.2 : Rat) ≠ 0 := by
    rw [ratio_eq]
    exact_mod_cast (Nat.two_pow_pos _).ne'
  have units : (unitsInOne : Rat) ≠ 0 := by
    exact_mod_cast (Nat.two_pow_pos _).ne'
  rw [div_eq_div_iff den units]
  exact_mod_cast ratio_mul s

/--
How many times the least positive number goes into a finite score, with its sign.
-/
def units (s : Score) : Int :=
  if s.isNegative then -(multiple s.magnitude : Int) else multiple s.magnitude

theorem value_eq_units_div (s : Score) : s.value = s.units / unitsInOne := by
  unfold value units
  rw [ratio_div]
  split
  · rw [Int.cast_neg, Int.cast_natCast, neg_div]
  · rw [Int.cast_natCast]

theorem units_le_iff {a b : Score} : a.units ≤ b.units ↔ a.level ≤ b.level := by
  have order := @multiple_le_iff a.magnitude b.magnitude
  have reverse := @multiple_le_iff b.magnitude a.magnitude
  -- across the signs only the two zeros are equal
  have zero : multiple 0 = 0 := rfl
  have left := @multiple_le_iff a.magnitude 0
  have right := @multiple_le_iff b.magnitude 0
  unfold units level
  cases a.isNegative <;> cases b.isNegative
  all_goals
    simp only [Bool.false_eq_true, if_false, if_true]
    omega

theorem value_le_iff {a b : Score} : a.value ≤ b.value ↔ a.level ≤ b.level := by
  have positive : (0 : Rat) < unitsInOne := by
    exact_mod_cast Nat.two_pow_pos _
  rw [value_eq_units_div, value_eq_units_div, div_le_div_iff_of_pos_right positive, Int.cast_le]
  exact units_le_iff

theorem value_zero : zero.value = 0 := by
  have numerator : zero.ratio.1 = 0 := by decide
  have sign : zero.isNegative = false := by decide
  unfold value
  rw [sign, if_neg Bool.false_ne_true, numerator, Nat.cast_zero, zero_div]

theorem value_one : one.value = 1 := by
  have ratio : one.ratio = (2 ^ 52, 2 ^ 52) := by decide
  have sign : one.isNegative = false := by decide
  unfold value
  rw [sign, if_neg Bool.false_ne_true, ratio]
  norm_num

structure InUnitInterval (s : Score) : Prop where
  isNumber : s.isNaN = false
  isFinite : s.isInfinite = false
  nonneg : 0 ≤ s.value
  le_one : s.value ≤ 1

theorem isInfinite_eq_false_of_level_le {s : Score} (nonneg : zero.level ≤ s.level)
    (small : s.level ≤ one.level) : s.isInfinite = false := by
  have infinity : BinaryFormat.double.infinity = 0x7FF0000000000000 := rfl
  have hzero : zero.level = 0 := rfl
  have hone : one.level = 0x3FF0000000000000 := rfl
  rw [hzero] at nonneg
  rw [hone] at small
  unfold isInfinite
  rw [decide_eq_false_iff_not, infinity]
  unfold level at nonneg small
  cases hnegative : s.isNegative
  all_goals
    simp only [hnegative, Bool.false_eq_true, if_false, if_true] at nonneg small
    omega

theorem isUnit_iff {s : Score} : s.isUnit = true ↔ s.InUnitInterval := by
  have zero_le : 0 ≤ s.value ↔ zero.level ≤ s.level := by
    rw [← value_zero, value_le_iff]
  have le_one : s.value ≤ 1 ↔ s.level ≤ one.level := by
    rw [← value_one, value_le_iff]
  unfold isUnit
  rw [Bool.and_eq_true, le_iff, le_iff]
  constructor
  · intro ⟨⟨_, number, nonneg⟩, _, _, small⟩
    exact ⟨number, isInfinite_eq_false_of_level_le nonneg small,
      zero_le.mpr nonneg, le_one.mpr small⟩
  · intro h
    exact ⟨⟨rfl, h.isNumber, zero_le.mp h.nonneg⟩, h.isNumber, rfl, le_one.mp h.le_one⟩

end Score
end PiiScan
