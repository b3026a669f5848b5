import PiiScan.Score.Basic

/-!
This module contains the theory of the two orders on scores. They agree on numbers, except that the
total order tells the two zeros apart, as it does any two scores.
-/

namespace PiiScan
namespace Score

theorem isNaN_eq_of_level_eq {a b : Score} (h : a.level = b.level) : a.isNaN = b.isNaN := by
  have magnitude : a.magnitude = b.magnitude := by
    unfold level at h
    cases ha : a.isNegative <;> cases hb : b.isNegative <;> simp only [ha, hb] at h <;> omega
  unfold isNaN
  rw [magnitude]

theorem le_iff {a b : Score} :
    a.le b = true ↔ a.isNaN = false ∧ b.isNaN = false ∧ a.level ≤ b.level := by
  simp [le, and_assoc]

theorem lt_iff {a b : Score} (ha : a.isNaN = false) (hb : b.isNaN = false) :
    a.lt b = true ↔ a.level < b.level := by
  simp [lt, ha, hb]

end Score
end PiiScan
