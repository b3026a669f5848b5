import Mathlib.Algebra.Group.Nat.Defs
import Mathlib.Logic.ExistsUnique
import Mathlib.Logic.Function.Iterate
import PiiScan.Rule

/-!
This module contains the theory of the Luhn checksum as an error detecting code. Every digit adds to
the sum on its own, either doubled or as it is. Both ways to weigh a digit are permutations modulo
ten, so that one digit of a text is fixed by all the others.
-/

namespace PiiScan
namespace Luhn

def weigh (doubled : Bool) (d : Nat) : Nat :=
  if doubled then double d else d

/--
The weighted sum of digits of which the first is doubled or not, and the others by turns.
-/
def sumFrom (doubled : Bool) : List Nat → Nat
  | [] => 0
  | d :: rest => weigh doubled d + sumFrom (!doubled) rest

theorem sum_eq_sumFrom (ds : List Nat) : sum ds = sumFrom false ds := by
  fun_induction sum ds with
  | case1 => rfl
  | case2 d => simp [sumFrom, weigh]
  | case3 d e rest ih => simp [sumFrom, weigh, ih, Nat.add_assoc]

theorem sumFrom_append (doubled : Bool) (xs ys : List Nat) :
    sumFrom doubled (xs ++ ys) = sumFrom doubled xs + sumFrom (not^[xs.length] doubled) ys := by
  induction xs generalizing doubled with
  | nil => simp [sumFrom]
  | cons d rest ih => simp [sumFrom, ih, Nat.add_assoc]

/-! ### Single digits -/

theorem weigh_lt {doubled : Bool} {d : Nat} (h : d < 10) : weigh doubled d < 10 := by
  unfold weigh double
  split
  · split <;> omega
  · exact h

theorem sumFrom_le {doubled : Bool} {ds : List Nat} (h : ∀ d ∈ ds, d < 10) :
    sumFrom doubled ds ≤ 9 * ds.length := by
  induction ds generalizing doubled with
  | nil => simp [sumFrom]
  | cons d rest ih =>
    obtain ⟨hd, hrest⟩ := List.forall_mem_cons.mp h
    have := @weigh_lt doubled d hd
    have := @ih (!doubled) hrest
    simp only [sumFrom, List.length_cons]
    omega

theorem existsUnique_weigh (rest : Nat) (doubled : Bool) :
    ∃! d, d < 10 ∧ (rest + weigh doubled d) % 10 = 0 := by
  have table : ∀ doubled : Bool, ∀ r < 10, ∃ d < 10, (r + weigh doubled d) % 10 = 0 ∧
      ∀ e < 10, (r + weigh doubled e) % 10 = 0 → e = d := by
    decide
  obtain ⟨d, small, fits, only⟩ := table doubled (rest % 10) (Nat.mod_lt rest (by omega))
  refine ⟨d, ⟨small, by omega⟩, ?_⟩
  intro e he
  apply only e he.1
  omega

theorem weigh_swap {d e : Nat} (hd : d < 10) (he : e < 10) (rest : Nat) (doubled : Bool)
    (h : (rest + (weigh doubled e + weigh (!doubled) d)) % 10 = 0) :
    (rest + (weigh doubled d + weigh (!doubled) e)) % 10 = 0 ↔
      d = e ∨ (d = 0 ∧ e = 9) ∨ (d = 9 ∧ e = 0) := by
  have table : ∀ doubled : Bool, ∀ d < 10, ∀ e < 10,
      ((weigh doubled d + weigh (!doubled) e) % 10 = (weigh doubled e + weigh (!doubled) d) % 10 ↔
        d = e ∨ (d = 0 ∧ e = 9) ∨ (d = 9 ∧ e = 0)) := by
    decide
  rw [← table doubled d hd e he]
  omega

/-! ### Digits among others -/

/--
So many digits between others add to the sum on their own. Whether the last of them is doubled
depends on the digits behind only.
-/
theorem exists_sum_around (xs ys : List Nat) (n : Nat) :
    ∃ rest doubled, ∀ zs : List Nat, zs.length = n →
      sum (xs ++ zs ++ ys).reverse = rest + sumFrom doubled zs.reverse := by
  refine ⟨sumFrom false ys.reverse + sumFrom (not^[n] (not^[ys.length] false)) xs.reverse,
    not^[ys.length] false, ?_⟩
  rintro zs rfl
  rw [sum_eq_sumFrom, List.reverse_append, List.reverse_append]
  rw [sumFrom_append, sumFrom_append, List.length_reverse, List.length_reverse]
  omega

theorem existsUnique_digit (xs ys : List Nat) :
    ∃! d, d < 10 ∧ sum (xs ++ d :: ys).reverse % 10 = 0 := by
  obtain ⟨rest, doubled, sums⟩ := exists_sum_around xs ys 1
  have single : ∀ d, sum (xs ++ d :: ys).reverse = rest + weigh doubled d := by
    intro d
    simpa [sumFrom] using sums [d] rfl
  simp only [single]
  apply existsUnique_weigh

theorem sum_swap {xs ys : List Nat} {d e : Nat} (hd : d < 10) (he : e < 10) (ne : d ≠ e)
    (h : sum (xs ++ d :: e :: ys).reverse % 10 = 0) :
    sum (xs ++ e :: d :: ys).reverse % 10 = 0 ↔ (d = 0 ∧ e = 9) ∨ (d = 9 ∧ e = 0) := by
  obtain ⟨rest, doubled, sums⟩ := exists_sum_around xs ys 2
  have pair : ∀ d e,
      sum (xs ++ d :: e :: ys).reverse = rest + (weigh doubled e + weigh (!doubled) d) := by
    intro d e
    simpa [sumFrom] using sums [d, e] rfl
  rw [pair] at h ⊢
  rw [weigh_swap hd he rest doubled h]
  simp [ne]

/-! ### The digits of a text -/

theorem digit?_eq (c : Char) : digit? c = if c.isDigit then some (c.toNat - 48) else none := by
  have same : ('0' ≤ c ∧ c ≤ '9') ↔ c.isDigit = true := by
    simp [Char.isDigit, Char.le_def]
  unfold digit?
  simp only [same]

theorem digit?_of_isDigit {c : Char} (h : c.isDigit = true) : digit? c = some (c.toNat - 48) := by
  simp [digit?_eq, h]

theorem toNat_of_isDigit {c : Char} (h : c.isDigit = true) : 48 ≤ c.toNat ∧ c.toNat ≤ 57 := by
  simpa [Char.isDigit, UInt32.le_iff_toNat_le] using h

@[simp]
theorem digits_append (s t : Text) : digits (s ++ t) = digits s ++ digits t := by
  simp [digits]

theorem digits_cons_of_isDigit {c : Char} (h : c.isDigit = true) (s : Text) :
    digits (c :: s) = (c.toNat - 48) :: digits s := by
  simp [digits, digit?_of_isDigit h]

theorem digits_cons_of_not_isDigit {c : Char} (h : c.isDigit = false) (s : Text) :
    digits (c :: s) = digits s := by
  simp [digits, digit?_eq, h]

theorem digits_eq_nil {s : Text} (h : ∀ c ∈ s, c.isDigit = false) : digits s = [] := by
  unfold digits
  rw [List.filterMap_eq_nil_iff]
  intro c hc
  simp [digit?_eq, h c hc]

theorem digits_filter_isDigit (s : Text) : digits (s.filter Char.isDigit) = digits s := by
  unfold digits
  rw [List.filterMap_filter]
  congr 1
  funext c
  simp only [digit?_eq]
  split <;> rfl

theorem lt_of_mem_digits {s : Text} {d : Nat} (h : d ∈ digits s) : d < 10 := by
  obtain ⟨c, -, hd⟩ := List.mem_filterMap.mp h
  rw [digit?_eq] at hd
  split at hd
  · next digit =>
    have := toNat_of_isDigit digit
    cases hd
    omega
  · cases hd

theorem isValid_iff {s : Text} :
    isValid s = true ↔ 2 ≤ (digits s).length ∧ sum (digits s).reverse % 10 = 0 := by
  simp [isValid]

theorem isValid_filter_isDigit (s : Text) : isValid (s.filter Char.isDigit) = isValid s := by
  unfold isValid
  rw [digits_filter_isDigit]

theorem sum_lt_of_length_le {s : Text} (h : (digits s).length ≤ 477218588) :
    sum (digits s).reverse < 2 ^ 32 := by
  rw [sum_eq_sumFrom]
  have small : ∀ d ∈ (digits s).reverse, d < 10 := by
    intro d hd
    apply lt_of_mem_digits
    exact List.mem_reverse.mp hd
  have := @sumFrom_le false _ small
  rw [List.length_reverse] at this
  omega

/-! ### Errors in a text -/

variable {before between after : Text} {c d : Char}

theorem eq_iff_of_isDigit (hc : c.isDigit = true) (hd : d.isDigit = true) :
    c = d ↔ c.toNat - 48 = d.toNat - 48 := by
  have := toNat_of_isDigit hc
  have := toNat_of_isDigit hd
  rw [← Char.toNat_inj]
  omega

theorem isValid_replace (hc : c.isDigit = true) (hd : d.isDigit = true) (ne : d ≠ c)
    (h : isValid (before ++ c :: after) = true) : isValid (before ++ d :: after) = false := by
  apply Bool.eq_false_iff.mpr
  intro h'
  rw [isValid_iff, digits_append, digits_cons_of_isDigit hc] at h
  rw [isValid_iff, digits_append, digits_cons_of_isDigit hd] at h'
  have := toNat_of_isDigit hc
  have := toNat_of_isDigit hd
  apply ne
  rw [eq_iff_of_isDigit hd hc]
  apply (existsUnique_digit (digits before) (digits after)).unique
  · exact ⟨by omega, h'.2⟩
  · exact ⟨by omega, h.2⟩

theorem isValid_swap (hc : c.isDigit = true) (hd : d.isDigit = true) (ne : c ≠ d)
    (separators : ∀ e ∈ between, e.isDigit = false)
    (h : isValid (before ++ c :: (between ++ d :: after)) = true) :
    isValid (before ++ d :: (between ++ c :: after)) = true ↔
      (c = '0' ∧ d = '9') ∨ (c = '9' ∧ d = '0') := by
  have adjacent : ∀ {c d : Char}, c.isDigit = true → d.isDigit = true →
      digits (before ++ c :: (between ++ d :: after)) =
        digits before ++ (c.toNat - 48) :: (d.toNat - 48) :: digits after := by
    intro c d hc hd
    rw [digits_append, digits_cons_of_isDigit hc, digits_append, digits_eq_nil separators]
    rw [List.nil_append, digits_cons_of_isDigit hd]
  have := toNat_of_isDigit hc
  have := toNat_of_isDigit hd
  rw [ne_eq, eq_iff_of_isDigit hc hd] at ne
  rw [isValid_iff, adjacent hc hd] at h
  rw [isValid_iff, adjacent hd hc, sum_swap (by omega) (by omega) ne h.2]
  rw [eq_iff_of_isDigit hc (d := '0') rfl, eq_iff_of_isDigit hc (d := '9') rfl]
  rw [eq_iff_of_isDigit hd (d := '0') rfl, eq_iff_of_isDigit hd (d := '9') rfl]
  apply and_iff_right
  simp only [List.length_append, List.length_cons]
  omega

theorem exists_isDigit {n : Nat} (h : n < 10) :
    ∃ c : Char, c.isDigit = true ∧ c.toNat - 48 = n := by
  have table : ∀ n < 10, (Nat.digitChar n).isDigit = true ∧ (Nat.digitChar n).toNat - 48 = n := by
    decide
  exact ⟨Nat.digitChar n, table n h⟩

theorem existsUnique_check_digit {s : Text} (h : ∃ c ∈ s, c.isDigit = true) :
    ∃! c : Char, c.isDigit = true ∧ isValid (s ++ [c]) = true := by
  have appended : ∀ {c : Char}, c.isDigit = true →
      (isValid (s ++ [c]) = true ↔ sum (digits s ++ [c.toNat - 48]).reverse % 10 = 0) := by
    intro c hc
    obtain ⟨e, he, digit⟩ := h
    obtain ⟨front, back, rfl⟩ := List.append_of_mem he
    rw [isValid_iff, digits_append (front ++ e :: back), digits_cons_of_isDigit hc]
    apply and_iff_right
    rw [digits_append, digits_cons_of_isDigit digit]
    simp only [List.length_append, List.length_cons]
    omega
  obtain ⟨n, ⟨small, fits⟩, only⟩ := existsUnique_digit (digits s) []
  obtain ⟨c, hc, rfl⟩ := exists_isDigit small
  refine ⟨c, ⟨hc, (appended hc).mpr fits⟩, ?_⟩
  intro d ⟨hd, valid⟩
  have := toNat_of_isDigit hd
  rw [eq_iff_of_isDigit hd hc]
  apply only
  exact ⟨by omega, (appended hd).mp valid⟩

end Luhn

namespace Validator

/--
The Luhn checksum detects errors. Its sum cannot exceed 32 bits for up to 477218588 digits. It looks
at the ASCII digits only. If a text passes, it does not with one of its digits replaced by another
one, and with two different neighbours among its digits swapped it does only if these are a zero and
a nine. A text with a digit can be completed in one way by one more digit.
-/
theorem luhn_detects_errors :
    (∀ s : Text, (Luhn.digits s).length ≤ 477218588 → Luhn.sum (Luhn.digits s).reverse < 2 ^ 32) ∧
    (∀ s t : Text, s.filter Char.isDigit = t.filter Char.isDigit →
      luhn.accepts s = luhn.accepts t) ∧
    (∀ (before after : Text) (c d : Char), c.isDigit = true → d.isDigit = true → d ≠ c →
      luhn.accepts (before ++ c :: after) = true → luhn.accepts (before ++ d :: after) = false) ∧
    (∀ (before between after : Text) (c d : Char), c.isDigit = true → d.isDigit = true → c ≠ d →
      (∀ e ∈ between, e.isDigit = false) →
      luhn.accepts (before ++ c :: (between ++ d :: after)) = true →
      (luhn.accepts (before ++ d :: (between ++ c :: after)) = true ↔
        (c = '0' ∧ d = '9') ∨ (c = '9' ∧ d = '0'))) ∧
    ∀ s : Text, (∃ c ∈ s, c.isDigit = true) →
      ∃! c : Char, c.isDigit = true ∧ luhn.accepts (s ++ [c]) = true := by
  refine ⟨?_, ?_, ?_, ?_, ?_⟩
  · intro s
    exact Luhn.sum_lt_of_length_le
  · intro s t same
    change Luhn.isValid s = Luhn.isValid t
    rw [← Luhn.isValid_filter_isDigit s, same, Luhn.isValid_filter_isDigit]
  · intro before after c d
    exact Luhn.isValid_replace
  · intro before between after c d
    exact Luhn.isValid_swap
  · intro s
    exact Luhn.existsUnique_check_digit

theorem luhn_rejects_swapped_end :
    luhn.accepts "7992739871-3".toList = true ∧ luhn.accepts "7992739873-1".toList = false := by
  have valid : luhn.accepts "7992739871-3".toList = true := by decide +kernel
  have swapped := luhn_detects_errors.2.2.2.1 "799273987".toList ['-'] [] '1' '3'
    rfl rfl (by decide) (List.forall_mem_singleton.mpr rfl) valid
  refine ⟨valid, ?_⟩
  apply Bool.eq_false_iff.mpr
  intro h
  exact absurd (swapped.mp h) (by decide)

end Validator
end PiiScan
