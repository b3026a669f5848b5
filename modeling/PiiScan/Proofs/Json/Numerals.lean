import Mathlib.Algebra.Group.Nat.Defs
import PiiScan.Json.Number
import PiiScan.Json.Reader

/-!
This module contains the reading of printed numbers. A number that is read from a text of its own is
also read at the start of a longer text, unless what follows could belong to it, and a whole number
of 64 bits is read from its digits.
-/

namespace PiiScan
namespace Json

/--
Whether a text cannot be the rest of a number.
-/
def EndsNumeral (rest : List Char) : Prop :=
  ∀ c ∈ rest.head?, c.isDigit = false ∧ c ≠ '.' ∧ c ≠ 'e' ∧ c ≠ 'E'

theorem endsNumeral_cons {c : Char} {rest : List Char}
    (h : c.isDigit = false ∧ c ≠ '.' ∧ c ≠ 'e' ∧ c ≠ 'E') : EndsNumeral (c :: rest) := by
  intro c' hc'
  cases hc'
  exact h

/-! ### Numbers in longer texts -/

theorem takeDigits_append {text rest : List Char} (ends : EndsNumeral rest) :
    takeDigits (text ++ rest) = ((takeDigits text).1, (takeDigits text).2 ++ rest) := by
  induction text with
  | nil =>
    cases rest with
    | nil => rfl
    | cons c rest =>
      have other : Digits.decimal? c = none := by
        simp [Digits.decimal?, (ends c rfl).1]
      simp [takeDigits, other]
  | cons c text ih =>
    rw [List.cons_append, takeDigits, takeDigits]
    cases Digits.decimal? c with
    | none => simp
    | some d => simp [ih]

theorem takeSign_append {text rest : List Char} (h : text ≠ []) :
    takeSign (text ++ rest) = ((takeSign text).1, (takeSign text).2 ++ rest) := by
  cases text with
  | nil => contradiction
  | cons c text =>
    by_cases minus : c = '-'
    · simp [minus, takeSign]
    · by_cases plus : c = '+'
      · simp [plus, takeSign]
      · simp [takeSign, minus, plus]

theorem takeExponent?_cons (c : Char) (text : List Char) :
    takeExponent? (c :: text) =
      if c == 'e' || c == 'E' then
        match takeDigits (takeSign text).2 with
        | ([], _) => none
        | (digits, rest) =>
          let n : Int := Digits.value 10 digits
          some (some (if (takeSign text).1 then -n else n), rest)
      else some (none, c :: text) := by
  rfl

theorem takeExponent?_append {text rest tail : List Char} {exponent : Option Int}
    (h : takeExponent? text = some (exponent, tail)) (ends : EndsNumeral rest) :
    takeExponent? (text ++ rest) = some (exponent, tail ++ rest) := by
  cases text with
  | nil =>
    cases h
    cases rest with
    | nil => rfl
    | cons c rest =>
      obtain ⟨-, -, lower, upper⟩ := ends c rfl
      simp [takeExponent?, lower, upper]
  | cons c text =>
    rw [List.cons_append, takeExponent?_cons]
    rw [takeExponent?_cons] at h
    split at h
    · next letter =>
      have nonempty : text ≠ [] := by
        rintro rfl
        simp [takeSign, takeDigits] at h
      rw [if_pos letter, takeSign_append nonempty, takeDigits_append ends]
      cases hdigits : takeDigits (takeSign text).2 with
      | mk digits after =>
        rw [hdigits] at h
        cases digits with
        | nil => simp at h
        | cons d digits =>
          simp only [Option.some.injEq, Prod.mk.injEq] at h ⊢
          exact ⟨h.1, by rw [h.2]⟩
    · next other =>
      cases h
      rw [if_neg other]
      rfl

theorem takeFractionAndExponent?_append {isNegative : Bool} {whole : List Nat}
    {text rest tail : List Char} {numeral : Numeral}
    (h : takeFractionAndExponent? isNegative whole text = some (numeral, tail))
    (ends : EndsNumeral rest) :
    takeFractionAndExponent? isNegative whole (text ++ rest) = some (numeral, tail ++ rest) := by
  unfold takeFractionAndExponent? at h
  split at h
  · next text =>
    rw [List.cons_append, takeFractionAndExponent?, takeDigits_append ends]
    split at h
    · cases h
    · next fraction after nonempty hfraction =>
      obtain ⟨⟨exponent, tail'⟩, hexponent, same⟩ := Option.map_eq_some_iff.mp h
      cases same
      rw [hfraction]
      split
      · next same =>
        cases same
        exact absurd rfl nonempty
      · next same =>
        cases same
        rw [takeExponent?_append hexponent ends]
        rfl
  · next other =>
    obtain ⟨⟨exponent, tail'⟩, hexponent, same⟩ := Option.map_eq_some_iff.mp h
    cases same
    rw [takeFractionAndExponent?, takeExponent?_append hexponent ends]
    · rfl
    · intro after point
      cases text with
      | nil =>
        rw [List.nil_append] at point
        rw [point] at ends
        exact (ends '.' rfl).2.1 rfl
      | cons c text =>
        cases point
        exact other text rfl

theorem takeUnsigned?_append {isNegative : Bool} {text rest tail : List Char} {numeral : Numeral}
    (h : takeUnsigned? isNegative text = some (numeral, tail)) (ends : EndsNumeral rest) :
    takeUnsigned? isNegative (text ++ rest) = some (numeral, tail ++ rest) := by
  unfold takeUnsigned? at h ⊢
  rw [takeDigits_append ends]
  split at h
  · cases h
  · cases h
  · next whole after nonempty noZero hwhole =>
    rw [hwhole]
    split
    · next same =>
      cases same
      exact absurd rfl nonempty
    · next same =>
      cases same
      exact absurd rfl (noZero _ _)
    · next same =>
      cases same
      exact takeFractionAndExponent?_append h ends

theorem takeNumeral?_of_ne_minus {text : List Char} (h : text.head? ≠ some '-') :
    takeNumeral? text = takeUnsigned? false text := by
  unfold takeNumeral?
  split
  · exact absurd rfl h
  · rfl

theorem takeNumeral?_append {text rest tail : List Char} {numeral : Numeral}
    (h : takeNumeral? text = some (numeral, tail)) (ends : EndsNumeral rest) :
    takeNumeral? (text ++ rest) = some (numeral, tail ++ rest) := by
  unfold takeNumeral? at h
  split at h
  · exact takeUnsigned?_append h ends
  · next other =>
    rw [takeNumeral?_of_ne_minus]
    · exact takeUnsigned?_append h ends
    · cases text with
      | nil =>
        -- nothing is read from an empty text
        simp [takeUnsigned?, takeDigits] at h
      | cons c text =>
        simp only [List.cons_append, List.head?_cons, ne_eq, Option.some.injEq]
        rintro rfl
        exact other text rfl

/-! ### The digits of a whole number -/

theorem takeDigits_of_isDigit {text : List Char} (h : ∀ c ∈ text, c.isDigit = true) :
    takeDigits text = (text.map fun c => c.toNat - 48, []) := by
  induction text with
  | nil => rfl
  | cons c text ih =>
    obtain ⟨hc, htext⟩ := List.forall_mem_cons.mp h
    simp [takeDigits, Digits.decimal?, hc, ih htext]

theorem value_toDigits (n : Nat) :
    Digits.value 10 ((Nat.toDigits 10 n).map fun c => c.toNat - 48) = n := by
  have read := Nat.ofDigitChars_toDigits (b := 10) (n := n) (by decide) (by decide)
  rw [Nat.ofDigitChars] at read
  unfold Digits.value
  rw [List.foldl_map]
  exact read

theorem head?_toDigits {n : Nat} (h : n ≠ 0) : (Nat.toDigits 10 n).head? ≠ some '0' := by
  induction n using Nat.strongRecOn with
  | ind n ih =>
    rw [Nat.toDigits_eq_if (by decide)]
    split
    · next small =>
      have all : ∀ d, d < 10 → d ≠ 0 → Nat.digitChar d ≠ '0' := by decide
      simpa using all n small h
    · next large =>
      have rest := ih (n / 10) (by omega) (by omega)
      rw [List.head?_append]
      cases hhead : (Nat.toDigits 10 (n / 10)).head? with
      | none =>
        rw [List.head?_eq_none_iff] at hhead
        exact absurd hhead Nat.toDigits_ne_nil
      | some c =>
        rw [hhead] at rest
        simpa using rest

def Numeral.ofNat (n : Nat) : Numeral :=
  ⟨false, (Nat.toDigits 10 n).map fun c => c.toNat - 48, [], false, none⟩

theorem isDigit_of_mem_toDigits {n : Nat} : ∀ c ∈ Nat.toDigits 10 n, c.isDigit = true := by
  intro c hc
  exact Nat.isDigit_of_mem_toDigits (by decide) (by decide) hc

theorem digits_ne_zero_cons (n : Nat) (d : Nat) (ds : List Nat) :
    ((Nat.toDigits 10 n).map fun c => c.toNat - 48) ≠ 0 :: d :: ds := by
  intro zero
  by_cases hn : n = 0
  · subst hn
    cases zero
  · have head := head?_toDigits hn
    have digits := @isDigit_of_mem_toDigits n
    cases hdigits : Nat.toDigits 10 n with
    | nil => exact absurd hdigits Nat.toDigits_ne_nil
    | cons c text =>
      rw [hdigits] at zero head digits
      simp only [List.map_cons, List.cons.injEq] at zero
      have digit := Char.isDigit_iff_toNat.mp (digits c List.mem_cons_self)
      apply head
      rw [List.head?_cons, Option.some.injEq]
      apply Char.toNat_inj.mp
      have : '0'.toNat = 48 := by decide
      omega

theorem takeNumeral?_toDigits (n : Nat) :
    takeNumeral? (Nat.toDigits 10 n) = some (Numeral.ofNat n, []) := by
  rw [takeNumeral?_of_ne_minus]
  · unfold takeUnsigned?
    rw [takeDigits_of_isDigit isDigit_of_mem_toDigits]
    split
    · next same =>
      simp [Nat.toDigits_ne_nil] at same
    · next zero => exact absurd (Prod.mk.inj zero).1 (digits_ne_zero_cons n _ _)
    · next same =>
      cases same
      rfl
  · intro minus
    have := isDigit_of_mem_toDigits '-' (List.mem_of_head? minus)
    revert this
    decide

theorem Numeral.toJson_ofNat {n : Nat} (h : n < 2 ^ 64) : (ofNat n).toJson = .natural n := by
  have fits : n ≤ maxNatural := by
    unfold maxNatural
    omega
  simp [toJson, ofNat, value_toDigits, fits]

end Json
end PiiScan
