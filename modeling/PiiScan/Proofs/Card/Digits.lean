import Mathlib.Data.List.Basic
import PiiScan.Proofs.Card.Finding
import PiiScan.Proofs.Luhn

/-!
This module contains what the digits of a reported card number are. The pattern takes digits of all
scripts, and 13 to 19 of them are covered; the checksum takes the ASCII ones only. So the sum over
all digits is checked for numbers in ASCII, whereas a digit of another script may have any value.
-/

namespace PiiScan

namespace CharSet

def rangeStart? : CharSet → Nat → Option Nat
  | [], _ => none
  | (lo, hi) :: rest, n => if n < lo then none else if n ≤ hi then some lo else rangeStart? rest n

theorem isSome_rangeStart? (set : CharSet) (n : Nat) :
    (set.rangeStart? n).isSome = set.containsCode n := by
  induction set with
  | nil => rfl
  | cons range rest ih =>
    unfold rangeStart? containsCode
    split
    · rfl
    · split
      · rfl
      · exact ih

end CharSet

namespace Unicode

/--
The value of a decimal digit. The digits of a script follow one another from zero on, also where
scripts share a range.
-/
def digitValue? (c : Char) : Option Nat :=
  (digit.rangeStart? c.toNat).map fun lo => (c.toNat - lo) % 10

theorem isSome_digitValue? (c : Char) : (digitValue? c).isSome = digit.contains c := by
  unfold digitValue?
  rw [Option.isSome_map, CharSet.isSome_rangeStart?]
  rfl

theorem exists_digitValue? {c : Char} (h : digit.contains c = true) :
    ∃ v < 10, digitValue? c = some v := by
  rw [← isSome_digitValue?] at h
  obtain ⟨v, hv⟩ := Option.isSome_iff_exists.mp h
  refine ⟨v, ?_, hv⟩
  obtain ⟨lo, -, rfl⟩ := Option.map_eq_some_iff.mp hv
  apply Nat.mod_lt
  omega

theorem digitValue?_of_isDigit {c : Char} (h : c.isDigit = true) :
    digitValue? c = some (c.toNat - 48) := by
  have code := Luhn.toNat_of_isDigit h
  unfold digitValue? digit CharSet.rangeStart?
  rw [if_neg (by omega), if_pos (by omega)]
  simp only [Option.map_some, Option.some.injEq]
  omega

/--
The values of the digits of a text, of whatever script, in order.
-/
def decimals (text : Text) : List Nat := text.filterMap digitValue?

theorem decimals_append_cons {before after : Text} {c : Char} {v : Nat}
    (h : digitValue? c = some v) :
    decimals (before ++ c :: after) = decimals before ++ v :: decimals after := by
  simp [decimals, h]

theorem length_decimals (text : Text) : (decimals text).length = text.countP digit.contains := by
  unfold decimals
  rw [List.length_filterMap_eq_countP]
  congr 1
  funext c
  exact isSome_digitValue? c

theorem decimals_eq_digits {text : Text}
    (h : ∀ c ∈ text, digit.contains c = true → c.isDigit = true) :
    decimals text = Luhn.digits text := by
  unfold decimals Luhn.digits
  apply List.filterMap_congr
  intro c hc
  rw [Luhn.digit?_eq]
  split
  · next ascii => exact digitValue?_of_isDigit ascii
  · next other =>
    rw [← Option.not_isSome_iff_eq_none, isSome_digitValue?]
    exact mt (h c hc) other

end Unicode

namespace Luhn

theorem isValid_append_cons_congr {before after : Text} {c d : Char} (hc : c.isDigit = false)
    (hd : d.isDigit = false) : isValid (before ++ c :: after) = isValid (before ++ d :: after) := by
  unfold isValid
  rw [digits_append, digits_append, digits_cons_of_not_isDigit hc, digits_cons_of_not_isDigit hd]

end Luhn

namespace Card

theorem SpacedDigits.countP_digit {n : Nat} {w : Text}
    (h : SpacedDigits Unicode.digit.contains n w) : w.countP Unicode.digit.contains = n := by
  induction h with
  | last h => simp [h]
  | next h _ ih => simp [h, ih]
  | spaced h separator _ ih =>
    have := digit_of_separator (separators_contains.mpr separator)
    simp [h, this, ih]

end Card

namespace PatternRecognizer

open Card Unicode

theorem analyze_mixed_card :
    ∃ recognizer, defaults = .ok recognizer ∧
      recognizer.analyze "Card 4111111111111111٥ on file".toList "en" =
        .ok [⟨"CREDIT_CARD", 5, 23, .one⟩] := by
  have answered : (defaults.toOption.bind fun recognizer =>
      (recognizer.analyze "Card 4111111111111111٥ on file".toList "en").toOption) =
        some [⟨"CREDIT_CARD", 5, 23, .one⟩] := by
    decide +kernel
  obtain ⟨recognizer, made, found⟩ := Option.bind_eq_some_iff.mp answered
  exact ⟨recognizer, eq_ok_of_toOption made, eq_ok_of_toOption found⟩

/--
Every card number that is reported covers 13 to 19 digits of any script, and its ASCII digits pass
the checksum. If all its digits are ASCII, the weighted sum over them ends in zero. If one is not,
then the checksum passes whichever digit of another script stands in its place, but the sum over all
digits ends in zero for those of one value only.
-/
theorem analyze_card_digits (text : Text) :
    ∃ recognizer findings, defaults = .ok recognizer ∧
      recognizer.analyze text "en" = .ok findings ∧
      ∀ d ∈ findings, d.entityType = "CREDIT_CARD" →
        (13 ≤ (text.slice d.start d.stop).countP digit.contains ∧
          (text.slice d.start d.stop).countP digit.contains ≤ 19) ∧
        (decimals (text.slice d.start d.stop)).length =
          (text.slice d.start d.stop).countP digit.contains ∧
        Luhn.isValid (text.slice d.start d.stop) = true ∧
        ((∀ c ∈ text.slice d.start d.stop, digit.contains c = true → c.isDigit = true) →
          Luhn.sum (decimals (text.slice d.start d.stop)).reverse % 10 = 0) ∧
        ∀ before c after, text.slice d.start d.stop = before ++ c :: after →
          digit.contains c = true → c.isDigit = false →
          ∃ v < 10, ∀ c', digit.contains c' = true → c'.isDigit = false →
            Luhn.isValid (before ++ c' :: after) = true ∧
            (Luhn.sum (decimals (before ++ c' :: after)).reverse % 10 = 0 ↔
              digitValue? c' = some v) := by
  obtain ⟨recognizer, made⟩ := exists_defaults
  obtain ⟨language, -, -⟩ := rules_of_defaults made
  refine ⟨recognizer, recognizer.findAll text, made, analyze_eq_ok recognizer language text, ?_⟩
  intro d hd card
  rcases match_of_mem_findAll made hd with ⟨m, hm, valid, rfl⟩ | other
  · obtain ⟨read, w, rest, rfl, rfl, n, least, most, digits⟩ := exists_of_mem_allMatches hm
    dsimp only at valid ⊢
    rw [slice_match] at valid ⊢
    rw [length_decimals, digits.countP_digit]
    refine ⟨⟨least, most⟩, rfl, valid, ?_, ?_⟩
    · intro ascii
      rw [decimals_eq_digits ascii]
      exact (Luhn.isValid_iff.mp valid).2
    · intro before c after split _ hc
      obtain ⟨v, ⟨small, fits⟩, only⟩ := Luhn.existsUnique_digit (decimals before) (decimals after)
      refine ⟨v, small, ?_⟩
      intro c' digit' hc'
      constructor
      · rw [← Luhn.isValid_append_cons_congr hc hc', ← split]
        exact valid
      · obtain ⟨v', small', value⟩ := exists_digitValue? digit'
        rw [decimals_append_cons value, value, Option.some.injEq]
        constructor
        · intro h
          exact only v' ⟨small', h⟩
        · rintro rfl
          exact fits
  · exact absurd card other

/--
A card number that is reported although the sum over all of its digits does not end in zero: the
last digit is an Arabic five.
-/
theorem analyze_reports_wrong_sum :
    ∃ recognizer, defaults = .ok recognizer ∧
      recognizer.analyze "Card 4111111111111111٥ on file".toList "en" =
        .ok [⟨"CREDIT_CARD", 5, 23, .one⟩] ∧
      Text.slice "Card 4111111111111111٥ on file".toList 5 23 = "4111111111111111٥".toList ∧
      "4111111111111111٥".toList.countP digit.contains = 17 ∧
      Luhn.sum (decimals "4111111111111111٥".toList).reverse = 32 := by
  obtain ⟨recognizer, made, found⟩ := analyze_mixed_card
  exact ⟨recognizer, made, found, by decide, by decide, by decide⟩

theorem analyze_card_digits_mixed :
    (∃ recognizer, defaults = .ok recognizer ∧
      recognizer.analyze "Card 4111111111111111٥ on file".toList "en" =
        .ok [⟨"CREDIT_CARD", 5, 23, .one⟩]) ∧
    ∃ v < 10, ∀ c', digit.contains c' = true → c'.isDigit = false →
      Luhn.isValid ("4111111111111111".toList ++ [c']) = true ∧
      (Luhn.sum (decimals ("4111111111111111".toList ++ [c'])).reverse % 10 = 0 ↔
        digitValue? c' = some v) := by
  obtain ⟨recognizer, made, found⟩ := analyze_mixed_card
  obtain ⟨recognizer', findings, made', found', reported⟩ :=
    analyze_card_digits "Card 4111111111111111٥ on file".toList
  cases made.symm.trans made'
  cases found.symm.trans found'
  refine ⟨⟨recognizer, made, found⟩, ?_⟩
  obtain ⟨-, -, -, -, mixed⟩ := reported _ (List.mem_singleton.mpr rfl) rfl
  apply mixed "4111111111111111".toList '٥' []
  all_goals decide

end PatternRecognizer
end PiiScan
