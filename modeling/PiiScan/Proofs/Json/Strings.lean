import PiiScan.Json.Printer
import PiiScan.Json.Reader

/-!
This module contains the reading of printed strings: every text in quotes is read as itself.
-/

namespace PiiScan
namespace Json

theorem hexadecimal?_digitChar {d : Nat} (h : d < 16) :
    Digits.hexadecimal? (Nat.digitChar d) = some d := by
  have all : ∀ d, d < 16 → Digits.hexadecimal? (Nat.digitChar d) = some d := by decide
  apply all
  exact h

theorem hexUnit?_digitChar {high low : Nat} (hhigh : high < 16) (hlow : low < 16) :
    hexUnit? '0' '0' (Nat.digitChar high) (Nat.digitChar low) = some (16 * high + low) := by
  have zero : Digits.hexadecimal? '0' = some 0 := by decide
  unfold hexUnit? Digits.ofHexadecimal?
  simp [zero, hexadecimal?_digitChar hhigh, hexadecimal?_digitChar hlow, Digits.value]

theorem partOfUnit_toNat {c : Char} (h : c.toNat < 0x20) : partOfUnit c.toNat = .char c := by
  have high : isHighHalf c.toNat = false := by
    simp [isHighHalf]
    omega
  have low : isLowHalf c.toNat = false := by
    simp [isLowHalf]
    omega
  unfold partOfUnit
  rw [high, low, Char.ofNat_toNat]
  simp

theorem readParts_short {c letter : Char} (h : readParts.escaped? letter = some c)
    (notUnit : letter ≠ 'u') (rest : List Char) :
    readParts ('\\' :: letter :: rest) =
      (readParts rest).map fun (parts, rest) => (.char c :: parts, rest) := by
  rw [readParts]
  · rw [h]
    cases readParts rest <;> simp
  · intro _ _ _ _ _ same
    exact absurd same notUnit

theorem readParts_plain {c : Char} (quote : c ≠ '"') (backslash : c ≠ '\\')
    (printed : ¬ c.toNat < 0x20) (rest : List Char) :
    readParts (c :: rest) =
      (readParts rest).map fun (parts, rest) => (.char c :: parts, rest) := by
  rw [readParts]
  · rw [if_neg]
    simp only [not_or]
    exact ⟨printed, backslash⟩
  · exact quote
  · intro _ _ _ _ _ same
    exact absurd same backslash
  · intro _ _ same
    exact absurd same backslash

theorem readParts_escapeChar (c : Char) (rest : List Char) :
    readParts (escapeChar c ++ rest) =
      (readParts rest).map fun (parts, rest) => (.char c :: parts, rest) := by
  unfold escapeChar
  split
  · apply readParts_short <;> decide
  · apply readParts_short <;> decide
  · apply readParts_short <;> decide
  · apply readParts_short <;> decide
  · apply readParts_short <;> decide
  · apply readParts_short <;> decide
  · apply readParts_short <;> decide
  · next quote backslash _ _ _ _ _ =>
    split
    · next control =>
      have high : c.toNat / 16 < 16 := by omega
      have low : c.toNat % 16 < 16 := by omega
      have unit := hexUnit?_digitChar high low
      rw [Nat.div_add_mod] at unit
      simp only [List.cons_append, List.nil_append, readParts, unit]
      cases readParts rest <;> simp [partOfUnit_toNat control]
    · next printed =>
      apply readParts_plain
      · exact quote
      · exact backslash
      · exact printed

theorem readParts_flatMap_escapeChar (text : Text) (rest : List Char) :
    readParts (text.flatMap escapeChar ++ '"' :: rest) = some (text.map .char, rest) := by
  induction text with
  | nil => simp [readParts]
  | cons c text ih =>
    rw [List.flatMap_cons, List.append_assoc, readParts_escapeChar, ih]
    simp

theorem textOfParts_map_char (text : Text) : textOfParts (text.map .char) = some text := by
  induction text with
  | nil => rfl
  | cons c text ih => simp [textOfParts, ih]

theorem readString_escaped (text : Text) (rest : List Char) :
    readString (text.flatMap escapeChar ++ '"' :: rest) = some (some text, rest) := by
  unfold readString
  rw [readParts_flatMap_escapeChar]
  simp [textOfParts_map_char]

theorem quote_append (text : Text) (rest : List Char) :
    quote text ++ rest = '"' :: (text.flatMap escapeChar ++ '"' :: rest) := by
  simp [quote]

end Json
end PiiScan
