import PiiScan.Operator

/-!
This module contains the theory of masks. A mask exchanges the code points at the first or at the
last positions of a span for one code point and leaves all others as they are. For this reason
masking once more changes nothing, and masking at the end is masking at the start of the reversed
span.
-/

namespace PiiScan
namespace Operator

/--
Whether a position is one of the first, or of the last, `count` positions of a span.
-/
def isMasked (total count : Nat) (fromEnd : Bool) (i : Nat) : Bool :=
  if fromEnd then decide (total - count ≤ i) else decide (i < count)

@[simp]
theorem isMasked_start (total count i : Nat) :
    isMasked total count false i = decide (i < count) := rfl

@[simp]
theorem isMasked_end (total count i : Nat) :
    isMasked total count true i = decide (total - count ≤ i) := rfl

/--
The difference of two counts, unless it would be negative.
-/
def subtract? (a b : Nat) : Option Nat :=
  if b ≤ a then some (a - b) else none

theorem subtract?_of_le {a b : Nat} (h : b ≤ a) : subtract? a b = some (a - b) :=
  if_pos h

/--
A span with `count` code points overwritten, where no count may be subtracted from a smaller one.
-/
def overwritePositions? (mask : Char) (count : Nat) (fromEnd : Bool) (span : Text) :
    Option Text := do
  let kept ← subtract? span.length count
  let (before, behind) := if fromEnd then (kept, 0) else (0, kept)
  let stop ← subtract? span.length behind
  return span.mapIdx fun i c => if i < before ∨ stop ≤ i then c else mask

section Overwrite

variable {mask : Char} {count : Nat} {span : Text}

theorem overwritePositions?_eq (fromEnd : Bool) (fits : count ≤ span.length) :
    overwritePositions? mask count fromEnd span = some (overwrite mask count fromEnd span) := by
  unfold overwritePositions?
  rw [subtract?_of_le fits]
  cases fromEnd with
  | false =>
    simp only [Option.bind_eq_bind, Option.bind_some, Bool.false_eq_true, if_false]
    rw [subtract?_of_le (Nat.sub_le _ _)]
    rfl
  | true =>
    simp only [Option.bind_eq_bind, Option.bind_some, if_true]
    rw [subtract?_of_le (Nat.zero_le _)]
    rfl

@[simp]
theorem length_overwrite (fromEnd : Bool) :
    (overwrite mask count fromEnd span).length = span.length :=
  List.length_mapIdx

theorem getElem?_overwrite (fromEnd : Bool) (fits : count ≤ span.length) (i : Nat) :
    (overwrite mask count fromEnd span)[i]? =
      span[i]?.map fun c => if isMasked span.length count fromEnd i then mask else c := by
  unfold overwrite
  rw [List.getElem?_mapIdx]
  cases found : span[i]? with
  | none => rfl
  | some c =>
    obtain ⟨inside, -⟩ := List.getElem?_eq_some_iff.mp found
    rw [Option.map_some, Option.map_some]
    apply congrArg some
    -- of the two parts that may be kept, one is empty
    cases fromEnd with
    | false =>
      have kept : (i < 0 ∨ span.length - (span.length - count) ≤ i) ↔ ¬i < count := by omega
      simp only [Bool.false_eq_true, if_false, isMasked_start, decide_eq_true_eq, kept, ite_not]
    | true =>
      have kept : (i < span.length - count ∨ span.length - 0 ≤ i) ↔
          ¬span.length - count ≤ i := by omega
      simp only [if_true, isMasked_end, decide_eq_true_eq, kept, ite_not]

theorem overwrite_overwrite (fromEnd : Bool) (fits : count ≤ span.length) :
    overwrite mask count fromEnd (overwrite mask count fromEnd span) =
      overwrite mask count fromEnd span := by
  have fits' : count ≤ (overwrite mask count fromEnd span).length := by
    rwa [length_overwrite]
  apply List.ext_getElem?
  intro i
  rw [getElem?_overwrite fromEnd fits', length_overwrite, getElem?_overwrite fromEnd fits]
  rw [Option.map_map]
  congr 1
  funext c
  simp only [Function.comp_apply]
  split <;> rfl

theorem overwrite_end (fits : count ≤ span.length) :
    overwrite mask count true span = (overwrite mask count false span.reverse).reverse := by
  have fits' : count ≤ span.reverse.length := by
    rwa [List.length_reverse]
  apply List.ext_getElem?
  intro i
  rw [getElem?_overwrite true fits]
  by_cases inside : i < span.length
  · rw [List.getElem?_reverse (by simpa using inside), getElem?_overwrite false fits']
    rw [length_overwrite, List.length_reverse, List.getElem?_reverse (by omega)]
    have mirrored : span.length - 1 - (span.length - 1 - i) = i := by omega
    have same : isMasked span.length count true i =
        isMasked span.length count false (span.length - 1 - i) := by
      simp only [isMasked_start, isMasked_end, decide_eq_decide]
      omega
    rw [mirrored, same]
  · have outside := Nat.not_lt.mp inside
    rw [List.getElem?_eq_none outside, List.getElem?_eq_none (by simpa using outside)]
    rfl

end Overwrite

section Mask

variable {maskingChar : String} {charsToMask : Option Nat} {span : Text} {entityType : String}

theorem apply_mask_eq (fromEnd : Bool) (span : Text) :
    (mask maskingChar charsToMask fromEnd).apply span entityType =
      overwrite (maskingChar.toList.head?.getD '*') (min (charsToMask.getD span.length) span.length)
        fromEnd span := by
  rw [← List.headD_eq_head?_getD]
  rfl

theorem length_apply_mask (fromEnd : Bool) :
    ((mask maskingChar charsToMask fromEnd).apply span entityType).length = span.length := by
  rw [apply_mask_eq, length_overwrite]

theorem apply_mask_apply_mask (fromEnd : Bool) :
    (mask maskingChar charsToMask fromEnd).apply
        ((mask maskingChar charsToMask fromEnd).apply span entityType) entityType =
      (mask maskingChar charsToMask fromEnd).apply span entityType := by
  rw [apply_mask_eq fromEnd ((mask _ _ _).apply _ _), length_apply_mask]
  rw [apply_mask_eq, overwrite_overwrite fromEnd (Nat.min_le_right _ _)]

theorem apply_mask_end :
    (mask maskingChar charsToMask true).apply span entityType =
      ((mask maskingChar charsToMask false).apply span.reverse entityType).reverse := by
  rw [apply_mask_eq, apply_mask_eq, List.length_reverse, overwrite_end (Nat.min_le_right _ _)]

end Mask

/--
A mask shows as many code points as the span has. No count is subtracted from a smaller one while it
is made. The first `count` positions, or the last ones, hold the first character of the masking
text, or a star if that is empty; every other position holds what the span has there. Masking again
changes nothing, and masking from the end is masking the reversed span from the start.
-/
theorem apply_mask_positions (maskingChar : String) (charsToMask : Option Nat) (span : Text)
    (entityType : String) :
    let masked (fromEnd : Bool) (span : Text) : Text :=
      (mask maskingChar charsToMask fromEnd).apply span entityType
    let first := maskingChar.toList.head?.getD '*'
    let count := min (charsToMask.getD span.length) span.length
    (∀ fromEnd, overwritePositions? first count fromEnd span = some (masked fromEnd span)) ∧
    (∀ fromEnd, (masked fromEnd span).length = span.length) ∧
    (∀ i, (masked false span)[i]? = span[i]?.map fun own => if i < count then first else own) ∧
    (∀ i, (masked true span)[i]? =
      span[i]?.map fun own => if span.length - count ≤ i then first else own) ∧
    (∀ fromEnd, masked fromEnd (masked fromEnd span) = masked fromEnd span) ∧
    masked true span = (masked false span.reverse).reverse := by
  intro masked first count
  have fits : count ≤ span.length := Nat.min_le_right _ _
  refine ⟨?_, ?_, ?_, ?_, apply_mask_apply_mask, apply_mask_end⟩
  · intro fromEnd
    rw [overwritePositions?_eq fromEnd fits]
    exact congrArg some (apply_mask_eq fromEnd span).symm
  · exact length_apply_mask
  · intro i
    have masked_eq : masked false span = overwrite first count false span :=
      apply_mask_eq false span
    rw [masked_eq, getElem?_overwrite false fits]
    simp only [isMasked_start, decide_eq_true_eq]
  · intro i
    have masked_eq : masked true span = overwrite first count true span := apply_mask_eq true span
    rw [masked_eq, getElem?_overwrite true fits]
    simp only [isMasked_end, decide_eq_true_eq]

example : (mask "é!" (some 2) true).apply "Zoë".toList "PERSON" = "Zéé".toList := by decide

end Operator
end PiiScan
