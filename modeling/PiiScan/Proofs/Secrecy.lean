import PiiScan.Proofs.Anonymizer
import PiiScan.Proofs.Mask

/-!
This module contains the secrecy of anonymized texts: two texts that differ only inside of the
detections are shown as the same text, as long as no operator lets anything of a span through. What
is copied lies outside of all detections, and where it begins and ends depends on the detections
alone.
-/

namespace PiiScan
namespace Operator

/--
Whether the operator shows nothing of a span but possibly its length.
-/
def isConcealing : Operator → Bool
  | .replace _ => true
  | .mask _ charsToMask _ => charsToMask.isNone
  | .redact => true
  | .hash => false

def isMask : Operator → Bool
  | .mask .. => true
  | _ => false

theorem apply_mask_all (maskingChar : String) (fromEnd : Bool) (span : Text) (entityType : String) :
    (mask maskingChar none fromEnd).apply span entityType =
      List.replicate span.length (maskOf maskingChar) := by
  rw [apply_mask_eq, Option.getD_none, Nat.min_self]
  apply List.ext_getElem?
  intro i
  rw [getElem?_overwrite fromEnd (Nat.le_refl _), List.getElem?_replicate]
  by_cases inside : i < span.length
  · cases fromEnd <;> simp [inside, maskOf]
  · simp [inside]

theorem apply_eq_of_isConcealing {operator : Operator} {a b : Text} (entityType : String)
    (conceals : operator.isConcealing = true)
    (length : operator.isMask = true → a.length = b.length) :
    operator.apply a entityType = operator.apply b entityType := by
  cases operator with
  | replace newValue => cases newValue <;> rfl
  | mask maskingChar charsToMask fromEnd =>
    cases charsToMask with
    | none => rw [apply_mask_all, apply_mask_all, length rfl]
    | some count => cases conceals
  | redact => rfl
  | hash => cases conceals

end Operator

namespace Text

theorem dropBytes_eq_slice {text : Text} {start : Nat} (h : text.isBoundary start = true) :
    text.dropBytes start = text.slice start text.byteSize := by
  have whole := slice_append_dropBytes (le_byteSize_of_isBoundary h) h (isBoundary_byteSize text)
  have none : text.dropBytes text.byteSize = [] := by
    have := dropBytes_append text []
    rwa [List.append_nil] at this
  rw [← whole, none, List.append_nil]

theorem assemble_eq_of_bytes_eq {a b : Text} {f g : Detection → Text} {spans : List Detection}
    {start : Nat} (size : a.byteSize = b.byteSize)
    (avalid : ∀ s ∈ spans, s.isValidFor a = true) (bvalid : ∀ s ∈ spans, s.isValidFor b = true)
    (apart : spans.Pairwise fun x y => x.stop ≤ y.start)
    (astart : a.isBoundary start = true) (bstart : b.isBoundary start = true)
    (first : ∀ s ∈ spans, start ≤ s.start) (exchange : ∀ s ∈ spans, f s = g s)
    (outside : ∀ i, start ≤ i → i < a.byteSize → (∀ s ∈ spans, s.covers i = false) →
      a.toUtf8[i]? = b.toUtf8[i]?) :
    a.assemble f start spans = b.assemble g start spans := by
  induction spans generalizing start with
  | nil =>
    unfold assemble
    rw [dropBytes_eq_slice astart, dropBytes_eq_slice bstart, ← size]
    apply slice_eq_of_bytes_eq (le_byteSize_of_isBoundary astart) astart
      (isBoundary_byteSize a) bstart
    · rw [size]
      apply isBoundary_byteSize
    · intro i after before
      apply outside i after before
      simp
  | cons span rest ih =>
    obtain ⟨aspan, arest⟩ := List.forall_mem_cons.mp avalid
    obtain ⟨bspan, brest⟩ := List.forall_mem_cons.mp bvalid
    obtain ⟨gap, tail⟩ := List.pairwise_cons.mp apart
    obtain ⟨order, afront, aback⟩ := canCut_of_isValidFor aspan
    obtain ⟨-, bfront, bback⟩ := canCut_of_isValidFor bspan
    have before := first span List.mem_cons_self
    -- no span covers a byte before the first one, as the others lie behind it
    have between : a.slice start span.start = b.slice start span.start := by
      apply slice_eq_of_bytes_eq before astart afront bstart bfront
      intro i after stop
      have := le_byteSize_of_isBoundary afront
      apply outside i after (by omega)
      intro s hs
      apply Bool.eq_false_iff.mpr
      intro covered
      rw [Detection.covers_iff] at covered
      cases List.mem_cons.mp hs with
      | inl same =>
        rw [same] at covered
        omega
      | inr later =>
        have := gap s later
        omega
    have rest_eq : a.assemble f span.stop rest = b.assemble g span.stop rest := by
      apply ih arest brest tail aback bback gap
      · intro s hs
        exact exchange s (List.mem_cons_of_mem span hs)
      · intro i after inside free
        apply outside i (by omega) inside
        intro s hs
        cases List.mem_cons.mp hs with
        | inl same =>
          apply Bool.eq_false_iff.mpr
          intro covered
          rw [same, Detection.covers_iff] at covered
          omega
        | inr later => exact free s later
    rw [assemble_cons, assemble_cons]
    rw [between, exchange span List.mem_cons_self, rest_eq]

end Text

namespace OperatorTable

/--
Texts that agree outside of the detections are anonymized alike when no operator lets anything of a
span through. A mask shows how long a span is, so that the masked spans must be of equal length.
-/
theorem anonymize_eq_of_bytes_eq_outside (table : OperatorTable) (detections : List Detection)
    (a b : Text) (size : a.byteSize = b.byteSize)
    (avalid : ∀ d ∈ detections, d.isValidFor a = true)
    (bvalid : ∀ d ∈ detections, d.isValidFor b = true)
    (outside : ∀ i, i < a.byteSize → (∀ d ∈ detections, d.covers i = false) →
      a.toUtf8[i]? = b.toUtf8[i]?)
    (conceals : ∀ d ∈ detections, (table.operatorFor d.entityType).isConcealing = true)
    (lengths : ∀ m ∈ mergeSpans detections, (table.operatorFor m.entityType).isMask = true →
      (a.slice m.start m.stop).length = (b.slice m.start m.stop).length) :
    table.anonymize a detections = table.anonymize b detections := by
  rw [anonymize_eq_assemble avalid, anonymize_eq_assemble bvalid]
  congr 1
  apply Text.assemble_eq_of_bytes_eq size
  · exact isValidFor_of_mem_mergeSpans avalid
  · exact isValidFor_of_mem_mergeSpans bvalid
  · exact mergeSpans_pairwise detections
  · exact Text.isBoundary_zero a
  · exact Text.isBoundary_zero b
  · simp
  · intro m hm
    have concealing := entityType_of_mem_mergeSpans
      (P := fun entityType => (table.operatorFor entityType).isConcealing = true) conceals m hm
    exact Operator.apply_eq_of_isConcealing m.entityType concealing (lengths m hm)
  · intro i _ inside free
    apply outside i inside
    intro d hd
    apply Bool.eq_false_iff.mpr
    intro covered
    obtain ⟨m, hm, hcovers⟩ := (mergeSpans_covers detections i).mpr ⟨d, hd, covered⟩
    rw [free m hm] at hcovers
    cases hcovers

theorem anonymize_eq_of_equally_long_names :
    "Dr José ok".toList ≠ "Dr Zoës ok".toList ∧
    anonymize { overrides := [("PERSON", .mask "#" none true)] } "Dr José ok".toList
        [⟨"PERSON", 4, 8, .one⟩, ⟨"PERSON", 3, 5, .zero⟩] =
      anonymize { overrides := [("PERSON", .mask "#" none true)] } "Dr Zoës ok".toList
        [⟨"PERSON", 4, 8, .one⟩, ⟨"PERSON", 3, 5, .zero⟩] := by
  constructor
  · decide +kernel
  · apply anonymize_eq_of_bytes_eq_outside
    all_goals decide +kernel

end OperatorTable
end PiiScan
