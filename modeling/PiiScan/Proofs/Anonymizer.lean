import PiiScan.Anonymizer
import PiiScan.Proofs.Merge
import PiiScan.Proofs.Text

/-!
This module contains the theory of rewriting. The spans of a text are rewritten in place from the
last to the first; the result is the text that is put together from left to right, out of what lies
between the spans and what is shown instead of them. The reason is that the part of the text before
a span is still untouched when that span is rewritten.
-/

namespace PiiScan
namespace Text

/--
What is left of a text from an offset on, put together from left to right, when every span is
exchanged for another text.
-/
def assemble (exchange : Detection → Text) (text : Text) (start : Nat) : List Detection → Text
  | [] => text.dropBytes start
  | span :: rest =>
    text.slice start span.start ++ (exchange span ++ assemble exchange text span.stop rest)

theorem assemble_cons (exchange : Detection → Text) (text : Text) (start : Nat) (span : Detection)
    (rest : List Detection) :
    text.assemble exchange start (span :: rest) =
      text.slice start span.start ++ (exchange span ++ text.assemble exchange span.stop rest) := by
  rfl

theorem canCut_of_isValidFor {d : Detection} {text : Text} (h : d.isValidFor text = true) :
    text.CanCut d.start d.stop := by
  rw [Detection.isValidFor_iff] at h
  exact ⟨by omega, h.2⟩

theorem CanCut.takeBytes_append {text : Text} {start stop : Nat} (h : text.CanCut start stop)
    (after : Text) : (text.takeBytes stop ++ after).CanCut start stop := by
  obtain ⟨order, hstart, hstop⟩ := h
  obtain ⟨before, middle, rest, rfl, rfl, rfl⟩ := exists_append_of_boundaries order hstart hstop
  rw [takeBytes_append_append]
  refine ⟨by omega, ?_, ?_⟩
  · rw [List.append_assoc]
    apply isBoundary_append
  · rw [← byteSize_append]
    apply isBoundary_append

theorem splice_takeBytes_append {text : Text} {start stop : Nat} (h : text.CanCut start stop)
    (new after : Text) :
    (text.takeBytes stop ++ after).splice start stop new =
      text.takeBytes start ++ (new ++ after) := by
  obtain ⟨order, hstart, hstop⟩ := h
  obtain ⟨before, middle, rest, rfl, rfl, rfl⟩ := exists_append_of_boundaries order hstart hstop
  rw [splice_eq _ _ order]
  rw [takeBytes_append_append, List.append_assoc]
  rw [takeBytes_append, takeBytes_append]
  rw [dropBytes_append_append]

variable {text : Text} {spans : List Detection} {start : Nat}

theorem assemble_slice (valid : ∀ s ∈ spans, s.isValidFor text = true)
    (apart : spans.Pairwise fun a b => a.stop ≤ b.start) (hstart : text.isBoundary start = true)
    (first : ∀ s ∈ spans, start ≤ s.start) :
    text.assemble (fun s => text.slice s.start s.stop) start spans = text.dropBytes start := by
  induction spans generalizing start with
  | nil => rfl
  | cons span rest ih =>
    obtain ⟨hspan, hrest⟩ := List.forall_mem_cons.mp valid
    obtain ⟨gap, tail⟩ := List.pairwise_cons.mp apart
    obtain ⟨order, front, back⟩ := canCut_of_isValidFor hspan
    rw [assemble_cons, ih hrest tail back gap]
    rw [slice_append_dropBytes order front back]
    rw [slice_append_dropBytes (first span List.mem_cons_self) hstart front]

end Text

namespace OperatorTable

open Text

variable {table : OperatorTable} {text : Text} {spans detections : List Detection}

theorem rewrite_cons (span : Detection) (rest : List Detection) :
    table.rewrite text (span :: rest) =
      (table.rewrite text rest).splice span.start span.stop (table.replacement text span) := by
  rfl

theorem rewrite_eq_assemble {start : Nat} (valid : ∀ s ∈ spans, s.isValidFor text = true)
    (apart : spans.Pairwise fun a b => a.stop ≤ b.start) (hstart : text.isBoundary start = true)
    (first : ∀ s ∈ spans, start ≤ s.start) :
    table.rewrite text spans =
      text.takeBytes start ++ text.assemble (table.replacement text) start spans := by
  induction spans generalizing start with
  | nil => exact (takeBytes_append_dropBytes start text).symm
  | cons span rest ih =>
    obtain ⟨hspan, hrest⟩ := List.forall_mem_cons.mp valid
    obtain ⟨gap, tail⟩ := List.pairwise_cons.mp apart
    have cut := canCut_of_isValidFor hspan
    -- the spans behind have been rewritten already, the text up to the end of this one is the
    -- original
    rw [rewrite_cons]
    rw [ih hrest tail cut.2.2 gap]
    rw [splice_takeBytes_append cut]
    rw [← takeBytes_append_slice (first span List.mem_cons_self) hstart cut.2.1]
    rw [List.append_assoc, assemble_cons]

theorem canCut_rewrite {earlier later : List Detection} {span : Detection}
    (valid : ∀ s ∈ earlier ++ span :: later, s.isValidFor text = true)
    (apart : (earlier ++ span :: later).Pairwise fun a b => a.stop ≤ b.start) :
    (table.rewrite text later).CanCut span.start span.stop := by
  have hspan := valid span (by simp)
  have hlater : ∀ s ∈ later, s.isValidFor text = true := by
    intro s hs
    apply valid
    simp [hs]
  obtain ⟨gap, tail⟩ := List.pairwise_cons.mp (List.pairwise_append.mp apart).2.1
  have cut := canCut_of_isValidFor hspan
  rw [rewrite_eq_assemble hlater tail cut.2.2 gap]
  exact cut.takeBytes_append _

theorem anonymize_of_valid (valid : ∀ d ∈ detections, d.isValidFor text = true) :
    table.anonymize text detections = .ok (table.rewrite text (mergeSpans detections)) := by
  have none : (detections.find? fun d => !d.isValidFor text) = none := by
    rw [List.find?_eq_none]
    intro d hd
    simp [valid d hd]
  unfold anonymize
  rw [none]

theorem anonymize_of_invalid {earlier later : List Detection} {bad : Detection}
    (valid : ∀ d ∈ earlier, d.isValidFor text = true) (invalid : bad.isValidFor text = false) :
    table.anonymize text (earlier ++ bad :: later) = .error (invalidSpan bad text) := by
  have found : ((earlier ++ bad :: later).find? fun d => !d.isValidFor text) = some bad := by
    rw [List.find?_append]
    have none : (earlier.find? fun d => !d.isValidFor text) = none := by
      rw [List.find?_eq_none]
      intro d hd
      simp [valid d hd]
    rw [none]
    simp [invalid]
  unfold anonymize
  rw [found]

theorem anonymize_eq_assemble (valid : ∀ d ∈ detections, d.isValidFor text = true) :
    table.anonymize text detections =
      .ok (text.assemble (table.replacement text) 0 (mergeSpans detections)) := by
  have merged := isValidFor_of_mem_mergeSpans valid
  have apart := mergeSpans_pairwise detections
  rw [anonymize_of_valid valid]
  rw [rewrite_eq_assemble merged apart (isBoundary_zero text) (by simp)]
  rw [takeBytes_zero, List.nil_append]

theorem anonymize_error_iff :
    (∃ fault, table.anonymize text detections = .error fault) ↔
      ∃ d ∈ detections, d.isValidFor text = false := by
  constructor
  · rintro ⟨fault, failed⟩
    apply Classical.byContradiction
    intro none
    have valid : ∀ d ∈ detections, d.isValidFor text = true := by
      intro d hd
      cases h : d.isValidFor text with
      | true => rfl
      | false => exact absurd ⟨d, hd, h⟩ none
    rw [anonymize_of_valid valid] at failed
    cases failed
  · rintro ⟨d, hd, invalid⟩
    have found : (detections.find? fun d => !d.isValidFor text).isSome := by
      rw [List.find?_isSome]
      exact ⟨d, hd, by simp [invalid]⟩
    obtain ⟨bad, hbad⟩ := Option.isSome_iff_exists.mp found
    refine ⟨invalidSpan bad text, ?_⟩
    unfold anonymize
    rw [hbad]

/--
Anonymizing fails on the first detection that is not valid for the text. Otherwise every cut that it
makes is between two code points, and the result is what the text consists of, from left to right,
with the text of every merged span handed to the operator for its entity type.
-/
theorem anonymize_replaces_merged_spans (table : OperatorTable) (text : Text)
    (detections : List Detection) :
    ((∃ fault, table.anonymize text detections = .error fault) ↔
      ∃ d ∈ detections, d.isValidFor text = false) ∧
    (∀ earlier bad later, detections = earlier ++ bad :: later →
      (∀ d ∈ earlier, d.isValidFor text = true) → bad.isValidFor text = false →
      table.anonymize text detections = .error (.transformation (
        "Invalid span " ++ toString bad.start ++ ".." ++ toString bad.stop ++ " for entity '" ++
        bad.entityType ++ "' in text of " ++ toString text.byteSize ++ " bytes"))) ∧
    ((∀ d ∈ detections, d.isValidFor text = true) →
      table.anonymize text detections = .ok (text.assemble
        (fun m => (table.operatorFor m.entityType).apply (text.slice m.start m.stop) m.entityType)
        0 (mergeSpans detections)) ∧
      text.assemble (fun m => text.slice m.start m.stop) 0 (mergeSpans detections) = text ∧
      (∀ i, (mergeSpans detections).countP (·.covers i) =
        if detections.any (·.covers i) then 1 else 0) ∧
      ∀ earlier m later, mergeSpans detections = earlier ++ m :: later →
        text.CanCut m.start m.stop ∧ (table.rewrite text later).CanCut m.start m.stop) := by
  refine ⟨anonymize_error_iff, ?_, ?_⟩
  · intro earlier bad later split valid invalid
    rw [split]
    exact anonymize_of_invalid valid invalid
  · intro valid
    have merged := isValidFor_of_mem_mergeSpans valid
    have apart := mergeSpans_pairwise detections
    refine ⟨anonymize_eq_assemble valid, ?_, ?_, ?_⟩
    · rw [assemble_slice merged apart (isBoundary_zero text) (by simp), dropBytes_zero]
    · exact countP_covers_mergeSpans detections
    · intro earlier m later split
      rw [split] at merged apart
      constructor
      · apply canCut_of_isValidFor
        apply merged
        simp
      · exact canCut_rewrite merged apart

theorem anonymize_unsorted_chain :
    anonymize { overrides := [("PERSON", .mask "#" (some 2) false), ("IBAN", .redact)] }
      "é Zoë Müller, DE89".toList
      [⟨"IBAN", 17, 21, .one⟩, ⟨"NAME", 8, 12, .zero⟩, ⟨"PERSON", 3, 9, .one⟩,
        ⟨"PERSON", 3, 9, .one⟩] = .ok "é ##ë Müller, ".toList := by
  have valid : ∀ d ∈ ([⟨"IBAN", 17, 21, .one⟩, ⟨"NAME", 8, 12, .zero⟩, ⟨"PERSON", 3, 9, .one⟩,
      ⟨"PERSON", 3, 9, .one⟩] : List Detection),
      d.isValidFor "é Zoë Müller, DE89".toList = true := by
    decide +kernel
  rw [((anonymize_replaces_merged_spans _ _ _).2.2 valid).1]
  apply congrArg Except.ok
  decide +kernel

end OperatorTable
end PiiScan
