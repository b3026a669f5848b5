import PiiScan.Scanner

/-!
This module contains what every stage of a scan comes to, whatever the engines answer: the calls
that are made, and the result or the fault. There is one equation for each way that a stage can go.
-/

namespace PiiScan

theorem Classification.requiresRedaction_iff (label : String) :
    (Classification.ofLabel? label).any Classification.requiresRedaction = true ↔
      label ∈ ["INTERNAL", "CONFIDENTIAL", "RESTRICTED"] := by
  unfold Classification.ofLabel?
  split
  · next pub =>
    rw [pub]
    decide
  · split
    · next internal =>
      rw [internal]
      decide
    · split
      · next confidential =>
        rw [confidential]
        decide
      · split
        · next restricted =>
          rw [restricted]
          decide
        · simp [*]

namespace Detector

variable {recognizer : Recognizer} {language : String} {text : Text} {candidates : List Detection}

theorem mem_keep {d : Detection} :
    d ∈ keep text candidates ↔ d ∈ candidates ∧ scoreFloor.le d.score = true ∧
      d.isValidFor text = true := by
  simp [keep]

/--
What is kept is at least as good as the floor, which excludes what is not a number.
-/
theorem keep_eq (text : Text) (candidates : List Detection) :
    keep text candidates = candidates.filter fun d =>
      !d.score.isNaN && decide (scoreFloor.level ≤ d.score.level) && d.isValidFor text := by
  have floor : scoreFloor.isNaN = false := by decide +kernel
  unfold keep Score.le
  simp [floor]

theorem detect_of_ok (nonempty : text ≠ [])
    (found : recognizer.analyze text language = .ok candidates) :
    detect ⟨recognizer, language⟩ text =
      ⟨[.analyze language text], .ok (keep text candidates)⟩ := by
  unfold detect
  rw [if_neg (by simpa using nonempty)]
  unfold Run.analyze Run.mapFault Run.map
  dsimp only
  rw [found]
  rfl

theorem detect_of_error {fault : Fault} (nonempty : text ≠ [])
    (failed : recognizer.analyze text language = .error fault) :
    detect ⟨recognizer, language⟩ text =
      ⟨[.analyze language text], .error fault.asDetection⟩ := by
  unfold detect
  rw [if_neg (by simpa using nonempty)]
  unfold Run.analyze Run.mapFault Run.map
  dsimp only
  rw [failed]
  rfl

end Detector

section Redaction

variable {anonymizer : Anonymizer} {text : Text} {detections : List Detection} {label : String}

theorem shouldRedact_iff {findings : Nat} :
    shouldRedact label findings = true ↔
      0 < findings ∧ label ∈ ["INTERNAL", "CONFIDENTIAL", "RESTRICTED"] := by
  unfold shouldRedact
  rw [Bool.and_eq_true, decide_eq_true_eq, Classification.requiresRedaction_iff]

theorem redact_nil : redact anonymizer text [] label = ⟨[], .ok (.clean text)⟩ := by
  rfl

theorem redact_of_other (present : detections ≠ [])
    (other : label ∉ ["INTERNAL", "CONFIDENTIAL", "RESTRICTED"]) :
    redact anonymizer text detections label = ⟨[], .ok (.found detections text)⟩ := by
  unfold redact
  rw [if_neg (by simpa using present)]
  rw [if_neg (fun sensitive => other (shouldRedact_iff.mp sensitive).2)]
  rfl

theorem redact_of_sensitive (present : detections ≠ [])
    (sensitive : label ∈ ["INTERNAL", "CONFIDENTIAL", "RESTRICTED"]) :
    redact anonymizer text detections label =
      ⟨[.anonymize text detections],
        ((anonymizer.anonymize text detections).mapError Fault.asTransformation).map
          (ScanResult.found detections)⟩ := by
  unfold redact
  rw [if_neg (by simpa using present)]
  rw [if_pos (shouldRedact_iff.mpr ⟨List.length_pos_iff.mpr present, sensitive⟩)]
  rfl

end Redaction

namespace Scanner

variable {recognizer : Recognizer} {anonymizer : Anonymizer} {language : String} {text : Text}
  {label : String}

theorem scan_nil :
    scan ⟨⟨recognizer, language⟩, anonymizer⟩ [] label = ⟨[], .ok (.clean [])⟩ := by
  rfl

theorem scan_of_error {fault : Fault} (nonempty : text ≠ [])
    (failed : recognizer.analyze text language = .error fault) :
    scan ⟨⟨recognizer, language⟩, anonymizer⟩ text label =
      ⟨[.analyze language text], .error fault.asDetection⟩ := by
  unfold scan
  rw [Detector.detect_of_error nonempty failed]
  rfl

theorem scan_of_ok {candidates : List Detection} (nonempty : text ≠ [])
    (found : recognizer.analyze text language = .ok candidates) :
    scan ⟨⟨recognizer, language⟩, anonymizer⟩ text label =
      ⟨.analyze language text ::
          (redact anonymizer text (Detector.keep text candidates) label).calls,
        (redact anonymizer text (Detector.keep text candidates) label).answer⟩ := by
  unfold scan
  rw [Detector.detect_of_ok nonempty found]
  rfl

end Scanner
end PiiScan
