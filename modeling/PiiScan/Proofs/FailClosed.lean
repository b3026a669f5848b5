import PiiScan.Proofs.Service
import PiiScan.Wire.Call

/-!
This module contains what a scan guarantees for engines that may answer anything. It says for every
answer of the engines which calls are made and what comes out: a text that has to be redacted is
only ever shown as the anonymizer returned it, and what is kept of the candidates can always be
reported.
-/

namespace PiiScan
namespace Fault

/--
Whether a reason is that of a fault of the given kind, or the message of another fault.
-/
def IsReason (kind : String → Fault) (fault : Fault) (reason : String) : Prop :=
  fault = kind reason ∨ (∀ own, fault ≠ kind own) ∧ reason = fault.message

theorem asDetection_eq (fault : Fault) :
    ∃ reason, IsReason .detection fault reason ∧ fault.asDetection = .detection reason := by
  cases fault with
  | detection reason => exact ⟨reason, .inl rfl, rfl⟩
  | _ => exact ⟨_, .inr ⟨by simp, rfl⟩, rfl⟩

theorem asTransformation_eq (fault : Fault) :
    ∃ reason, IsReason .transformation fault reason ∧
      fault.asTransformation = .transformation reason := by
  cases fault with
  | transformation reason => exact ⟨reason, .inl rfl, rfl⟩
  | _ => exact ⟨_, .inr ⟨by simp, rfl⟩, rfl⟩

end Fault

namespace Scanner

/--
What a scan of a text and the service on it come to: the calls to the engines in order, and the
result or the fault. The service reports the result in code points. A remote call that fails is
answered with the message of the fault, and with no result.
-/
structure Yields (scanner : Scanner) (text : Text) (label : String) (calls : List EngineCall)
    (answer : Except Fault ScanResult) : Prop where
  scan : scanner.scan text label = ⟨calls, answer⟩
  calls : (scanner.respond ⟨text, label⟩).calls = calls
  failed : ∀ fault, answer = .error fault →
    (scanner.respond ⟨text, label⟩).answer = .error fault ∧
      ∀ limit path body, path.toList.takeWhile (· != '?') = Wire.scanPath.toList →
        Wire.requestOfCall limit body = .ok ⟨text, label⟩ →
          Wire.answerCall scanner limit path body = .error ⟨.internal, some fault.message⟩
  reported : text.byteSize < 2 ^ 63 → ∀ result, answer = .ok result →
    (scanner.respond ⟨text, label⟩).answer =
      .ok ⟨result.detected, result.detections.map (ScanResponse.reported text),
        result.redactedText⟩

section

variable {scanner : Scanner} {text : Text} {label : String} {calls : List EngineCall}

theorem Yields.of_error {fault : Fault} (h : scanner.scan text label = ⟨calls, .error fault⟩) :
    scanner.Yields text label calls (.error fault) := by
  have responded : scanner.respond ⟨text, label⟩ = ⟨calls, .error fault⟩ := by
    unfold respond
    rw [h]
    rfl
  refine ⟨h, ?_, ?_, ?_⟩
  · rw [responded]
  · intro own same
    cases same
    constructor
    · rw [responded]
    · intro limit path body called request
      unfold Wire.answerCall
      rw [if_neg (not_not_intro called), request]
      dsimp only
      rw [responded]
      rfl
  · intro _ result same
    cases same

/--
A result whose detections are valid for the text never makes the service fail.
-/
theorem Yields.of_ok {result : ScanResult} (h : scanner.scan text label = ⟨calls, .ok result⟩)
    (valid : ∀ d ∈ result.detections, d.isValidFor text = true) :
    scanner.Yields text label calls (.ok result) := by
  have responded : scanner.respond ⟨text, label⟩ = ⟨calls, ScanResponse.ofResult result text⟩ := by
    unfold respond
    rw [h]
    unfold Run.andThen
    simp
  refine ⟨h, ?_, ?_, ?_⟩
  · rw [responded]
  · intro fault same
    cases same
  · intro size own same
    cases same
    rw [responded]
    exact ScanResponse.ofResult_eq size valid

end

/--
A scan with any engines. Nothing is asked about an empty text. Else the recognizer is asked once,
and when it fails so does the scan, before the anonymizer is asked. What counts are the candidates
that reach the floor and are valid for the text, in the order in which they came; when there is
none, the text is clean. When there are some and the label demands it, the anonymizer is asked once
about just these, and the redacted text is what it returns; when it fails so does the scan. For
every other label the text is shown as it is. The service comes to the same, and never fails on its
own.
-/
theorem scan_fail_closed (recognizer : Recognizer) (anonymizer : Anonymizer) (language : String)
    (text : Text) (label : String) :
    (text = [] → Yields ⟨⟨recognizer, language⟩, anonymizer⟩ text label [] (.ok (.clean text))) ∧
    (text ≠ [] →
      (∀ fault, recognizer.analyze text language = .error fault →
        ∃ reason, Fault.IsReason .detection fault reason ∧
          Yields ⟨⟨recognizer, language⟩, anonymizer⟩ text label [.analyze language text]
            (.error (.detection reason))) ∧
      ∀ candidates, recognizer.analyze text language = .ok candidates →
        ∀ kept, kept = candidates.filter (fun d => !d.score.isNaN &&
            decide (Detector.scoreFloor.level ≤ d.score.level) && d.isValidFor text) →
          (kept = [] →
            Yields ⟨⟨recognizer, language⟩, anonymizer⟩ text label [.analyze language text]
              (.ok (.clean text))) ∧
          (kept ≠ [] → label ∉ ["INTERNAL", "CONFIDENTIAL", "RESTRICTED"] →
            Yields ⟨⟨recognizer, language⟩, anonymizer⟩ text label [.analyze language text]
              (.ok ⟨true, kept, text⟩)) ∧
          (kept ≠ [] → label ∈ ["INTERNAL", "CONFIDENTIAL", "RESTRICTED"] →
            (∀ redacted, anonymizer.anonymize text kept = .ok redacted →
              Yields ⟨⟨recognizer, language⟩, anonymizer⟩ text label
                [.analyze language text, .anonymize text kept] (.ok ⟨true, kept, redacted⟩)) ∧
            ∀ fault, anonymizer.anonymize text kept = .error fault →
              ∃ reason, Fault.IsReason .transformation fault reason ∧
                Yields ⟨⟨recognizer, language⟩, anonymizer⟩ text label
                  [.analyze language text, .anonymize text kept]
                  (.error (.transformation reason)))) := by
  refine ⟨?_, fun nonempty => ⟨?_, ?_⟩⟩
  · rintro rfl
    exact Yields.of_ok scan_nil (by simp [ScanResult.clean])
  · intro fault failed
    obtain ⟨reason, isReason, same⟩ := fault.asDetection_eq
    refine ⟨reason, isReason, Yields.of_error ?_⟩
    rw [scan_of_error nonempty failed, same]
  · intro candidates found kept hkept
    rw [← Detector.keep_eq] at hkept
    have scanned := @scan_of_ok recognizer anonymizer language text label candidates nonempty found
    rw [← hkept] at scanned
    have valid : ∀ d ∈ kept, d.isValidFor text = true := by
      intro d hd
      rw [hkept, Detector.mem_keep] at hd
      exact hd.2.2
    refine ⟨?_, ?_, ?_⟩
    · intro empty
      rw [empty, redact_nil] at scanned
      exact Yields.of_ok scanned (by simp [ScanResult.clean])
    · intro present other
      rw [redact_of_other present other] at scanned
      exact Yields.of_ok scanned valid
    · intro present sensitive
      rw [redact_of_sensitive present sensitive] at scanned
      constructor
      · intro redacted answered
        rw [answered] at scanned
        exact Yields.of_ok scanned valid
      · intro fault failed
        obtain ⟨reason, isReason, same⟩ := fault.asTransformation_eq
        refine ⟨reason, isReason, Yields.of_error ?_⟩
        rw [failed] at scanned
        rw [scanned, ← same]
        rfl

theorem scan_with_broken_anonymizer :
    (scan
      ⟨⟨⟨"ner", fun _ _ => .ok [⟨"NAME", 0, 3, ⟨0x7FF8000000000000⟩⟩, ⟨"CITY", 4, 6, .one⟩,
        ⟨"NAME", 0, 2, .one⟩, ⟨"NAME", 0, 3, ⟨0x7FF0000000000000⟩⟩]⟩, "de"⟩,
        ⟨"remote", fun _ _ => .error (.transport "connection reset")⟩⟩
      "Zoë".toList "RESTRICTED") =
    ⟨[.analyze "de" "Zoë".toList,
        .anonymize "Zoë".toList [⟨"NAME", 0, 2, .one⟩]],
      .error (.transformation "Transport error: connection reset")⟩ := by
  have kept := ((scan_fail_closed
      ⟨"ner", fun _ _ => .ok [⟨"NAME", 0, 3, ⟨0x7FF8000000000000⟩⟩, ⟨"CITY", 4, 6, .one⟩,
        ⟨"NAME", 0, 2, .one⟩, ⟨"NAME", 0, 3, ⟨0x7FF0000000000000⟩⟩]⟩
      ⟨"remote", fun _ _ => .error (.transport "connection reset")⟩ "de"
      "Zoë".toList "RESTRICTED").2 (by decide)).2 _ rfl [⟨"NAME", 0, 2, .one⟩] (by decide +kernel)
  obtain ⟨reason, isReason, yields⟩ := (kept.2.2 (by decide) (by decide)).2 _ rfl
  rcases isReason with same | ⟨-, rfl⟩
  · cases same
  · exact yields.scan

end Scanner
end PiiScan
