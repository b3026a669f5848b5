import PiiScan.Classification
import PiiScan.Engine

/-!
This module contains the redaction of a text with findings, which depends on its classification.
-/

namespace PiiScan

def shouldRedact (label : String) (findings : Nat) : Bool :=
  decide (0 < findings) && (Classification.ofLabel? label).any Classification.requiresRedaction

/--
The result for a text and its findings. A text that has to be redacted is never shown as it is: when
the anonymizer fails, so does the redaction.
-/
def redact (anonymizer : Anonymizer) (text : Text) (detections : List Detection) (label : String) :
    Run ScanResult :=
  if detections.isEmpty then .done (.clean text)
  else if shouldRedact label detections.length then
    ((Run.anonymize anonymizer text detections).mapFault Fault.asTransformation).map
      (ScanResult.found detections)
  else .done (.found detections text)

end PiiScan
