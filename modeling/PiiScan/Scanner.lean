import PiiScan.Detector
import PiiScan.Redaction

/-!
This module contains the scanner: detection, and then redaction by classification.
-/

namespace PiiScan

structure Scanner where
  detector : Detector
  anonymizer : Anonymizer

namespace Scanner

def scan (scanner : Scanner) (text : Text) (label : String) : Run ScanResult :=
  (scanner.detector.detect text).andThen fun detections =>
    redact scanner.anonymizer text detections label

end Scanner
end PiiScan
