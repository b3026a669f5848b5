import PiiScan.Score.Basic
import PiiScan.Text

/-!
This module contains detections, which are findings in a text, and the result of a scan.
-/

namespace PiiScan

/--
A finding: the byte range `start..stop` of a text, half open, names an entity of some type.
-/
structure Detection where
  entityType : String
  start : Nat
  stop : Nat
  score : Score
  deriving DecidableEq

namespace Detection

def isValidFor (d : Detection) (text : Text) : Bool :=
  decide (d.start < d.stop) && text.isBoundary d.start && text.isBoundary d.stop

def clashes (a b : Detection) : Bool :=
  decide (a.start < b.stop) && decide (b.start < a.stop)

theorem clashes_comm (a b : Detection) : a.clashes b = b.clashes a := by
  simp [clashes, Bool.and_comm]

end Detection

structure ScanResult where
  detected : Bool
  detections : List Detection
  /--
  The text itself, or its anonymized form when it had to be redacted.
  -/
  redactedText : Text
  deriving DecidableEq

namespace ScanResult

def clean (text : Text) : ScanResult := ⟨false, [], text⟩

def found (detections : List Detection) (redactedText : Text) : ScanResult :=
  ⟨true, detections, redactedText⟩

end ScanResult
end PiiScan
