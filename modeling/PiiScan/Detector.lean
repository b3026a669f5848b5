import PiiScan.Engine

/-!
This module contains the detector: it asks a recognizer for candidates and keeps those that are good
enough and valid for the text.
-/

namespace PiiScan

structure Detector where
  recognizer : Recognizer
  language : String := "en"

namespace Detector

def scoreFloor : Score := .ofDecimal false 7 (-1)

def keep (text : Text) (candidates : List Detection) : List Detection :=
  candidates.filter fun d => scoreFloor.le d.score && d.isValidFor text

/--
Detect the entities in a text. Nothing is asked about an empty text.
-/
def detect (detector : Detector) (text : Text) : Run (List Detection) :=
  if text.isEmpty then .done []
  else ((Run.analyze detector.recognizer text detector.language).mapFault Fault.asDetection).map
    (keep text)

end Detector
end PiiScan
