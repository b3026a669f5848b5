import PiiScan.Overlap
import PiiScan.Rule

/-!
This module contains the recognizer that is made of rules. It serves one language; its findings do
not overlap and are in order.
-/

namespace PiiScan

structure PatternRecognizer where
  rules : List CompiledRule
  language : String

namespace PatternRecognizer

/--
The recognizer with the given rules; the first rule that cannot be used is the fault.
-/
def ofRules (rules : List Rule) (language : String) (engine : PatternEngine := .standard) :
    Except Fault PatternRecognizer := do
  let compiled ← rules.mapM fun rule => rule.compile engine
  return ⟨compiled, language⟩

def defaults : Except Fault PatternRecognizer := ofRules Rule.defaults "en"

def findAll (recognizer : PatternRecognizer) (text : Text) : List Detection :=
  resolveOverlaps (recognizer.rules.flatMap fun rule => rule.candidates text)

def analyze (recognizer : PatternRecognizer) (text : Text) (language : String) :
    Except Fault (List Detection) :=
  if language = recognizer.language then .ok (recognizer.findAll text)
  else .error (.detection ("No recognizers configured for language '" ++ language ++ "'"))

end PatternRecognizer
end PiiScan
