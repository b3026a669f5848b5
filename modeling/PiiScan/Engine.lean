import PiiScan.Detection
import PiiScan.Fault

/-!
This module contains the two engines behind a scan, which may be anything that answers, and runs:
what a computation answers together with the calls that it made to the engines.
-/

namespace PiiScan

structure Recognizer where
  name : String
  analyze : Text → String → Except Fault (List Detection)

structure Anonymizer where
  name : String
  anonymize : Text → List Detection → Except Fault Text

inductive EngineCall where
  | analyze (language : String) (text : Text)
  | anonymize (text : Text) (detections : List Detection)
  deriving DecidableEq

/--
The calls that a computation made, in order, and its answer.
-/
structure Run (α : Type) where
  calls : List EngineCall
  answer : Except Fault α

namespace Run

variable {α β : Type}

def done (a : α) : Run α := ⟨[], .ok a⟩

def andThen (run : Run α) (next : α → Run β) : Run β :=
  match run.answer with
  | .ok a => ⟨run.calls ++ (next a).calls, (next a).answer⟩
  | .error fault => ⟨run.calls, .error fault⟩

def map (f : α → β) (run : Run α) : Run β := ⟨run.calls, run.answer.map f⟩

def mapFault (f : Fault → Fault) (run : Run α) : Run α := ⟨run.calls, run.answer.mapError f⟩

def analyze (recognizer : Recognizer) (text : Text) (language : String) : Run (List Detection) :=
  ⟨[.analyze language text], recognizer.analyze text language⟩

def anonymize (anonymizer : Anonymizer) (text : Text) (detections : List Detection) : Run Text :=
  ⟨[.anonymize text detections], anonymizer.anonymize text detections⟩

end Run
end PiiScan
