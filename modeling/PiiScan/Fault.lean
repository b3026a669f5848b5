/-!
This module contains what can go wrong, by cause, and the message of each fault.
-/

namespace PiiScan

inductive Fault where
  | detection (reason : String)
  | transformation (reason : String)
  /--
  A rule cannot be used. The engine for patterns may have given no reason.
  -/
  | invalidPattern (entityType : String) (reason : Option String)
  | transport (reason : String)
  | internal (reason : String)
  | config (reason : String)
  | io (reason : String)
  /--
  A JSON document cannot be read. The reader may have given no reason.
  -/
  | serialization (reason : Option String)
  deriving DecidableEq

namespace Fault

def withReason (message : String) : Option String → String
  | some reason => message ++ ": " ++ reason
  | none => message

def message : Fault → String
  | .detection reason => "Detection failed: " ++ reason
  | .transformation reason => "Transformation failed: " ++ reason
  | .invalidPattern entityType reason =>
    withReason ("Invalid pattern for entity '" ++ entityType ++ "'") reason
  | .transport reason => "Transport error: " ++ reason
  | .internal reason => "Internal error: " ++ reason
  | .config reason => "Configuration error: " ++ reason
  | .io reason => "IO error: " ++ reason
  | .serialization reason => withReason "Serialization error" reason

/--
A fault of the recognizer as the detector reports it: wrapped once at most.
-/
def asDetection : Fault → Fault
  | .detection reason => .detection reason
  | other => .detection other.message

def asTransformation : Fault → Fault
  | .transformation reason => .transformation reason
  | other => .transformation other.message

end Fault
end PiiScan
