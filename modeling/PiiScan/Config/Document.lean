import PiiScan.Config.Forms
import PiiScan.Hcl.Body
import PiiScan.Json.Reader

/-!
This module contains configuration documents. A document is JSON when its first character after
white space is an opening brace, and HCL otherwise.
-/

namespace PiiScan.Config

def isJson (document : Text) : Bool := (Unicode.trimStart document).head? == some '{'

/--
What is said about the documents that cannot be read, if anything.
-/
structure Diagnosis where
  json : Text → Option String
  hcl : Text → Option String

def Diagnosis.silent : Diagnosis := ⟨fun _ => none, fun _ => none⟩

/--
The configuration in a document, whether it is acceptable or not.
-/
def read (document : Text) (diagnosis : Diagnosis := .silent) : Except Fault Config :=
  if isJson document then
    match (Json.ofText? document).bind (ofJson? Json.Dialect.json) with
    | some config => .ok config
    | none => .error (.serialization (diagnosis.json document))
  else
    match (Hcl.ofText? document).bind (ofJson? Hcl.dialect) with
    | some config => .ok config
    | none =>
      .error (.config (Fault.withReason "Failed to parse HCL config" (diagnosis.hcl document)))

def ofText (document : Text) (diagnosis : Diagnosis := .silent) : Except Fault Config := do
  let config ← read document diagnosis
  config.validate
  return config

end PiiScan.Config
