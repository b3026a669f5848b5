/-!
This module contains the classification labels that callers attach to a text. A label is matched
exactly; a string that is no label is not an error, it only never leads to redaction.
-/

namespace PiiScan

/--
How sensitive a text is, from least to most.
-/
inductive Classification where
  | pub
  | internal
  | confidential
  | restricted
  deriving DecidableEq, Repr

namespace Classification

def label : Classification → String
  | .pub => "PUBLIC"
  | .internal => "INTERNAL"
  | .confidential => "CONFIDENTIAL"
  | .restricted => "RESTRICTED"

def ofLabel? (label : String) : Option Classification :=
  if label = "PUBLIC" then some .pub
  else if label = "INTERNAL" then some .internal
  else if label = "CONFIDENTIAL" then some .confidential
  else if label = "RESTRICTED" then some .restricted
  else none

def level : Classification → Nat
  | .pub => 0
  | .internal => 1
  | .confidential => 2
  | .restricted => 3

instance : Ord Classification where
  compare a b := compare a.level b.level

def requiresRedaction : Classification → Bool
  | .pub => false
  | _ => true

end Classification
end PiiScan
