import PiiScan.Fault
import PiiScan.Merge
import PiiScan.Operator

/-!
This module contains the anonymizer: an operator for every entity type, and the rewriting of a text
whose detections have been merged. Spans are rewritten from the last to the first, so that the
offsets of those still to come stay right.
-/

namespace PiiScan

/--
A default operator with overrides for single entity types. Of two overrides for one entity type the
first in the list counts.
-/
structure OperatorTable where
  defaultOperator : Operator := default
  overrides : List (String × Operator) := []
  deriving DecidableEq

namespace OperatorTable

def operatorFor (table : OperatorTable) (entityType : String) : Operator :=
  (table.overrides.lookup entityType).getD table.defaultOperator

def withOperator (table : OperatorTable) (entityType : String) (operator : Operator) :
    OperatorTable :=
  { table with
    overrides := (entityType, operator) :: table.overrides.filter fun o => o.1 != entityType }

def replacement (table : OperatorTable) (text : Text) (span : Detection) : Text :=
  (table.operatorFor span.entityType).apply (text.slice span.start span.stop) span.entityType

/--
Rewrite the spans of a text, the last one first.
-/
def rewrite (table : OperatorTable) (text : Text) (spans : List Detection) : Text :=
  spans.foldr (fun span out => out.splice span.start span.stop (table.replacement text span)) text

def invalidSpan (d : Detection) (text : Text) : Fault :=
  .transformation <|
    "Invalid span " ++ toString d.start ++ ".." ++ toString d.stop ++ " for entity '" ++
    d.entityType ++ "' in text of " ++ toString text.byteSize ++ " bytes"

def anonymize (table : OperatorTable) (text : Text) (detections : List Detection) :
    Except Fault Text :=
  match detections.find? fun d => !d.isValidFor text with
  | some bad => .error (invalidSpan bad text)
  | none => .ok (table.rewrite text (mergeSpans detections))

end OperatorTable
end PiiScan
