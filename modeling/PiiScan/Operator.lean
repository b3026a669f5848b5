import PiiScan.Sha256
import PiiScan.Text

/-!
This module contains the operators that turn the text of a finding into what is shown instead of it.
-/

namespace PiiScan

inductive Operator where
  | replace (newValue : Option String)
  | mask (maskingChar : String) (charsToMask : Option Nat) (fromEnd : Bool)
  | redact
  | hash
  deriving DecidableEq

namespace Operator

instance : Inhabited Operator := ⟨.replace none⟩

/--
The code point that a masking text stands for: its first, or a star when it is empty.
-/
def maskOf (maskingChar : String) : Char :=
  maskingChar.toList.headD '*'

def overwrite (mask : Char) (count : Nat) (fromEnd : Bool) (span : Text) : Text :=
  let kept := span.length - count
  let (before, behind) := if fromEnd then (kept, 0) else (0, kept)
  span.mapIdx fun i c => if i < before ∨ span.length - behind ≤ i then c else mask

def apply (operator : Operator) (span : Text) (entityType : String) : Text :=
  match operator with
  | .replace (some value) => value.toList
  | .replace none => '<' :: (entityType.toList ++ ['>'])
  | .mask maskingChar charsToMask fromEnd =>
    let count := min (charsToMask.getD span.length) span.length
    overwrite (maskOf maskingChar) count fromEnd span
  | .redact => []
  | .hash => Sha256.hexDigest (Text.toUtf8 span)

end Operator
end PiiScan
