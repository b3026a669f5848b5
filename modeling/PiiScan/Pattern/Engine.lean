import PiiScan.Pattern.Reader
import PiiScan.Pattern.Search

/-!
This module contains what rules need of an engine for patterns, which may be any that compiles
patterns and searches texts for their matches. The one that is used when none is given reads a
pattern itself.
-/

namespace PiiScan

/--
A compiled pattern: its successive matches in a text.
-/
structure Matcher where
  allMatches : Text → List Match

/--
An engine compiles a pattern, or reports why it cannot. It may do so without a reason.
-/
structure PatternEngine where
  compile : String → Except (Option String) Matcher

def Residual.toMatcher (residual : Residual) : Matcher := ⟨residual.allMatches⟩

/--
The engine that searches with the residuals of a pattern. It gives no reasons.
-/
def PatternEngine.standard : PatternEngine where
  compile pattern :=
    match Pattern.ofText? pattern.toList with
    | none => .error none
    | some pattern => .ok pattern.residual.toMatcher

end PiiScan
