import PiiScan.Detection
import PiiScan.Fault
import PiiScan.Luhn
import PiiScan.Pattern.Engine
import PiiScan.Score.Shortest

/-!
This module contains recognition rules: a pattern whose matches are findings of one entity type with
a fixed score, and a checksum that may rule out false ones.
-/

namespace PiiScan

inductive Validator where
  | luhn
  deriving DecidableEq

namespace Validator

def accepts : Validator → Text → Bool
  | .luhn, text => Luhn.isValid text

end Validator

structure Rule where
  entityType : String
  pattern : String
  score : Score
  validator : Option Validator := none
  deriving DecidableEq

structure CompiledRule where
  entityType : String
  matcher : Matcher
  score : Score
  validator : Option Validator

namespace Rule

def scoreReason (rule : Rule) : String :=
  "score " ++ rule.score.plain ++ " outside [0, 1]"

/--
Makes a rule ready for use. Its score must lie between zero and one, and the engine must take its
pattern.
-/
def compile (rule : Rule) (engine : PatternEngine := .standard) : Except Fault CompiledRule :=
  if !rule.score.isUnit then
    .error (.invalidPattern rule.entityType (some rule.scoreReason))
  else
    match engine.compile rule.pattern with
    | .error reason => .error (.invalidPattern rule.entityType reason)
    | .ok matcher => .ok ⟨rule.entityType, matcher, rule.score, rule.validator⟩

def defaults : List Rule := [
  { entityType := "EMAIL_ADDRESS"
    pattern := "\\b[A-Za-z0-9._%+-]+@[A-Za-z0-9.-]+\\.[A-Za-z]\x7b2,\x7d\\b"
    score := .ofDecimal false 1 0 },
  { entityType := "US_SSN"
    pattern := "\\b\\d\x7b3\x7d-\\d\x7b2\x7d-\\d\x7b4\x7d\\b"
    score := .ofDecimal false 85 (-2) },
  { entityType := "CREDIT_CARD"
    pattern := "\\b(?:\\d[ -]?)\x7b12,18\x7d\\d\\b"
    score := .ofDecimal false 1 0
    validator := some .luhn },
  { entityType := "PHONE_NUMBER"
    pattern :=
      "(?:\\+?1[-.\\s]?)?(?:\\(\\d\x7b3\x7d\\)|\\b\\d\x7b3\x7d)[-.\\s]?\\d\x7b3\x7d[-.\\s]?\\d\x7b4\x7d\\b"
    score := .ofDecimal false 75 (-2) },
  { entityType := "IP_ADDRESS"
    pattern :=
      "\\b(?:(?:25[0-5]|2[0-4]\\d|1?\\d?\\d)\\.)\x7b3\x7d(?:25[0-5]|2[0-4]\\d|1?\\d?\\d)\\b"
    score := .ofDecimal false 95 (-2) },
  { entityType := "URL"
    pattern := "\\bhttps?://[^\\s<>\"]+"
    score := .ofDecimal false 6 (-1) },
  { entityType := "PERSON"
    pattern :=
      "\\b(?:Mr|Mrs|Ms|Miss|Dr|Prof)\\.?\\s+(?P<entity>[A-Z][a-z]+(?:\\s+[A-Z][a-z]+)?)"
    score := .ofDecimal false 85 (-2) }]

end Rule

namespace CompiledRule

/--
The detection that a match stands for. Empty ones and those that fail the checksum are left out.
-/
def detection? (rule : CompiledRule) (text : Text) (m : Match) : Option Detection :=
  let (start, stop) := m.reported
  if start = stop then none
  else if rule.validator.any fun v => !v.accepts (text.slice start stop) then none
  else some ⟨rule.entityType, start, stop, rule.score⟩

def candidates (rule : CompiledRule) (text : Text) : List Detection :=
  (rule.matcher.allMatches text).filterMap (rule.detection? text)

end CompiledRule
end PiiScan
