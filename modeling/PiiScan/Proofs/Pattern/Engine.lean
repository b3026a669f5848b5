import PiiScan.Pattern.Engine
import PiiScan.Proofs.Pattern.Range

/-!
This module contains what is relied on of an engine for patterns. Whatever it takes for a match, the
ranges that it reports must be ranges of the text: matches and entity groups begin and end between
code points, a group lies inside of its match, and successive matches do not overlap. The standard
engine keeps to this.
-/

namespace PiiScan

/--
A compiled pattern is sound when its matches fit every text and each begins where the one before it
ends or later.
-/
structure Matcher.IsSound (matcher : Matcher) : Prop where
  fits : ∀ text, ∀ m ∈ matcher.allMatches text, m.Fits text 0
  apart : ∀ text, (matcher.allMatches text).Pairwise fun a b => a.stop ≤ b.start

/--
An engine is sound when all that it compiles is.
-/
def PatternEngine.IsSound (engine : PatternEngine) : Prop :=
  ∀ pattern matcher, engine.compile pattern = .ok matcher → matcher.IsSound

namespace Matcher.IsSound

variable {matcher : Matcher} {text : Text} {m m' : Match}

/--
Two matches in a text are the same, or one lies behind the other.
-/
theorem eq_or_apart (sound : matcher.IsSound) (h : m ∈ matcher.allMatches text)
    (h' : m' ∈ matcher.allMatches text) : m = m' ∨ m.stop ≤ m'.start ∨ m'.stop ≤ m.start := by
  apply eq_or_of_mem_pairwise _ h h'
  exact sound.apart text

end Matcher.IsSound

theorem Residual.isSound_toMatcher (residual : Residual) : residual.toMatcher.IsSound := by
  constructor
  · intro text
    exact residual.allMatches_fits
  · intro text
    exact residual.allMatches_pairwise

namespace PatternEngine

theorem standard_compile_eq_ok {pattern : String} {matcher : Matcher} :
    standard.compile pattern = .ok matcher ↔
      ∃ p, Pattern.ofText? pattern.toList = some p ∧ matcher = p.residual.toMatcher := by
  simp only [standard]
  cases Pattern.ofText? pattern.toList with
  | none => simp
  | some p => simp [eq_comm]

theorem standard_compile_eq_error {pattern : String} (h : Pattern.ofText? pattern.toList = none) :
    standard.compile pattern = .error none := by
  simp only [standard, h]

end PatternEngine
end PiiScan
