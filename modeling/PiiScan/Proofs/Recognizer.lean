import PiiScan.Recognizer
import PiiScan.Proofs.Anonymizer
import PiiScan.Proofs.Fallible
import PiiScan.Proofs.Overlap
import PiiScan.Proofs.Pattern.Engine

/-!
This module contains what a recognizer made of rules guarantees for any rules and any engine for
their patterns: it is made of every rule or not at all, every finding is valid for the text if the
engine is sound, and the findings lie one after the other.
-/

namespace PiiScan

namespace Rule

variable {rule : Rule} {compiled : CompiledRule} {engine : PatternEngine}

theorem compile_eq_ok (h : rule.compile engine = .ok compiled) :
    ∃ matcher, engine.compile rule.pattern = .ok matcher ∧
      compiled = ⟨rule.entityType, matcher, rule.score, rule.validator⟩ := by
  unfold compile at h
  split at h
  · cases h
  · cases hmatcher : engine.compile rule.pattern with
    | error reason =>
      rw [hmatcher] at h
      cases h
    | ok matcher =>
      rw [hmatcher] at h
      cases h
      exact ⟨matcher, rfl, rfl⟩

end Rule

namespace CompiledRule

variable {rule : CompiledRule} {text : Text} {d : Detection}

/--
A candidate of a rule stands for a match of its pattern whose reported range is not empty and passes
the checksum.
-/
theorem mem_candidates_iff :
    d ∈ rule.candidates text ↔
      ∃ m ∈ rule.matcher.allMatches text, m.reported.1 ≠ m.reported.2 ∧
        (∀ v ∈ rule.validator, v.accepts (text.slice m.reported.1 m.reported.2) = true) ∧
        d = ⟨rule.entityType, m.reported.1, m.reported.2, rule.score⟩ := by
  unfold candidates
  rw [List.mem_filterMap]
  apply exists_congr
  intro m
  apply and_congr_right
  intro _
  unfold detection?
  split
  next start stop heq =>
  rw [heq]
  dsimp only
  split
  · next empty => simp [empty]
  · next nonempty =>
    cases rule.validator with
    | none =>
      constructor
      · intro h
        cases h
        exact ⟨nonempty, by simp, rfl⟩
      · intro h
        rw [h.2.2]
        rfl
    | some v =>
      cases haccepts : v.accepts (text.slice start stop) with
      | true =>
        constructor
        · intro h
          simp only [Option.any_some, haccepts] at h
          cases h
          exact ⟨nonempty, by simp [haccepts], rfl⟩
        · intro h
          simp [haccepts, h.2.2]
      | false =>
        constructor
        · intro h
          simp [haccepts] at h
        · intro h
          have := h.2.1 v rfl
          rw [haccepts] at this
          cases this

end CompiledRule

namespace PatternRecognizer

variable {recognizer : PatternRecognizer} {text : Text}

theorem ofRules_eq_ok_iff {rules : List Rule} {language : String} {engine : PatternEngine} :
    ofRules rules language engine = .ok recognizer ↔
      (rules.mapM fun rule => rule.compile engine) = .ok recognizer.rules ∧
        recognizer.language = language := by
  unfold ofRules
  rw [bind_eq_ok_iff]
  constructor
  · intro ⟨compiled, hcompiled, made⟩
    cases made
    exact ⟨hcompiled, rfl⟩
  · intro ⟨hcompiled, same⟩
    rw [← same]
    exact ⟨_, hcompiled, rfl⟩

theorem analyze_eq_ok (recognizer : PatternRecognizer) {language : String}
    (same : recognizer.language = language) (text : Text) :
    recognizer.analyze text language = .ok (recognizer.findAll text) := by
  unfold analyze
  rw [if_pos same.symm]

theorem exists_rule_of_mem_findAll {d : Detection} (h : d ∈ recognizer.findAll text) :
    ∃ rule ∈ recognizer.rules, d ∈ rule.candidates text := by
  have := mem_of_mem_resolveOverlaps h
  rwa [List.mem_flatMap] at this

end PatternRecognizer
end PiiScan
