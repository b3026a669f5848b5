import PiiScan.Proofs.Config.Validation
import PiiScan.Proofs.Pattern.Engine

/-!
This module contains how the check of a configuration and the construction of its scanner agree on
the rules, whatever engine there is for their patterns. Both go through the rules in order and stop
at the first one that they refuse: the check at a score outside of the unit interval, the
construction at such a score or at a pattern that the engine refuses.
-/

namespace PiiScan
namespace Rule

variable {engine : PatternEngine} {rule : Rule} {fault : Fault}

def IsMalformed (engine : PatternEngine) (rule : Rule) : Prop :=
  ∃ reason, engine.compile rule.pattern = .error reason

def IsFaulty (engine : PatternEngine) (rule : Rule) : Prop :=
  ¬rule.score.InUnitInterval ∨ rule.IsMalformed engine

theorem isFaulty_iff_of_score (score : rule.score.InUnitInterval) :
    rule.IsFaulty engine ↔ rule.IsMalformed engine :=
  or_iff_right (not_not_intro score)

/--
A bad score is reported even when the pattern is malformed as well.
-/
theorem compile_eq_error_iff :
    rule.compile engine = .error fault ↔
      (¬rule.score.InUnitInterval ∧
        fault = .invalidPattern rule.entityType (some rule.scoreReason)) ∨
      (rule.score.InUnitInterval ∧ ∃ reason, engine.compile rule.pattern = .error reason ∧
        fault = .invalidPattern rule.entityType reason) := by
  unfold compile
  rw [← Score.isUnit_iff]
  cases rule.score.isUnit with
  | false => simp [eq_comm]
  | true => cases engine.compile rule.pattern <;> simp [eq_comm]

theorem exists_compile_eq_error_iff :
    (∃ fault, rule.compile engine = .error fault) ↔ rule.IsFaulty engine := by
  simp only [compile_eq_error_iff, IsFaulty]
  constructor
  · intro ⟨fault, h⟩
    rcases h with ⟨score, -⟩ | ⟨-, reason, refused, -⟩
    · exact .inl score
    · exact .inr ⟨reason, refused⟩
  · intro h
    by_cases score : rule.score.InUnitInterval
    · obtain ⟨reason, refused⟩ := (isFaulty_iff_of_score score).mp h
      exact ⟨_, .inr ⟨score, reason, refused, rfl⟩⟩
    · exact ⟨_, .inl ⟨score, rfl⟩⟩

end Rule

namespace Scanner

variable {engine : PatternEngine} {config : Config} {fault : Fault}

/--
A scanner is made unless a rule is faulty, and the first such rule is reported.
-/
theorem ofConfig_eq_error_iff :
    ofConfig config engine = .error fault ↔
      ∃ rule, IsFirst (Rule.IsFaulty engine) config.recognizer.rules rule ∧
        rule.compile engine = .error fault := by
  have made : ofConfig config engine = .error fault ↔
      (config.recognizer.rules.mapM fun rule => rule.compile engine) = .error fault := by
    unfold ofConfig PatternRecognizer.ofRules
    cases config.recognizer.rules.mapM fun rule => rule.compile engine <;>
      simp [bind, Except.bind, pure, Except.pure]
  rw [made, mapM_eq_error_iff]
  simp only [Rule.exists_compile_eq_error_iff]

theorem exists_ofConfig_eq_error_iff :
    (∃ fault, ofConfig config engine = .error fault) ↔
      ∃ rule ∈ config.recognizer.rules, rule.IsFaulty engine := by
  rw [← IsFirst.exists_iff]
  simp only [ofConfig_eq_error_iff]
  constructor
  · intro ⟨_, rule, first, _⟩
    exact ⟨rule, first⟩
  · intro ⟨rule, first⟩
    obtain ⟨fault, fails⟩ := Rule.exists_compile_eq_error_iff.mpr first.1
    exact ⟨fault, rule, first, fails⟩

/--
Among rules with good scores the first malformed pattern is reported, for the reason that the engine
gives.
-/
theorem ofConfig_eq_error_iff_of_scores
    (scores : ∀ rule ∈ config.recognizer.rules, rule.score.InUnitInterval) :
    ofConfig config engine = .error fault ↔
      ∃ rule reason, IsFirst (Rule.IsMalformed engine) config.recognizer.rules rule ∧
        engine.compile rule.pattern = .error reason ∧
        fault = .invalidPattern rule.entityType reason := by
  have faulty : ∀ rule ∈ config.recognizer.rules,
      rule.IsFaulty engine ↔ rule.IsMalformed engine := by
    intro rule hrule
    exact Rule.isFaulty_iff_of_score (scores rule hrule)
  rw [ofConfig_eq_error_iff]
  apply exists_congr
  intro rule
  rw [IsFirst.congr faulty, exists_and_left]
  apply and_congr_right
  intro first
  have score := scores rule first.mem
  rw [Rule.compile_eq_error_iff]
  simp [score]

theorem inUnitInterval_of_ofConfig_eq_ok {scanner : Scanner}
    (made : ofConfig config engine = .ok scanner) :
    ∀ rule ∈ config.recognizer.rules, rule.score.InUnitInterval := by
  intro rule hrule
  by_contra score
  obtain ⟨fault, failed⟩ := exists_ofConfig_eq_error_iff.mpr ⟨rule, hrule, .inl score⟩
  rw [made] at failed
  cases failed

end Scanner

namespace Config

theorem validate_eq_error_of_scores {config : Config} {fault : Fault}
    (scores : ∀ rule ∈ config.recognizer.rules, rule.score.InUnitInterval)
    (refused : config.validate = .error fault) :
    (config.server.workers = 0 ∧ fault = .config "server.workers must be at least 1") ∨
    (config.recognizer.language = "" ∧ fault = .config "recognizer.language must not be empty") ∨
    (IpAddress.ofText? config.server.bareHost = none ∧ fault = .config
      ("Invalid host '" ++ config.server.host ++ "': invalid IP address syntax")) := by
  by_cases workers : config.server.workers = 0
  · rw [validate_of_workers workers] at refused
    cases refused
    exact .inl ⟨workers, rfl⟩
  by_cases language : config.recognizer.language = ""
  · rw [validate_of_language workers language] at refused
    cases refused
    exact .inr (.inl ⟨language, rfl⟩)
  rw [validate_of_scores workers language scores] at refused
  cases bound : config.server.endpoint with
  | ok endpoint =>
    rw [bound] at refused
    cases refused
  | error reported =>
    rw [bound] at refused
    cases refused
    exact .inr (.inr (ServerConfig.endpoint_eq_error_iff.mp bound))

/--
The check of a configuration and the construction of its scanner agree on the rules, for every
engine. Once the check is passed, a scanner can be made unless a pattern is malformed; the first
such rule is reported with the reason of the engine, and never a score, unless the engine itself
says the same. Once a scanner is made, all scores are numbers from zero to one, and the check can
fail on the workers, the language or the host only. In general the construction reports the first
rule with a bad score or a malformed pattern, and the check the first rule with a bad score.
-/
theorem validate_agrees_with_ofConfig (engine : PatternEngine) (config : Config) :
    (config.validate = .ok () →
      ((∃ fault, Scanner.ofConfig config engine = .error fault) ↔
        ∃ rule ∈ config.recognizer.rules, rule.IsMalformed engine) ∧
      (∀ fault, Scanner.ofConfig config engine = .error fault ↔
        ∃ rule reason, IsFirst (Rule.IsMalformed engine) config.recognizer.rules rule ∧
          engine.compile rule.pattern = .error reason ∧
          fault = .invalidPattern rule.entityType reason) ∧
      (∀ rule ∈ config.recognizer.rules, rule.score.InUnitInterval) ∧
      ∀ rule : Rule,
        (∀ pattern, engine.compile pattern ≠ .error (some rule.scoreReason)) →
          ∀ entityType, Scanner.ofConfig config engine ≠
            .error (.invalidPattern entityType (some rule.scoreReason))) ∧
    ((∃ scanner, Scanner.ofConfig config engine = .ok scanner) →
      (∀ rule ∈ config.recognizer.rules, rule.score.InUnitInterval) ∧
      ∀ fault, config.validate = .error fault →
        (config.server.workers = 0 ∧ fault = .config "server.workers must be at least 1") ∨
        (config.recognizer.language = "" ∧
          fault = .config "recognizer.language must not be empty") ∨
        (IpAddress.ofText? config.server.bareHost = none ∧ fault = .config
          ("Invalid host '" ++ config.server.host ++ "': invalid IP address syntax"))) ∧
    (∀ fault, Scanner.ofConfig config engine = .error fault ↔
      ∃ rule, IsFirst (Rule.IsFaulty engine) config.recognizer.rules rule ∧
        ((¬rule.score.InUnitInterval ∧
            fault = .invalidPattern rule.entityType (some rule.scoreReason)) ∨
          (rule.score.InUnitInterval ∧ ∃ reason, engine.compile rule.pattern = .error reason ∧
            fault = .invalidPattern rule.entityType reason))) ∧
    (config.server.workers ≠ 0 → config.recognizer.language ≠ "" →
      ∀ rule, IsFirst (fun r => ¬r.score.InUnitInterval) config.recognizer.rules rule →
        config.validate = .error (.config ("Score " ++ rule.score.plain ++ " for entity '" ++
          rule.entityType ++ "' is outside [0, 1]"))) := by
  refine ⟨?_, ?_, ?_, ?_⟩
  · intro accepted
    have scores : ∀ rule ∈ config.recognizer.rules, rule.score.InUnitInterval := by
      intro rule hrule
      exact Score.isUnit_iff.mp ((validate_eq_ok_iff.mp accepted).scores rule hrule)
    have reported :=
      fun fault => @Scanner.ofConfig_eq_error_iff_of_scores engine config fault scores
    refine ⟨?_, reported, scores, ?_⟩
    · rw [Scanner.exists_ofConfig_eq_error_iff]
      apply exists_congr
      intro rule
      apply and_congr_right
      intro hrule
      exact Rule.isFaulty_iff_of_score (scores rule hrule)
    · intro rule unsaid entityType failed
      obtain ⟨refused, reason, -, said, same⟩ := (reported _).mp failed
      cases same
      exact unsaid refused.pattern said
  · intro ⟨scanner, made⟩
    have scores := Scanner.inUnitInterval_of_ofConfig_eq_ok made
    exact ⟨scores, fun fault => validate_eq_error_of_scores scores⟩
  · intro fault
    simp only [Scanner.ofConfig_eq_error_iff, Rule.compile_eq_error_iff]
  · intro workers language rule
    exact validate_of_score workers language

/--
The score of the first rule is the negative zero, which is in range. The second rule has a malformed
pattern, and in the second configuration also a score that is not a number.
-/
theorem ofConfig_reports_first_faulty_rule :
    let ticket : Rule := ⟨"TICKET", "T-\\d+", ⟨0x8000000000000000⟩, none⟩
    let order (score : Score) : Rule := ⟨"ORDER", "[", score, none⟩
    let batch : Rule := ⟨"BATCH", "(", .zero, none⟩
    let malformed : Config := { recognizer := { rules := [ticket, order .one, batch] } }
    let unscored : Config :=
      { recognizer := { rules := [ticket, order ⟨0x7FF8000000000000⟩, batch] } }
    let unbound : Config :=
      { server := { host := "localhost" }, recognizer := { rules := [ticket] } }
    (malformed.validate = .ok () ∧
      Scanner.ofConfig malformed = .error (.invalidPattern "ORDER" none)) ∧
    (Scanner.ofConfig unscored =
        .error (.invalidPattern "ORDER" (some "score NaN outside [0, 1]")) ∧
      unscored.validate = .error (.config "Score NaN for entity 'ORDER' is outside [0, 1]")) ∧
    ((∃ scanner, Scanner.ofConfig unbound = .ok scanner) ∧ ticket.score.InUnitInterval ∧
      ∀ fault, unbound.validate = .error fault →
        fault = .config "Invalid host 'localhost': invalid IP address syntax") := by
  intro ticket order batch malformed unscored unbound
  have ticket_score : ticket.score.InUnitInterval := Score.isUnit_iff.mp (by decide)
  have ticket_usable : ¬ticket.IsFaulty .standard := by
    intro faulty
    obtain ⟨fault, failed⟩ := Rule.exists_compile_eq_error_iff.mpr faulty
    have made : (ticket.compile .standard).toOption.isSome = true := by decide
    rw [failed] at made
    cases made
  have ticket_pattern : ¬ticket.IsMalformed .standard := by
    rwa [← Rule.isFaulty_iff_of_score ticket_score]
  have order_pattern : PatternEngine.standard.compile (order .one).pattern = .error none := by
    apply PatternEngine.standard_compile_eq_error
    change Pattern.ofText? "[".toList = none
    decide
  refine ⟨?_, ?_, ?_⟩
  · have accepted : malformed.validate = .ok () := by decide
    obtain ⟨-, construction, -⟩ := (validate_agrees_with_ofConfig .standard malformed).1 accepted
    refine ⟨accepted, (construction _).mpr ⟨order .one, none, ?_, order_pattern, rfl⟩⟩
    refine ⟨⟨none, order_pattern⟩, [ticket], [batch], rfl, ?_⟩
    exact List.forall_mem_singleton.mpr ticket_pattern
  · obtain ⟨-, -, construction, check⟩ := validate_agrees_with_ofConfig .standard unscored
    have order_score : ¬(order ⟨0x7FF8000000000000⟩).score.InUnitInterval := by
      intro unit
      exact absurd unit.isNumber (by decide)
    constructor
    · apply (construction _).mpr
      refine ⟨order ⟨0x7FF8000000000000⟩, ⟨.inl order_score, [ticket], [batch], rfl, ?_⟩,
        .inl ⟨order_score, ?_⟩⟩
      · exact List.forall_mem_singleton.mpr ticket_usable
      · decide
    · rw [check (by decide) (by decide) (order ⟨0x7FF8000000000000⟩)
        ⟨order_score, [ticket], [batch], rfl, ?_⟩]
      · decide
      · exact List.forall_mem_singleton.mpr (not_not_intro ticket_score)
  · have made : (Scanner.ofConfig unbound).toOption.isSome = true := by decide
    obtain ⟨scanner, made⟩ := Option.isSome_iff_exists.mp made
    have made := eq_ok_of_toOption made
    obtain ⟨scores, causes⟩ := (validate_agrees_with_ofConfig .standard unbound).2.1 ⟨scanner, made⟩
    refine ⟨⟨scanner, made⟩, scores ticket List.mem_cons_self, ?_⟩
    intro fault refused
    rcases causes fault refused with ⟨workers, -⟩ | ⟨language, -⟩ | ⟨-, reported⟩
    · exact absurd workers (by decide)
    · exact absurd language (by decide)
    · exact reported

end Config
end PiiScan
