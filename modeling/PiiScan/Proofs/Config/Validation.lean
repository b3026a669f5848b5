import PiiScan.Config.Basic
import PiiScan.Proofs.Fallible
import PiiScan.Proofs.Score.Value

/-!
This module contains what makes a configuration acceptable, and what is reported of one that is not.
-/

namespace PiiScan

theorem ServerConfig.endpoint_eq_ok_iff {config : ServerConfig} :
    (∃ endpoint, config.endpoint = .ok endpoint) ↔
      (IpAddress.ofText? config.bareHost).isSome = true := by
  unfold endpoint
  cases IpAddress.ofText? config.bareHost with
  | none => simp
  | some address => simp

theorem ServerConfig.endpoint_eq_error_iff {config : ServerConfig} {fault : Fault} :
    config.endpoint = .error fault ↔
      IpAddress.ofText? config.bareHost = none ∧
        fault = .config ("Invalid host '" ++ config.host ++ "': invalid IP address syntax") := by
  unfold endpoint
  cases IpAddress.ofText? config.bareHost with
  | none => simp [eq_comm]
  | some address => simp

theorem Rule.isUnit_defaults : ∀ rule ∈ Rule.defaults, rule.score.isUnit = true := by
  decide

namespace Config

structure IsAcceptable (config : Config) : Prop where
  workers : config.server.workers ≠ 0
  language : config.recognizer.language ≠ ""
  scores : ∀ rule ∈ config.recognizer.rules, rule.score.isUnit = true
  host : (IpAddress.ofText? config.server.bareHost).isSome = true

def scoreFault (rule : Rule) : Fault :=
  .config ("Score " ++ rule.score.plain ++ " for entity '" ++ rule.entityType ++
    "' is outside [0, 1]")

variable {config : Config}

theorem validate_of_workers (workers : config.server.workers = 0) :
    config.validate = .error (.config "server.workers must be at least 1") :=
  if_pos workers

theorem validate_of_language (workers : config.server.workers ≠ 0)
    (language : config.recognizer.language = "") :
    config.validate = .error (.config "recognizer.language must not be empty") := by
  unfold validate
  rw [if_neg workers, if_pos language]

/--
Of several rules with a bad score the first is reported.
-/
theorem validate_of_score {rule : Rule} (workers : config.server.workers ≠ 0)
    (language : config.recognizer.language ≠ "")
    (first : IsFirst (fun r => ¬r.score.InUnitInterval) config.recognizer.rules rule) :
    config.validate = .error (scoreFault rule) := by
  have found : (config.recognizer.rules.find? fun r => !r.score.isUnit) = some rule := by
    rw [IsFirst.find?_eq_some_iff]
    simpa [← Score.isUnit_iff] using first
  unfold validate
  rw [if_neg workers, if_neg language, found]
  rfl

theorem validate_of_scores (workers : config.server.workers ≠ 0)
    (language : config.recognizer.language ≠ "")
    (scores : ∀ rule ∈ config.recognizer.rules, rule.score.InUnitInterval) :
    config.validate = config.server.endpoint.map fun _ => () := by
  have found : (config.recognizer.rules.find? fun r => !r.score.isUnit) = none := by
    simpa [List.find?_eq_none, Score.isUnit_iff] using scores
  unfold validate
  rw [if_neg workers, if_neg language, found]

theorem validate_eq_ok_iff : config.validate = .ok () ↔ config.IsAcceptable := by
  constructor
  · intro h
    have workers : config.server.workers ≠ 0 := by
      intro none
      rw [validate_of_workers none] at h
      cases h
    have language : config.recognizer.language ≠ "" := by
      intro none
      rw [validate_of_language workers none] at h
      cases h
    have scores : ∀ rule ∈ config.recognizer.rules, rule.score.InUnitInterval := by
      intro rule hrule
      by_contra bad
      obtain ⟨first, hfirst⟩ : ∃ first,
          IsFirst (fun r => ¬r.score.InUnitInterval) config.recognizer.rules first :=
        IsFirst.exists_iff.mpr ⟨rule, hrule, bad⟩
      rw [validate_of_score workers language hfirst] at h
      cases h
    rw [validate_of_scores workers language scores] at h
    refine ⟨workers, language, ?_, ?_⟩
    · intro rule hrule
      exact Score.isUnit_iff.mpr (scores rule hrule)
    · rw [← ServerConfig.endpoint_eq_ok_iff]
      cases hendpoint : config.server.endpoint with
      | error fault =>
        rw [hendpoint] at h
        cases h
      | ok endpoint => exact ⟨endpoint, rfl⟩
  · intro accepted
    have scores : ∀ rule ∈ config.recognizer.rules, rule.score.InUnitInterval := by
      intro rule hrule
      exact Score.isUnit_iff.mp (accepted.scores rule hrule)
    obtain ⟨endpoint, hendpoint⟩ := ServerConfig.endpoint_eq_ok_iff.mpr accepted.host
    rw [validate_of_scores accepted.workers accepted.language scores, hendpoint]
    rfl

end Config
end PiiScan
