import PiiScan.Config.Document
import PiiScan.Proofs.Config.Deletion
import PiiScan.Proofs.Config.Validation

/-!
This module contains the way back from a printed configuration: the document that is printed for an
acceptable configuration is read as this configuration, and what is left of the document when
optional members have been deleted is read as the configuration with the defaults in their places,
which is acceptable too.
-/

namespace PiiScan

open Json (Path Step within)

/-! ### Documents that hold an object -/

namespace Json

theorem Numeral.toJson_ne_object (numeral : Numeral) (members : List (Option Text × Json)) :
    numeral.toJson ≠ .object members := by
  intro h
  unfold toJson at h
  simp only at h
  split at h
  · cases h
  · split at h
    · cases h
    · split at h <;> cases h

theorem head?_of_readValue_object {fuel : Nat} {text rest : List Char}
    {members : List (Option Text × Json)} (h : readValue fuel text = some (.object members, rest)) :
    (skipBlanks text).head? = some '{' := by
  cases fuel with
  | zero => simp [readValue] at h
  | succ fuel =>
    rw [readValue] at h
    split at h
    · simp at h
    · simp at h
    · simp at h
    · split at h <;> simp at h
    · split at h <;> simp at h
    · next opened => rw [opened, List.head?_cons]
    · obtain ⟨⟨numeral, tail⟩, -, same⟩ := Option.map_eq_some_iff.mp h
      exact absurd (Prod.mk.inj same).1 (numeral.toJson_ne_object members)

theorem isBlank_of_isBlank {c : Char} (h : isBlank c = true) : Unicode.isBlank c = true := by
  simp only [isBlank, Bool.or_eq_true, beq_iff_eq] at h
  rcases h with ((rfl | rfl) | rfl) | rfl <;> decide

theorem trimStart_skipBlanks (text : List Char) :
    Unicode.trimStart (skipBlanks text) = Unicode.trimStart text := by
  induction text with
  | nil => rfl
  | cons c text ih =>
    cases h : isBlank c with
    | true => simpa [skipBlanks, Unicode.trimStart, h, isBlank_of_isBlank h] using ih
    | false => rw [skipBlanks_cons h]

theorem isJson_of_ofText? {document : Text} {members : List (Option Text × Json)}
    (h : ofText? document = some (.object members)) : Config.isJson document = true := by
  unfold ofText? at h
  split at h
  · next read =>
    split at h
    · cases h
      have opened := head?_of_readValue_object read
      obtain ⟨rest, starts⟩ := List.head?_eq_some_iff.mp opened
      have notBlank : Unicode.isBlank '{' = false := by decide
      unfold Config.isJson
      rw [← trimStart_skipBlanks, starts]
      simp [Unicode.trimStart, notBlank]
    · cases h
  · cases h

end Json

/-! ### Acceptable configurations -/

theorem ServerConfig.isAcceptable_without {config : ServerConfig} (deleted : Path → Bool)
    (workers : config.workers ≠ 0)
    (host : (IpAddress.ofText? config.bareHost).isSome = true) :
    (config.without deleted).workers ≠ 0 ∧
      (IpAddress.ofText? (config.without deleted).bareHost).isSome = true := by
  constructor
  · simp only [without]
    split
    · decide
    · exact workers
  · simp only [without, bareHost]
    split
    · decide
    · exact host

theorem RecognizerConfig.isAcceptable_without {config : RecognizerConfig} (deleted : Path → Bool)
    (language : config.language ≠ "") (scores : ∀ rule ∈ config.rules, rule.score.isUnit = true) :
    (config.without deleted).language ≠ "" ∧
      ∀ rule ∈ (config.without deleted).rules, rule.score.isUnit = true := by
  constructor
  · simp only [without]
    split
    · decide
    · exact language
  · simp only [without]
    split
    · exact Rule.isUnit_defaults
    · intro rule hrule
      obtain ⟨index, hindex, rfl⟩ := List.mem_mapIdx.mp hrule
      have unit := scores _ (List.getElem_mem hindex)
      exact unit

namespace Config

variable {config : Config}

theorem isAcceptable_default : ({} : Config).IsAcceptable := by
  constructor
  · decide
  · decide
  · exact Rule.isUnit_defaults
  · decide

/--
The defaults never make an acceptable configuration a faulty one.
-/
theorem isAcceptable_without (deleted : Path → Bool) (accepted : config.IsAcceptable) :
    (config.without deleted).IsAcceptable := by
  have server := ServerConfig.isAcceptable_without (within deleted (.member "server"))
    accepted.workers accepted.host
  have recognizer := RecognizerConfig.isAcceptable_without
    (within deleted (.member "recognizer")) accepted.language accepted.scores
  unfold without
  constructor
  · simp only
    split
    · exact isAcceptable_default.workers
    · exact server.1
  · simp only
    split
    · exact isAcceptable_default.language
    · exact recognizer.1
  · simp only
    split
    · exact isAcceptable_default.scores
    · exact recognizer.2
  · simp only
    split
    · exact isAcceptable_default.host
    · exact server.2

theorem ofText_of_ofText? {document : Text} {members : List (Option Text × Json)}
    (h : Json.ofText? document = some (.object members))
    (read : ofJson? .json (.object members) = some config) (accepted : config.IsAcceptable)
    (diagnosis : Diagnosis) : ofText document diagnosis = .ok config := by
  unfold ofText Config.read
  rw [if_pos (Json.isJson_of_ofText? h), h, Option.bind_some, read]
  simp only [bind, Except.bind, validate_eq_ok_iff.mpr accepted]
  rfl

/--
A configuration that has been printed can be loaded again, as a whole or without any of its optional
members, however the rest is laid out and whatever is said about other documents. What has been
deleted has its default, and everything else is as it was. The numbers of the scores have to be read
as they were printed.
-/
theorem ofText_printed_without (wellFormed : config.WellFormed)
    (accepted : config.validate = .ok ())
    (readBack : ∀ rule ∈ config.recognizer.rules, rule.score.IsReadBack)
    (diagnosis : Diagnosis) :
    ofText config.toJson.pretty diagnosis = .ok config ∧
    ∀ deleted : Path → Bool, (∀ path, Required path → deleted path = false) →
      ofText (config.toJson.without deleted).pretty diagnosis = .ok (config.without deleted) ∧
      ∀ document, Json.ofText? document = some (config.toJson.without deleted) →
        ofText document diagnosis = .ok (config.without deleted) := by
  have printable := isPrintable_toJson wellFormed readBack
  have accepted := validate_eq_ok_iff.mp accepted
  have anyLayout : ∀ deleted : Path → Bool, (∀ path, Required path → deleted path = false) →
      ∀ document, Json.ofText? document = some (config.toJson.without deleted) →
        ofText document diagnosis = .ok (config.without deleted) := by
    intro deleted kept document read
    have loaded := ofJson?_without deleted kept wellFormed
    exact ofText_of_ofText? read loaded (isAcceptable_without deleted accepted) diagnosis
  have printed : ∀ deleted : Path → Bool, (∀ path, Required path → deleted path = false) →
      ofText (config.toJson.without deleted).pretty diagnosis = .ok (config.without deleted) := by
    intro deleted kept
    apply anyLayout deleted kept
    exact Json.ofText?_pretty (Json.isPrintable_without deleted _ printable)
  constructor
  · have whole := printed (fun _ => false) fun _ _ => rfl
    rwa [Json.without_nothing, without_nothing] at whole
  · intro deleted kept
    exact ⟨printed deleted kept, anyLayout deleted kept⟩

def badges : Config where
  server := { port := 6000, maxMessageBytes := some 1048576 }
  recognizer := { rules := [
    ⟨"BADGE", "B-\\d+", .ofDecimal false 85 (-2), some .luhn⟩,
    ⟨"CARD", "C-\\d+", .ofDecimal false 85 (-2), some .luhn⟩] }
  anonymizer := {
    defaultOperator := .mask "#" (some 4) true
    overrides := [("CARD", .replace (some "\"é\n")), ("BADGE", .hash)] }

/--
The port, the masking text and the checksum of the first rule.
-/
def someMembers (path : Path) : Bool := path ∈ [
  [.member "server", .member "port"],
  [.member "recognizer", .member "rules", .item 0, .member "validator"],
  [.member "anonymizer", .member "default_operator", .member "masking_char"]]

theorem ofText_printed_badges :
    badges.WellFormed ∧ badges.validate = .ok () ∧
      (∀ rule ∈ badges.recognizer.rules, rule.score.IsReadBack) ∧
      (∀ path, Required path → someMembers path = false) ∧
      ofText (badges.toJson.without someMembers).pretty = .ok {
        server := { maxMessageBytes := some 1048576 }
        recognizer := { rules := [
          ⟨"BADGE", "B-\\d+", .ofDecimal false 85 (-2), none⟩,
          ⟨"CARD", "C-\\d+", .ofDecimal false 85 (-2), some .luhn⟩] }
        anonymizer := {
          defaultOperator := .mask "*" (some 4) true
          overrides := [("CARD", .replace (some "\"é\n")), ("BADGE", .hash)] } } := by
  have wellFormed : badges.WellFormed := by
    have masked : (4 : Nat) < 2 ^ 64 := by decide
    refine ⟨⟨by decide, ?_, by decide⟩, ⟨masked, ?_, by decide⟩⟩
    · rintro _ ⟨⟩
      decide
    · intro override hoverride
      rcases List.mem_cons.mp hoverride with rfl | hoverride
      · trivial
      · rw [List.mem_singleton.mp hoverride]
        trivial
  have accepted : badges.validate = .ok () := by
    apply validate_eq_ok_iff.mpr
    exact ⟨by decide, by decide, by decide, by decide⟩
  have readBack : ∀ rule ∈ badges.recognizer.rules, rule.score.IsReadBack := by
    have score : (Score.ofDecimal false 85 (-2)).IsReadBack :=
      ⟨⟨false, [0], [8, 5], true, none⟩, by rfl, by rfl⟩
    intro rule hrule
    rcases List.mem_cons.mp hrule with rfl | hrule
    · exact score
    · rw [List.mem_singleton.mp hrule]
      exact score
  have kept : ∀ path, Required path → someMembers path = false := by
    intro path required
    apply decide_eq_false
    cases required with
    | recognizer required =>
      cases required with
      | rule index required => cases required <;> simp
    | anonymizer required =>
      cases required with
      | defaultOperator required => cases required; simp
      | override entityType => simp
      | overrideOperator entityType required => cases required; simp
  refine ⟨wellFormed, accepted, readBack, kept, ?_⟩
  exact ((ofText_printed_without wellFormed accepted readBack .silent).2 someMembers kept).1

end Config
end PiiScan
