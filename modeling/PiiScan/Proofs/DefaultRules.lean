import PiiScan.Proofs.Card.Pattern
import PiiScan.Proofs.Recognizer

/-!
This module contains what is known about the default rules: they can be used, none of them scores
higher than those for e-mail addresses and card numbers, and an e-mail address ends with a letter.
-/

namespace PiiScan
namespace PatternRecognizer

theorem exists_defaults : ∃ recognizer, defaults = .ok recognizer := by
  have made : defaults.toOption.isSome = true := by
    decide +kernel
  obtain ⟨recognizer, h⟩ := Option.isSome_iff_exists.mp made
  exact ⟨recognizer, eq_ok_of_toOption h⟩

end PatternRecognizer

/-! ### E-mail addresses -/

namespace Residual

def EndsWith (set : CharSet) (residual : Residual) : Prop :=
  ∀ place trail, ∀ e ∈ residual.endings place trail,
    ∃ c, e.1.before = some c ∧ set.contains c = true

variable {set : CharSet} {first second : Residual}

theorem mem_endings_cat {place : Place} {trail : Trail} {e : Place × Trail} :
    e ∈ (cat first second).endings place trail ↔
      ∃ e' ∈ first.endings place trail, e ∈ second.endings e'.1 e'.2 := by
  rw [endings_cat, List.mem_flatMap]

def KeepsEntity (residual : Residual) : Prop :=
  ∀ place trail, ∀ e ∈ residual.endings place trail, e.2.entity = trail.entity

theorem keepsEntity_chars {number : Nat} : (chars number set).KeepsEntity := by
  intro place trail e he
  rw [endings_chars] at he
  obtain ⟨next, -, rfl⟩ := List.mem_map.mp he
  rfl

theorem keepsEntity_look {condition : Look} : (look condition).KeepsEntity := by
  intro place trail e he
  rw [endings_look] at he
  split at he
  · rw [List.mem_singleton.mp he]
  · cases he

theorem KeepsEntity.cat (hfirst : first.KeepsEntity) (hsecond : second.KeepsEntity) :
    (Residual.cat first second).KeepsEntity := by
  intro place trail e he
  obtain ⟨e', he', he⟩ := mem_endings_cat.mp he
  rw [hsecond _ _ e he, hfirst _ _ e' he']

theorem EndsWith.cat (h : second.EndsWith set) : (cat first second).EndsWith set := by
  intro place trail e he
  obtain ⟨e', -, he⟩ := mem_endings_cat.mp he
  exact h _ _ e he

theorem EndsWith.cat_look {condition : Look} (h : first.EndsWith set) :
    (Residual.cat first (look condition)).EndsWith set := by
  intro place trail e he
  obtain ⟨e', he', he⟩ := mem_endings_cat.mp he
  rw [endings_look] at he
  split at he
  · rw [List.mem_singleton.mp he]
    exact h _ _ e' he'
  · cases he

theorem mem_endings_read_chars {place : Place} {trail : Trail} {number : Nat} {o : Outcome}
    {f : Residual → Residual} {e : Place × Trail}
    (ho : o ∈ (chars number set).outcomes place trail)
    (he : e ∈ (o.mapRest f).endings place) :
    ∃ c next, set.contains c = true ∧ place.next? = some next ∧ next.before = some c ∧
      e ∈ (f empty).endings next { trail with passed := [] } := by
  obtain ⟨c, cs, hrest, inside, rfl⟩ := mem_outcomes_chars ho
  have hnext : place.next? = some ⟨some c, place.offset + c.utf8Size, cs⟩ := by
    unfold Place.next?
    rw [hrest]
  unfold Outcome.mapRest Outcome.endings at he
  dsimp only at he
  rw [hnext] at he
  exact ⟨c, _, inside, hnext, rfl, he⟩

theorem endings_again_chars {place : Place} {trail : Trail} {greedy : Bool} {number : Nat} :
    ∀ e ∈ (again greedy (chars number set)).endings place trail,
      (e.1 = place ∨ ∃ c, e.1.before = some c ∧ set.contains c = true) ∧
        e.2.entity = trail.entity := by
  induction place using Place.next_induction generalizing trail with
  | step place ih =>
    intro e he
    rw [endings_eq] at he
    obtain ⟨o, ho, hmem⟩ := List.mem_flatMap.mp he
    cases mem_outcomes_again ho with
    | inl stops =>
      rw [stops] at hmem
      rw [List.mem_singleton.mp hmem]
      exact ⟨Or.inl rfl, rfl⟩
    | inr reads =>
      obtain ⟨inner, hinner, rfl⟩ := reads
      obtain ⟨c, next, inside, hnext, before, he⟩ := mem_endings_read_chars hinner hmem
      obtain ⟨reached, kept⟩ := ih next hnext e he
      refine ⟨Or.inr ?_, kept⟩
      cases reached with
      | inl here => exact ⟨c, by rw [here]; exact before, inside⟩
      | inr later => exact later

theorem endings_plus_chars {place : Place} {trail : Trail} {greedy : Bool} {number : Nat} :
    ∀ e ∈ (plus greedy (chars number set)).endings place trail,
      (∃ c, e.1.before = some c ∧ set.contains c = true) ∧ e.2.entity = trail.entity := by
  intro e he
  rw [endings_eq] at he
  obtain ⟨o, ho, hmem⟩ := List.mem_flatMap.mp he
  obtain ⟨inner, hinner, rfl⟩ := List.mem_map.mp ho
  obtain ⟨c, next, inside, -, before, he⟩ := mem_endings_read_chars hinner hmem
  obtain ⟨reached, kept⟩ := endings_again_chars e he
  refine ⟨?_, kept⟩
  cases reached with
  | inl here => exact ⟨c, by rw [here]; exact before, inside⟩
  | inr later => exact later

theorem endsWith_plus_chars {greedy : Bool} {number : Nat} :
    (plus greedy (chars number set)).EndsWith set := by
  intro place trail e he
  exact (endings_plus_chars e he).1

theorem keepsEntity_plus_chars {greedy : Bool} {number : Nat} :
    (plus greedy (chars number set)).KeepsEntity := by
  intro place trail e he
  exact (endings_plus_chars e he).2

end Residual

namespace Email

def letters : CharSet := [(0x41, 0x5A), (0x61, 0x7A)]

def pattern : Pattern :=
  .cat (.look (.wordBoundary .unicode))
    (.cat (.repetition 1 none true (.chars [(0x25, 0x25), (0x2B, 0x2B), (0x2D, 0x2E), (0x30, 0x39),
      (0x41, 0x5A), (0x5F, 0x5F), (0x61, 0x7A)]))
    (.cat (.chars [(0x40, 0x40)])
    (.cat (.repetition 1 none true
      (.chars [(0x2D, 0x2E), (0x30, 0x39), (0x41, 0x5A), (0x61, 0x7A)]))
    (.cat (.chars [(0x2E, 0x2E)])
    (.cat (.repetition 2 none true (.chars letters)) (.look (.wordBoundary .unicode)))))))

theorem ofText?_pattern :
    Pattern.ofText? "\\b[A-Za-z0-9._%+-]+@[A-Za-z0-9.-]+\\.[A-Za-z]\x7b2,\x7d\\b".toList =
      some pattern := by
  rfl

theorem residual_pattern : pattern.residual =
    .cat (.look (.wordBoundary .unicode))
      (.cat (.plus true (.chars 0 [(0x25, 0x25), (0x2B, 0x2B), (0x2D, 0x2E), (0x30, 0x39),
        (0x41, 0x5A), (0x5F, 0x5F), (0x61, 0x7A)]))
      (.cat (.chars 1 [(0x40, 0x40)])
      (.cat (.plus true (.chars 2 [(0x2D, 0x2E), (0x30, 0x39), (0x41, 0x5A), (0x61, 0x7A)]))
      (.cat (.chars 3 [(0x2E, 0x2E)])
      (.cat (.cat (.chars 4 letters) (.plus true (.chars 5 letters)))
        (.look (.wordBoundary .unicode))))))) := by
  rfl

theorem endsWith_letters : pattern.residual.EndsWith letters := by
  rw [residual_pattern]
  apply Residual.EndsWith.cat
  apply Residual.EndsWith.cat
  apply Residual.EndsWith.cat
  apply Residual.EndsWith.cat
  apply Residual.EndsWith.cat
  apply Residual.EndsWith.cat_look
  apply Residual.EndsWith.cat
  exact Residual.endsWith_plus_chars

theorem keepsEntity_pattern : pattern.residual.KeepsEntity := by
  rw [residual_pattern]
  apply Residual.KeepsEntity.cat Residual.keepsEntity_look
  apply Residual.KeepsEntity.cat Residual.keepsEntity_plus_chars
  apply Residual.KeepsEntity.cat Residual.keepsEntity_chars
  apply Residual.KeepsEntity.cat Residual.keepsEntity_plus_chars
  apply Residual.KeepsEntity.cat Residual.keepsEntity_chars
  apply Residual.KeepsEntity.cat _ Residual.keepsEntity_look
  exact Residual.KeepsEntity.cat Residual.keepsEntity_chars Residual.keepsEntity_plus_chars

theorem exists_letter_of_mem_allMatches {text : Text} {m : Match}
    (h : m ∈ pattern.residual.allMatches text) :
    m.reported = (m.start, m.stop) ∧ ∃ (read : Text) (c : Char) (rest : Text),
      text = read ++ [c] ++ rest ∧ Text.byteSize (read ++ [c]) = m.stop ∧
        letters.contains c = true := by
  obtain ⟨read, rest, stop, split, found, stopIsIn⟩ := Residual.exists_place_of_mem_allMatches h
  unfold Residual.matchBetween? firstMatch at found
  obtain ⟨e, head, same⟩ := Option.map_eq_some_iff.mp found
  have he := List.mem_of_head? head
  unfold Trail.matchAt at same
  rw [Prod.mk.injEq] at same
  obtain ⟨rfl, rfl⟩ := same
  constructor
  · unfold Match.reported
    rw [keepsEntity_pattern _ _ e he]
    rfl
  · obtain ⟨c, before, letter⟩ := endsWith_letters _ _ e he
    obtain ⟨read', rest', split', place⟩ := Place.isIn_iff.mp stopIsIn
    rw [place] at before ⊢
    obtain ⟨front, rfl⟩ := List.getLast?_eq_some_iff.mp before
    exact ⟨front, c, rest', split', rfl, letter⟩

end Email
theorem Card.compile_pattern :
    PatternEngine.standard.compile Rule.defaults[2].pattern =
      .ok Card.pattern.residual.toMatcher := by
  exact PatternEngine.standard_compile_eq_ok.mpr ⟨pattern, ofText?_pattern, rfl⟩

theorem Email.compile_pattern :
    PatternEngine.standard.compile Rule.defaults[0].pattern =
      .ok Email.pattern.residual.toMatcher := by
  exact PatternEngine.standard_compile_eq_ok.mpr ⟨pattern, ofText?_pattern, rfl⟩

namespace CompiledRule

def email : CompiledRule :=
  ⟨"EMAIL_ADDRESS", Email.pattern.residual.toMatcher, .ofDecimal false 1 0, none⟩

def card : CompiledRule :=
  ⟨"CREDIT_CARD", Card.pattern.residual.toMatcher, .ofDecimal false 1 0, some .luhn⟩

end CompiledRule

namespace PatternRecognizer

/--
One of the default rules finds card numbers, and no rule but that for e-mail addresses scores as
high.
-/
theorem rules_of_defaults {recognizer : PatternRecognizer} (h : defaults = .ok recognizer) :
    recognizer.language = "en" ∧ .card ∈ recognizer.rules ∧
      ∀ rule ∈ recognizer.rules, rule = .card ∨ rule = .email ∨
        (rule.entityType ≠ "CREDIT_CARD" ∧ rule.score.rank < CompiledRule.card.score.rank) := by
  obtain ⟨compiled, language⟩ := ofRules_eq_ok_iff.mp h
  obtain ⟨forth, back⟩ := mapM_eq_ok compiled
  refine ⟨language, ?_, ?_⟩
  · obtain ⟨compiled, hmem, ok⟩ := forth Rule.defaults[2] (List.getElem_mem _)
    obtain ⟨matcher, hmatcher, rfl⟩ := Rule.compile_eq_ok ok
    cases Card.compile_pattern.symm.trans hmatcher
    exact hmem
  · intro compiled hmem
    obtain ⟨rule, hrule, ok⟩ := back compiled hmem
    obtain ⟨matcher, hmatcher, rfl⟩ := Rule.compile_eq_ok ok
    have lower : ∀ r ∈ Rule.defaults, r = Rule.defaults[2] ∨ r = Rule.defaults[0] ∨
        (r.entityType ≠ "CREDIT_CARD" ∧ r.score.rank < CompiledRule.card.score.rank) := by
      decide
    rcases lower rule hrule with rfl | rfl | other
    · left
      cases Card.compile_pattern.symm.trans hmatcher
      rfl
    · right
      left
      cases Email.compile_pattern.symm.trans hmatcher
      rfl
    · right
      right
      exact other

end PatternRecognizer
end PiiScan
