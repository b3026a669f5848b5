import PiiScan.Proofs.Card.Match
import PiiScan.Proofs.DefaultRules

/-!
This module contains what the default rules report of a card number in a text. The pattern takes in
the digits that go on around the number before the checksum is looked at, so that a number is
reported for sure only if none do; and if the checksum fails on what has been taken in, the number
is lost.
-/

namespace PiiScan
namespace Card

variable {recognizer : PatternRecognizer} {text : Text}

theorem slice_match (read w rest : Text) :
    Text.slice (read ++ (w ++ rest)) read.byteSize (Text.byteSize (read ++ w)) = w := by
  rw [Text.byteSize_append, Text.slice_append]

theorem digit_of_letter {c : Char} (h : Email.letters.contains c = true) :
    Unicode.digit.contains c = false ∧ c ≠ ' ' ∧ c ≠ '-' := by
  have code : 65 ≤ c.toNat ∧ c.toNat ≤ 122 := by
    simp only [Email.letters, CharSet.contains, CharSet.containsCode] at h
    grind
  refine ⟨?_, ?_, ?_⟩
  · unfold CharSet.contains Unicode.digit CharSet.containsCode
    rw [if_neg (by omega), if_neg (by omega)]
    unfold CharSet.containsCode
    rw [if_pos (by omega)]
  · rintro rfl
    exact absurd code.1 (by decide)
  · rintro rfl
    exact absurd code.1 (by decide)

/--
An e-mail address that reaches into a card number reaches to its end, as it cannot end before a
letter.
-/
theorem stop_le_of_email {m m' : Match} (h : m ∈ pattern.residual.allMatches text)
    (h' : m' ∈ Email.pattern.residual.allMatches text) (overlap : m.start < m'.stop) :
    m.stop ≤ m'.stop := by
  obtain ⟨read, w, rest, rfl, rfl, n, -, -, digits⟩ := exists_of_mem_allMatches h
  obtain ⟨-, front, c, back, split, stop, letter⟩ := Email.exists_letter_of_mem_allMatches h'
  rw [← stop] at overlap ⊢
  apply Nat.le_of_not_lt
  intro before
  rw [Text.byteSize_append read] at before
  -- the address would end within the digits
  obtain ⟨w', w'', rfl, inside⟩ := Text.exists_append_of_le split.symm
    (Nat.le_of_lt overlap) (Nat.le_of_lt before)
  have mem : c ∈ w' := by
    have last := congrArg List.getLast? inside
    rw [List.getLast?_concat, List.getLast?_append] at last
    cases hw : w'.getLast? with
    | none =>
      rw [inside, List.getLast?_eq_none_iff.mp hw, List.append_nil] at overlap
      exact absurd overlap (Nat.lt_irrefl _)
    | some d =>
      rw [hw] at last
      cases last
      exact List.mem_of_getLast? hw
  obtain ⟨noDigit, noSpace, noHyphen⟩ := digit_of_letter letter
  rcases digits.digit_or_separator c (List.mem_append_left _ mem) with digit | space | hyphen
  · rw [noDigit] at digit
    cases digit
  · exact noSpace space
  · exact noHyphen hyphen

theorem reported_of_mem_allMatches {m : Match} (h : m ∈ pattern.residual.allMatches text) :
    m.reported = (m.start, m.stop) := by
  obtain ⟨read, w, rest, -, rfl, -⟩ := exists_of_mem_allMatches h
  rfl

theorem mem_candidates_card {d : Detection} :
    d ∈ CompiledRule.card.candidates text ↔ ∃ m ∈ pattern.residual.allMatches text,
      Luhn.isValid (text.slice m.start m.stop) = true ∧
        d = ⟨"CREDIT_CARD", m.start, m.stop, CompiledRule.card.score⟩ := by
  rw [CompiledRule.mem_candidates_iff]
  apply exists_congr
  intro m
  apply and_congr_right
  intro hm
  have order : m.start ≠ m.stop := by
    obtain ⟨read, w, rest, -, rfl, n, -, -, digits⟩ := exists_of_mem_allMatches hm
    have := mt Text.byteSize_eq_zero.mp digits.ne_nil
    dsimp only
    rw [Text.byteSize_append]
    omega
  rw [reported_of_mem_allMatches hm]
  constructor
  · rintro ⟨-, checksum, rfl⟩
    exact ⟨checksum .luhn rfl, rfl⟩
  · rintro ⟨checksum, rfl⟩
    refine ⟨order, ?_, rfl⟩
    intro v hv
    cases hv
    exact checksum

/--
A match that passes the checksum is reported, or something is that it lies in.
-/
theorem exists_covering_of_mem_allMatches (made : PatternRecognizer.defaults = .ok recognizer)
    {m : Match} (h : m ∈ pattern.residual.allMatches text)
    (checksum : Luhn.isValid (text.slice m.start m.stop) = true) :
    ∃ d ∈ recognizer.findAll text, d.start ≤ m.start ∧ m.stop ≤ d.stop := by
  obtain ⟨-, hcard, hrules⟩ := PatternRecognizer.rules_of_defaults made
  have candidate : ⟨"CREDIT_CARD", m.start, m.stop, CompiledRule.card.score⟩ ∈
      recognizer.rules.flatMap fun rule => rule.candidates text := by
    rw [List.mem_flatMap]
    exact ⟨.card, hcard, mem_candidates_card.mpr ⟨m, h, checksum, rfl⟩⟩
  cases exists_preferred_of_mem candidate with
  | inl reported => exact ⟨_, reported, Nat.le_refl _, Nat.le_refl _⟩
  | inr better =>
    obtain ⟨kept, reported, preferred, clash⟩ := better
    refine ⟨kept, reported, ?_⟩
    obtain ⟨rule, hrule, hkept⟩ := PatternRecognizer.exists_rule_of_mem_findAll reported
    rw [preferred_iff] at preferred
    rw [Detection.clashes_iff] at clash
    dsimp only at preferred clash
    -- only the rules for card numbers and e-mail addresses score as high
    rcases hrules rule hrule with rfl | rfl | ⟨-, lower⟩
    · obtain ⟨m', h', -, rfl⟩ := mem_candidates_card.mp hkept
      dsimp only at *
      rcases pattern.residual.isSound_toMatcher.eq_or_apart h h' with rfl | apart
      · exact ⟨Nat.le_refl _, Nat.le_refl _⟩
      · omega
    · obtain ⟨m', h', -, -, rfl⟩ := CompiledRule.mem_candidates_iff.mp hkept
      rw [(Email.exists_letter_of_mem_allMatches h').1] at *
      dsimp only at *
      have same : CompiledRule.email.score.rank = CompiledRule.card.score.rank := rfl
      constructor
      · omega
      · exact stop_le_of_email h h' clash.1
    · obtain ⟨m', -, -, -, rfl⟩ := CompiledRule.mem_candidates_iff.mp hkept
      dsimp only at *
      omega

theorem match_of_mem_findAll (made : PatternRecognizer.defaults = .ok recognizer) {d : Detection}
    (h : d ∈ recognizer.findAll text) :
    (∃ m ∈ pattern.residual.allMatches text, Luhn.isValid (text.slice m.start m.stop) = true ∧
      d = ⟨"CREDIT_CARD", m.start, m.stop, CompiledRule.card.score⟩) ∨
      d.entityType ≠ "CREDIT_CARD" := by
  obtain ⟨-, -, hrules⟩ := PatternRecognizer.rules_of_defaults made
  obtain ⟨rule, hrule, candidate⟩ := PatternRecognizer.exists_rule_of_mem_findAll h
  rcases hrules rule hrule with rfl | rfl | ⟨other, -⟩
  · left
    exact mem_candidates_card.mp candidate
  · right
    obtain ⟨m, -, -, -, rfl⟩ := CompiledRule.mem_candidates_iff.mp candidate
    have : CompiledRule.email.entityType ≠ "CREDIT_CARD" := by decide
    exact this
  · right
    obtain ⟨m, -, -, -, rfl⟩ := CompiledRule.mem_candidates_iff.mp candidate
    exact other

theorem exists_overlapping_iff (made : PatternRecognizer.defaults = .ok recognizer)
    (start stop : Nat) :
    (∃ d ∈ recognizer.findAll text, d.start < stop ∧ start < d.stop) ↔
      (∃ m ∈ pattern.residual.allMatches text, m.start < stop ∧ start < m.stop ∧
        Luhn.isValid (text.slice m.start m.stop) = true) ∨
      ∃ d ∈ recognizer.findAll text,
        d.entityType ≠ "CREDIT_CARD" ∧ d.start < stop ∧ start < d.stop := by
  constructor
  · rintro ⟨d, hd, overlap⟩
    rcases match_of_mem_findAll made hd with ⟨m, hm, accepted, rfl⟩ | other
    · left
      exact ⟨m, hm, overlap.1, overlap.2, accepted⟩
    · right
      exact ⟨d, hd, other, overlap⟩
  · rintro (⟨m, hm, lower, upper, accepted⟩ | ⟨d, hd, -, overlap⟩)
    · obtain ⟨d, hd, first, last⟩ := exists_covering_of_mem_allMatches made hm accepted
      exact ⟨d, hd, by omega, by omega⟩
    · exact ⟨d, hd, overlap⟩

/-! ### Numbers among other digits -/

def digitNext : Text → Bool
  | [] => false
  | c :: rest => Unicode.digit.contains c ||
    ((c == ' ' || c == '-') && rest.head?.any Unicode.digit.contains)

variable {before body after : Text} {n : Nat}

theorem digitNext_of_digit {d : Char} {rest : Text} (h : Unicode.digit.contains d = true) :
    digitNext (d :: rest) = true := by
  unfold digitNext
  dsimp only
  rw [h]
  rfl

theorem digitNext_of_separator {d s : Char} {rest : Text} (hs : s = ' ' ∨ s = '-')
    (h : Unicode.digit.contains d = true) : digitNext (s :: d :: rest) = true := by
  unfold digitNext
  dsimp only
  rw [List.head?_cons, Option.any_some, h, Bool.and_true, Bool.or_eq_true, Bool.or_eq_true]
  rw [beq_iff_eq, beq_iff_eq]
  exact Or.inr hs

theorem ended_of_digitNext (h : digitNext after = false) (read : Text) :
    ((Place.between read after).skip separators).read? Unicode.digit = none := by
  have here : ∀ x y : Text, (∀ d cs, y = d :: cs → ¬ Unicode.digit.contains d = true) →
      (Place.between x y).read? Unicode.digit = none := by
    intro x y none
    cases y with
    | nil => rfl
    | cons d cs => rw [read?_between_cons, if_neg (none d cs rfl)]
  by_cases separator : ∃ s y, after = s :: y ∧ (s = ' ' ∨ s = '-')
  · obtain ⟨s, y, rfl, hs⟩ := separator
    rw [skip_between_of_separator hs]
    apply here
    rintro d cs rfl digit
    rw [digitNext_of_separator hs digit] at h
    cases h
  · rw [skip_between_of_not_separator]
    · apply here
      rintro d cs rfl digit
      rw [digitNext_of_digit digit] at h
      cases h
    · intro s y same hs
      exact separator ⟨s, y, same, hs⟩

theorem boundaries (hbody : body ≠ [])
    (front : (Look.wordBoundary .unicode).holds before.getLast? body.head? = true)
    (back : (Look.wordBoundary .unicode).holds body.getLast? after.head? = true) :
    atBoundary (Place.between before (body ++ after)) = true ∧
      atBoundary (Place.between (before ++ body) after) = true := by
  unfold atBoundary Place.between
  dsimp only
  rw [List.head?_append, List.getLast?_append]
  rw [Option.or_of_isSome, Option.or_of_isSome]
  · exact ⟨front, back⟩
  · exact List.getLast?_isSome.mpr hbody
  · exact List.isSome_head?.mpr hbody

theorem exists_match_over (digits : SpacedDigits Unicode.digit.contains n body) (least : 13 ≤ n)
    (most : n ≤ 19) (front : atBoundary (Place.between before (body ++ after)) = true)
    (back : atBoundary (Place.between (before ++ body) after) = true) :
    ∃ m ∈ pattern.residual.allMatches (before ++ (body ++ after)),
      m.start ≤ before.byteSize ∧ before.byteSize < m.stop := by
  obtain ⟨x, y, w, z, rfl, split, longer, -, hmem⟩ :=
    exists_mem_allMatches (isSome_matchBetween? digits least most front back)
  refine ⟨_, hmem, ?_⟩
  dsimp only
  rw [Text.byteSize_append, Text.byteSize_append]
  obtain ⟨more, nonempty, rfl, -⟩ := exists_append_of_length_lt split longer
  have := mt Text.byteSize_eq_zero.mp nonempty
  rw [Text.byteSize_append]
  omega

theorem SpacedDigits.digitNext_reverse {x y : Text} {d : Char}
    (h : SpacedDigits Unicode.digit.contains n (x ++ d :: y)) (hx : x ≠ [])
    (hd : Unicode.digit.contains d = true) (front : Text) :
    digitNext (front ++ x).reverse = true := by
  obtain ⟨x', e, he, form⟩ := h.before_digit hx hd fun s hs =>
    digit_of_separator (separators_contains.mpr hs)
  cases form with
  | inl plain =>
    rw [plain, List.reverse_append, List.reverse_append]
    exact digitNext_of_digit he
  | inr spaced =>
    obtain ⟨s, hs, form⟩ := spaced
    rw [form, List.reverse_append, List.reverse_append]
    exact digitNext_of_separator hs he

theorem mem_allMatches_of_apart (digits : SpacedDigits Unicode.digit.contains n body)
    (least : 13 ≤ n) (most : n ≤ 19)
    (front : atBoundary (Place.between before (body ++ after)) = true)
    (back : atBoundary (Place.between (before ++ body) after) = true)
    (noBefore : digitNext before.reverse = false) (noBehind : digitNext after = false) :
    ⟨before.byteSize, Text.byteSize (before ++ body), none⟩ ∈
      pattern.residual.allMatches (before ++ (body ++ after)) := by
  obtain ⟨x, y, w, z, rfl, split, longer, matched, hmem⟩ :=
    exists_mem_allMatches (isSome_matchBetween? digits least most front back)
  by_cases none : y = []
  · subst none
    rw [List.append_nil] at *
    rw [List.nil_append] at split
    have whole := matches_of_ended digits least most front back
      (ended_of_digitNext noBehind _)
    unfold Matches at matched whole
    rw [← split, whole, Option.some.injEq, Prod.mk.injEq, Match.mk.injEq] at matched
    rw [matched.1.2.1]
    exact hmem
  · -- the match would have a digit right before the number
    exfalso
    obtain ⟨more, nonempty, rfl, split'⟩ := exists_append_of_length_lt split longer
    obtain ⟨d, ds, rfl, hd⟩ := digits.exists_cons
    obtain ⟨m, -, -, inside⟩ := matched.spacedDigits
    cases more with
    | nil => exact nonempty rfl
    | cons d' ds' =>
      rw [List.cons_append, List.cons_append, List.cons.injEq] at split'
      rw [← split'.1] at inside
      rw [inside.digitNext_reverse none hd] at noBefore
      cases noBefore

theorem digit_of_isDigit {c : Char} (h : c.isDigit = true) : Unicode.digit.contains c = true := by
  have code : 48 ≤ c.toNat ∧ c.toNat ≤ 57 := by
    simpa [Char.isDigit, UInt32.le_iff_toNat_le] using h
  unfold CharSet.contains Unicode.digit CharSet.containsCode
  rw [if_neg (by omega), if_pos (by omega)]

end Card

namespace PatternRecognizer

open Card

variable {before body after : Text} {n : Nat}

/--
What is reported of a card number, which is 13 to 19 ASCII digits between word boundaries that pass
the checksum. Some match of the card pattern reaches over its beginning. Something that overlaps it
is reported if and only if the checksum accepts a match of the card pattern that overlaps it, or a
finding of another kind does. This is so when no other digit stands next to it.
-/
theorem analyze_card_number (digits : SpacedDigits Char.isDigit n body) (least : 13 ≤ n)
    (most : n ≤ 19)
    (front : (Look.wordBoundary .unicode).holds before.getLast? body.head? = true)
    (back : (Look.wordBoundary .unicode).holds body.getLast? after.head? = true)
    (checksum : Luhn.isValid body = true) :
    ∃ recognizer findings, defaults = .ok recognizer ∧ .card ∈ recognizer.rules ∧
      recognizer.analyze (before ++ (body ++ after)) "en" = .ok findings ∧
      (∃ m ∈ Card.pattern.residual.allMatches (before ++ (body ++ after)),
        m.start ≤ before.byteSize ∧ before.byteSize < m.stop) ∧
      ((∃ d ∈ findings,
          d.start < before.byteSize + body.byteSize ∧ before.byteSize < d.stop) ↔
        (∃ m ∈ Card.pattern.residual.allMatches (before ++ (body ++ after)),
          m.start < before.byteSize + body.byteSize ∧ before.byteSize < m.stop ∧
            Luhn.isValid (Text.slice (before ++ (body ++ after)) m.start m.stop) = true) ∨
        ∃ d ∈ findings, d.entityType ≠ "CREDIT_CARD" ∧
          d.start < before.byteSize + body.byteSize ∧ before.byteSize < d.stop) ∧
      (digitNext before.reverse = false → digitNext after = false →
        ∃ d ∈ findings, d.start ≤ before.byteSize ∧
          before.byteSize + body.byteSize ≤ d.stop) := by
  obtain ⟨recognizer, made⟩ := exists_defaults
  have wide := digits.mono fun c => digit_of_isDigit
  obtain ⟨atFront, atBack⟩ := boundaries digits.ne_nil front back
  obtain ⟨language, hcard, -⟩ := rules_of_defaults made
  refine ⟨recognizer, recognizer.findAll (before ++ (body ++ after)), made, hcard, ?_, ?_, ?_, ?_⟩
  · unfold analyze
    rw [if_pos language.symm]
  · exact exists_match_over wide least most atFront atBack
  · exact exists_overlapping_iff made _ _
  · intro noBefore noBehind
    have hmem := mem_allMatches_of_apart wide least most atFront atBack noBefore noBehind
    rw [← Text.byteSize_append]
    apply exists_covering_of_mem_allMatches made hmem
    rw [slice_match]
    exact checksum

theorem analyze_card_number_alone :
    ∃ recognizer findings, defaults = .ok recognizer ∧
      recognizer.analyze
        ("Card ".toList ++ ("4111 1111 1111 1111".toList ++ " on file".toList)) "en" =
        .ok findings ∧ ∃ d ∈ findings, d.start ≤ 5 ∧ 24 ≤ d.stop := by
  obtain ⟨recognizer, findings, made, -, found, -, -, reported⟩ :=
    @analyze_card_number "Card ".toList "4111 1111 1111 1111".toList " on file".toList 16
      (by decide) (by decide) (by decide) (by decide) (by decide)
      (by decide)
  exact ⟨recognizer, findings, made, found, reported (by decide) (by decide)⟩

/--
A card number that is lost: the digits behind it are taken in before the checksum is looked at.
-/
theorem analyze_misses_card_number :
    SpacedDigits Char.isDigit 16 "4111 1111 1111 1111".toList ∧
      (Look.wordBoundary .unicode).holds "Card ".toList.getLast?
        "4111 1111 1111 1111".toList.head? = true ∧
      (Look.wordBoundary .unicode).holds "4111 1111 1111 1111".toList.getLast?
        " 123 on file".toList.head? = true ∧
      Luhn.isValid "4111 1111 1111 1111".toList = true ∧
      ∃ recognizer, defaults = .ok recognizer ∧
        recognizer.analyze ("Card ".toList ++ ("4111 1111 1111 1111".toList ++
          " 123 on file".toList)) "en" = .ok [] := by
  refine ⟨by decide, by decide, by decide, by decide, ?_⟩
  have answered : (defaults.toOption.bind fun recognizer =>
      (recognizer.analyze ("Card ".toList ++ ("4111 1111 1111 1111".toList ++
        " 123 on file".toList)) "en").toOption) = some [] := by
    decide +kernel
  obtain ⟨recognizer, made, found⟩ := Option.bind_eq_some_iff.mp answered
  exact ⟨recognizer, eq_ok_of_toOption made, eq_ok_of_toOption found⟩

end PatternRecognizer
end PiiScan
