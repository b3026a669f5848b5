import PiiScan.Proofs.Pattern.Leftmost
import PiiScan.Rule

/-!
This module contains the pattern of card numbers: what it matches and what it prefers. From a word
boundary on it reads digits, each but the last with a space or hyphen behind it if there is one, and
stops at a word boundary after at least 13 and at most 19 digits, preferably after as many as
possible.
-/

namespace PiiScan

namespace Place

def skip (set : CharSet) (place : Place) : Place := (place.read? set).getD place

end Place

namespace Card

def separators : CharSet := [(0x20, 0x20), (0x2D, 0x2D)]

def unit : Pattern :=
  .cat (.chars Unicode.digit) (.repetition 0 (some 1) true (.chars separators))

def pattern : Pattern :=
  .cat (.look (.wordBoundary .unicode)) (.cat (.repetition 12 (some 18) true unit)
    (.cat (.chars Unicode.digit) (.look (.wordBoundary .unicode))))

theorem ofText?_pattern :
    Pattern.ofText? "\\b(?:\\d[ -]?)\x7b12,18\x7d\\d\\b".toList = some pattern := by
  rfl

def atBoundary (place : Place) : Bool :=
  (Look.wordBoundary .unicode).holds place.before place.rest.head?

/--
The place after so many digits, each with a separator behind it if there is one.
-/
def afterUnits : Nat → Place → Option Place
  | 0, place => some place
  | k + 1, place => (place.read? Unicode.digit).bind fun q => afterUnits k (q.skip separators)

/--
The place after a digit that follows on so many others, all of them with a separator behind them if
there is one.
-/
def afterDigits (k : Nat) (place : Place) : Option Place :=
  (afterUnits k place).bind (Place.read? Unicode.digit)

theorem afterUnits_succ (k : Nat) (place : Place) :
    afterUnits (k + 1) place =
      (place.read? Unicode.digit).bind fun q => afterUnits k (q.skip separators) := by
  rfl

theorem afterUnits_add (j k : Nat) (place : Place) :
    afterUnits (j + k) place = (afterUnits j place).bind (afterUnits k) := by
  induction j generalizing place with
  | zero => rw [Nat.zero_add]; rfl
  | succ j ih =>
    rw [Nat.succ_add, afterUnits_succ, afterUnits_succ]
    cases place.read? Unicode.digit with
    | none => rfl
    | some q => exact ih _

theorem separators_contains {c : Char} : separators.contains c = true ↔ c = ' ' ∨ c = '-' := by
  have code : separators.contains c = true ↔ c.toNat = 32 ∨ c.toNat = 45 := by
    simp only [separators, CharSet.contains, CharSet.containsCode]
    grind
  rw [code, ← Char.toNat_inj, ← Char.toNat_inj]
  rfl

theorem digit_of_separator {c : Char} (h : separators.contains c = true) :
    Unicode.digit.contains c = false := by
  cases separators_contains.mp h with
  | inl space => rw [space]; rfl
  | inr hyphen => rw [hyphen]; rfl

theorem read?_digit_of_separator {place next : Place} (h : place.read? separators = some next) :
    place.read? Unicode.digit = none := by
  unfold Place.read? at h ⊢
  split at h
  · cases h
  · next c cs hrest =>
    split at h
    · next sep =>
      rw [digit_of_separator sep]
      rfl
    · cases h

/-! ### The endings of the parts -/

section Endings

variable {trail : Trail} {after : Place → Trail → List (Place × Trail)} {n : Nat} {place : Place}

/--
Whether what follows a part cannot do without a digit.
-/
def NeedsDigit (trail : Trail) (after : Place → Trail → List (Place × Trail)) : Prop :=
  ∀ place : Place, place.read? Unicode.digit = none → after place trail = []

theorem forget_passed (fresh : trail.passed = []) : { trail with passed := [] } = trail := by
  rw [← fresh]

theorem followedBy_unit (fresh : trail.passed = []) (needs : NeedsDigit trail after) :
    (unit.number false n).1.followedBy after place trail =
      (place.read? Unicode.digit).toList.flatMap fun q => after (q.skip separators) trail := by
  have form : (unit.number false n).1 = .cat (.chars n Unicode.digit)
      (Pattern.optional true (.chars (n + 1) separators)) := rfl
  rw [form, Residual.followedBy_cat]
  unfold Residual.followedBy
  rw [Residual.endings_chars, forget_passed fresh, List.flatMap_map]
  congr 1
  funext q
  change (Pattern.optional true (.chars (n + 1) separators)).followedBy after q trail = _
  rw [Residual.followedBy_optional Residual.isRead_of_mem_outcomes_chars]
  unfold Residual.followedBy Place.skip
  rw [Residual.endings_chars, forget_passed fresh]
  cases hsep : q.read? separators with
  | none => rfl
  | some r =>
    -- leaving the separator out leads nowhere, as a digit has to follow
    rw [needs q (read?_digit_of_separator hsep), List.append_nil]
    exact List.flatMap_singleton _ _

theorem followedBy_copies {tail : Nat → Residual × Nat} {k : Nat} (fresh : trail.passed = [])
    (needs : NeedsDigit trail ((tail (n + 2 * k)).1.followedBy after)) :
    (Pattern.copies (unit.number false) tail k n).1.followedBy after place trail =
      (afterUnits k place).toList.flatMap fun q =>
        (tail (n + 2 * k)).1.followedBy after q trail := by
  induction k generalizing n place with
  | zero => exact (List.flatMap_singleton _ _).symm
  | succ k ih =>
    have count : n + 2 * (k + 1) = n + 2 + 2 * k := by omega
    rw [count] at needs ⊢
    have form : (Pattern.copies (unit.number false) tail (k + 1) n).1 =
        (unit.number false n).1.andThen (Pattern.copies (unit.number false) tail k (n + 2)).1 := rfl
    rw [form, Residual.followedBy_andThen, followedBy_unit fresh]
    · rw [afterUnits_succ]
      cases place.read? Unicode.digit with
      | none => rfl
      | some q =>
        rw [Option.toList_some, List.flatMap_singleton]
        exact ih needs
    · intro p none
      rw [ih needs]
      cases k with
      | zero =>
        rw [show afterUnits 0 p = some p from rfl, Option.toList_some, List.flatMap_singleton]
        exact needs p none
      | succ k =>
        rw [afterUnits_succ, none]
        rfl

theorem optionalCopies_succ (k n : Nat) :
    ∃ residual, (Pattern.optionalCopies false true (unit.number false) (k + 1) n).1 =
      Pattern.optional true residual ∧
      (∀ after, residual.followedBy after = (unit.number false n).1.followedBy
        ((Pattern.optionalCopies false true (unit.number false) k (n + 2)).1.followedBy after)) ∧
      ∀ place trail, ∀ o ∈ residual.outcomes place trail, o.isRead = true := by
  have reads : ∀ place trail, ∀ o ∈ (unit.number false n).1.outcomes place trail,
      o.isRead = true := by
    intro place trail
    exact Residual.isRead_of_mem_outcomes_cat Residual.isRead_of_mem_outcomes_chars
  cases k with
  | zero =>
    refine ⟨(unit.number false n).1, rfl, ?_, reads⟩
    intro after
    change _ = (unit.number false n).1.followedBy (Residual.empty.followedBy after)
    rw [Residual.followedBy_empty]
  | succ k =>
    refine ⟨.cat (unit.number false n).1
      (Pattern.optionalCopies false true (unit.number false) (k + 1) (n + 2)).1, rfl, ?_, ?_⟩
    · intro after
      exact Residual.followedBy_cat _ _
    · intro place trail
      exact Residual.isRead_of_mem_outcomes_cat (reads place trail)

theorem followedBy_optionalCopies {k : Nat} (fresh : trail.passed = [])
    (needs : NeedsDigit trail after) :
    (Pattern.optionalCopies false true (unit.number false) k n).1.followedBy after place trail =
      (List.range (k + 1)).reverse.flatMap fun j =>
        (afterUnits j place).toList.flatMap fun q => after q trail := by
  induction k generalizing n place with
  | zero =>
    change Residual.empty.followedBy after place trail = _
    rw [Residual.followedBy_empty]
    simp [afterUnits]
  | succ k ih =>
    obtain ⟨residual, form, parts, reads⟩ := optionalCopies_succ k n
    -- first come the ways with another digit here, which are those of one copy less behind it
    rw [form, Residual.followedBy_optional (reads place trail), parts, followedBy_unit fresh]
    · rw [List.range_succ_eq_map, List.reverse_cons, List.flatMap_append, List.flatMap_singleton]
      congr 1
      · rw [← List.map_reverse, List.flatMap_map]
        simp only [Nat.succ_eq_add_one, afterUnits_succ]
        cases place.read? Unicode.digit with
        | none => simp
        | some q =>
          rw [Option.toList_some, List.flatMap_singleton]
          exact ih
      · exact (List.flatMap_singleton _ _).symm
    · intro p none
      rw [ih, List.flatMap_eq_nil_iff]
      intro j _
      cases j with
      | zero => simp [afterUnits, needs p none]
      | succ j => simp [afterUnits, none]

end Endings

def stopAfter (k : Nat) (place : Place) : Option Place :=
  (afterDigits k place).filter atBoundary

/--
Where the pattern may stop: from a word boundary on, after any number of digits from 19 down to 13
that ends at another word boundary.
-/
theorem endings_pattern {place : Place} {trail : Trail} (fresh : trail.passed = []) :
    pattern.residual.endings place trail =
      if atBoundary place then
        (List.range 7).reverse.flatMap fun j => (stopAfter (12 + j) place).toList.map (·, trail)
      else [] := by
  have form : pattern.residual = .cat (.look (.wordBoundary .unicode))
      ((Pattern.copies (unit.number false)
        (Pattern.optionalCopies false true (unit.number false) 6) 12 0).1.andThen
          (.cat (.chars 36 Unicode.digit) (.look (.wordBoundary .unicode)))) := rfl
  have last : ∀ p : Place, (Residual.cat (.chars 36 Unicode.digit)
      (.look (.wordBoundary .unicode))).endings p trail =
        ((p.read? Unicode.digit).filter atBoundary).toList.map (·, trail) := by
    intro p
    rw [Residual.endings_cat, Residual.endings_chars, forget_passed fresh]
    cases p.read? Unicode.digit with
    | none => rfl
    | some q =>
      rw [Option.toList_some, List.map_singleton, List.flatMap_singleton, Residual.endings_look]
      rw [Option.filter_some]
      unfold atBoundary
      split <;> rfl
  have needs : NeedsDigit trail
      (Residual.cat (.chars 36 Unicode.digit) (.look (.wordBoundary .unicode))).endings := by
    intro p none
    rw [last, none]
    rfl
  rw [form, Residual.endings_cat, Residual.endings_look]
  unfold atBoundary
  split
  · rw [List.flatMap_singleton, Residual.endings_andThen]
    change Residual.followedBy _ (Residual.endings _) place trail = _
    rw [followedBy_copies fresh]
    · cases hunits : afterUnits 12 place with
      | none =>
        have none : ∀ j, stopAfter (12 + j) place = none := by
          intro j
          unfold stopAfter afterDigits
          rw [afterUnits_add, hunits]
          rfl
        simp only [none]
        rfl
      | some q =>
        rw [Option.toList_some, List.flatMap_singleton]
        rw [followedBy_optionalCopies fresh needs]
        congr 1
        funext j
        unfold stopAfter afterDigits
        rw [afterUnits_add, hunits, Option.bind_some]
        cases afterUnits j q with
        | none => rfl
        | some r =>
          rw [Option.toList_some, List.flatMap_singleton]
          exact last r
    · intro p none
      rw [followedBy_optionalCopies fresh needs, List.flatMap_eq_nil_iff]
      intro j _
      cases j with
      | zero => simp [afterUnits, needs p none]
      | succ j => simp [afterUnits, none]
  · rfl

/-! ### Digits in a text -/

inductive SpacedDigits (digit : Char → Bool) : Nat → Text → Prop where
  | last {c : Char} (h : digit c = true) : SpacedDigits digit 1 [c]
  | next {c : Char} {n : Nat} {w : Text} (h : digit c = true) (rest : SpacedDigits digit n w) :
    SpacedDigits digit (n + 1) (c :: w)
  | spaced {c s : Char} {n : Nat} {w : Text} (h : digit c = true) (separator : s = ' ' ∨ s = '-')
    (rest : SpacedDigits digit n w) : SpacedDigits digit (n + 1) (c :: s :: w)

namespace SpacedDigits

def check (digit : Char → Bool) : Nat → Text → Bool
  | n + 1, c :: s :: w =>
    digit c && (check digit n (s :: w) || ((s == ' ' || s == '-') && check digit n w))
  | 1, [c] => digit c
  | _, _ => false

variable {digit digit' : Char → Bool} {n : Nat} {w : Text}

theorem check_iff : check digit n w = true ↔ SpacedDigits digit n w := by
  constructor
  · intro h
    fun_induction check digit n w with
    | case1 n c s w ihPlain ihSpaced =>
      rw [Bool.and_eq_true, Bool.or_eq_true, Bool.and_eq_true, Bool.or_eq_true] at h
      rw [beq_iff_eq, beq_iff_eq] at h
      cases h.2 with
      | inl plain => exact .next h.1 (ihPlain plain)
      | inr spaced => exact .spaced h.1 spaced.1 (ihSpaced spaced.2)
    | case2 c => exact .last h
    | case3 => cases h
  · intro h
    induction h with
    | last h => exact h
    | @next c n w h rest ih =>
      cases w with
      | nil => cases rest
      | cons s w =>
        unfold check
        rw [h, ih]
        rfl
    | @spaced c s n w h separator rest ih =>
      unfold check
      rw [h, ih, Bool.true_and, Bool.and_true, Bool.or_eq_true, Bool.or_eq_true]
      rw [beq_iff_eq, beq_iff_eq]
      exact Or.inr separator

instance (digit : Char → Bool) (n : Nat) (w : Text) : Decidable (SpacedDigits digit n w) :=
  decidable_of_iff _ check_iff

theorem mono (h : SpacedDigits digit n w) (more : ∀ c, digit c = true → digit' c = true) :
    SpacedDigits digit' n w := by
  induction h with
  | last h => exact .last (more _ h)
  | next h _ ih => exact .next (more _ h) ih
  | spaced h separator _ ih => exact .spaced (more _ h) separator ih

theorem exists_cons (h : SpacedDigits digit n w) : ∃ c cs, w = c :: cs ∧ digit c = true := by
  cases h with
  | last h => exact ⟨_, _, rfl, h⟩
  | next h _ => exact ⟨_, _, rfl, h⟩
  | spaced h _ _ => exact ⟨_, _, rfl, h⟩

theorem ne_nil (h : SpacedDigits digit n w) : w ≠ [] := by
  obtain ⟨c, cs, rfl, -⟩ := h.exists_cons
  exact List.cons_ne_nil c cs

theorem digit_or_separator (h : SpacedDigits digit n w) :
    ∀ c ∈ w, digit c = true ∨ c = ' ' ∨ c = '-' := by
  induction h with
  | @last c h =>
    intro c' hc
    rw [List.mem_singleton.mp hc]
    exact Or.inl h
  | @next c n w h _ ih =>
    rw [List.forall_mem_cons]
    exact ⟨Or.inl h, ih⟩
  | @spaced c s n w h separator _ ih =>
    rw [List.forall_mem_cons, List.forall_mem_cons]
    exact ⟨Or.inl h, Or.inr separator, ih⟩

theorem before_digit {x y : Text} {c : Char} (h : SpacedDigits digit n (x ++ c :: y)) (hx : x ≠ [])
    (hc : digit c = true) (apart : ∀ s, s = ' ' ∨ s = '-' → digit s = false) :
    ∃ x' d, digit d = true ∧ (x = x' ++ [d] ∨ ∃ s, (s = ' ' ∨ s = '-') ∧ x = x' ++ [d, s]) := by
  generalize hw : x ++ c :: y = w at h
  induction h generalizing x with
  | last h =>
    cases x with
    | nil => exact absurd rfl hx
    | cons d x => simp at hw
  | @next d n w h _ ih =>
    cases x with
    | nil => exact absurd rfl hx
    | cons d' x =>
      rw [List.cons_append, List.cons.injEq] at hw
      obtain ⟨rfl, hw⟩ := hw
      by_cases none : x = []
      · exact ⟨[], d', h, Or.inl (by rw [none]; rfl)⟩
      · obtain ⟨x', e, he, form⟩ := ih none hw
        refine ⟨d' :: x', e, he, ?_⟩
        cases form with
        | inl plain => left; rw [plain]; rfl
        | inr spaced =>
          obtain ⟨s, hs, form⟩ := spaced
          right
          exact ⟨s, hs, by rw [form]; rfl⟩
  | @spaced d s n w h separator rest ih =>
    cases x with
    | nil => exact absurd rfl hx
    | cons d' x =>
      rw [List.cons_append, List.cons.injEq] at hw
      obtain ⟨rfl, hw⟩ := hw
      cases x with
      | nil =>
        -- the digit would be the separator
        rw [List.nil_append, List.cons.injEq] at hw
        have := apart c (by rw [hw.1]; exact separator)
        rw [hc] at this
        cases this
      | cons s' x =>
        rw [List.cons_append, List.cons.injEq] at hw
        obtain ⟨rfl, hw⟩ := hw
        by_cases none : x = []
        · refine ⟨[], d', h, Or.inr ⟨s', separator, ?_⟩⟩
          rw [none]
          rfl
        · obtain ⟨x', e, he, form⟩ := ih none hw
          refine ⟨d' :: s' :: x', e, he, ?_⟩
          cases form with
          | inl plain => left; rw [plain]; rfl
          | inr spaced =>
            obtain ⟨t, ht, form⟩ := spaced
            right
            exact ⟨t, ht, by rw [form]; rfl⟩

end SpacedDigits

theorem read?_between_cons (set : CharSet) (read : Text) (c : Char) (cs : Text) :
    (Place.between read (c :: cs)).read? set =
      if set.contains c then some (Place.between (read ++ [c]) cs) else none := by
  rw [Place.between_read]
  rfl

theorem afterDigits_succ (k : Nat) (place : Place) :
    afterDigits (k + 1) place =
      (place.read? Unicode.digit).bind fun q => afterDigits k (q.skip separators) := by
  unfold afterDigits
  rw [afterUnits_succ]
  cases place.read? Unicode.digit <;> rfl

theorem skip_between_of_not_separator {read rest : Text}
    (h : ∀ s cs, rest = s :: cs → ¬ (s = ' ' ∨ s = '-')) :
    (Place.between read rest).skip separators = Place.between read rest := by
  unfold Place.skip
  cases rest with
  | nil => rfl
  | cons s cs =>
    rw [read?_between_cons, if_neg (mt separators_contains.mp (h s cs rfl))]
    rfl

theorem skip_between_of_digit {read rest : Text} {c : Char} (h : Unicode.digit.contains c = true) :
    (Place.between read (c :: rest)).skip separators = Place.between read (c :: rest) := by
  apply skip_between_of_not_separator
  intro s cs same separator
  cases same
  rw [digit_of_separator (separators_contains.mpr separator)] at h
  cases h

theorem skip_between_of_separator {read rest : Text} {s : Char} (h : s = ' ' ∨ s = '-') :
    (Place.between read (s :: rest)).skip separators = Place.between (read ++ [s]) rest := by
  unfold Place.skip
  rw [read?_between_cons, if_pos (separators_contains.mpr h)]
  rfl

theorem afterDigits_of_spacedDigits {k : Nat} {read w rest : Text}
    (h : SpacedDigits Unicode.digit.contains (k + 1) w) :
    afterDigits k (Place.between read (w ++ rest)) = some (Place.between (read ++ w) rest) := by
  generalize hn : k + 1 = n at h
  induction h generalizing k read with
  | @last c h =>
    cases hn
    change (Place.between read (c :: rest)).read? Unicode.digit = _
    rw [read?_between_cons, if_pos h]
  | @next c n w h digits ih =>
    cases hn
    obtain ⟨d, ds, rfl, hd⟩ := digits.exists_cons
    cases n with
    | zero => cases digits
    | succ k =>
      rw [afterDigits_succ, List.cons_append, read?_between_cons, if_pos h, Option.bind_some]
      rw [List.cons_append, skip_between_of_digit hd]
      have := @ih k (read ++ [c]) rfl
      rw [List.append_assoc] at this
      exact this
  | @spaced c s n w h separator digits ih =>
    cases hn
    cases n with
    | zero => cases digits
    | succ k =>
      rw [afterDigits_succ, List.cons_append, read?_between_cons, if_pos h, Option.bind_some]
      rw [List.cons_append, skip_between_of_separator separator]
      have := @ih k (read ++ [c] ++ [s]) rfl
      rw [List.append_assoc, List.append_assoc] at this
      rw [List.append_assoc]
      exact this

theorem spacedDigits_of_afterDigits {k : Nat} {read rest : Text} {stop : Place}
    (h : afterDigits k (Place.between read rest) = some stop) :
    ∃ w rest', rest = w ++ rest' ∧ SpacedDigits Unicode.digit.contains (k + 1) w ∧
      stop = Place.between (read ++ w) rest' := by
  induction k generalizing read rest with
  | zero =>
    change (Place.between read rest).read? Unicode.digit = _ at h
    cases rest with
    | nil => cases h
    | cons c cs =>
      rw [read?_between_cons] at h
      split at h
      · next digit =>
        cases h
        exact ⟨[c], cs, rfl, .last digit, rfl⟩
      · cases h
  | succ k ih =>
    rw [afterDigits_succ] at h
    cases rest with
    | nil => cases h
    | cons c cs =>
      rw [read?_between_cons] at h
      split at h
      · next digit =>
        rw [Option.bind_some] at h
        by_cases separator : ∃ s rest', cs = s :: rest' ∧ (s = ' ' ∨ s = '-')
        · obtain ⟨s, rest', rfl, hs⟩ := separator
          rw [skip_between_of_separator hs] at h
          obtain ⟨w, rest, rfl, digits, rfl⟩ := ih h
          refine ⟨c :: s :: w, rest, rfl, .spaced digit hs digits, ?_⟩
          simp
        · have plain : (Place.between (read ++ [c]) cs).skip separators =
              Place.between (read ++ [c]) cs := by
            apply skip_between_of_not_separator
            intro s rest' same hs
            exact separator ⟨s, rest', same, hs⟩
          rw [plain] at h
          obtain ⟨w, rest, rfl, digits, rfl⟩ := ih h
          refine ⟨c :: w, rest, rfl, .next digit digits, ?_⟩
          simp
      · cases h

end Card
end PiiScan
