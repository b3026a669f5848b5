import PiiScan.Proofs.Card.Pattern

/-!
This module contains what the search for card numbers finds in a text. Every place where a card
number might begin lies in some match or before one, as the search goes on behind a match only; and
a number whose digits do not go on behind it is matched as a whole.
-/

namespace PiiScan
namespace Card

/--
Whether a text is what the pattern prefers to match between two texts.
-/
def Matches (read w rest : Text) : Prop :=
  pattern.residual.matchBetween? read (w ++ rest) =
    some (⟨read.byteSize, (read ++ w).byteSize, none⟩, Place.between (read ++ w) rest)

variable {read w rest : Text}

theorem mem_endings_iff {place : Place} {trail : Trail} (fresh : trail.passed = [])
    {e : Place × Trail} :
    e ∈ pattern.residual.endings place trail ↔
      atBoundary place = true ∧ (∃ j < 7, stopAfter (12 + j) place = some e.1) ∧ e.2 = trail := by
  rw [endings_pattern fresh]
  split
  · next boundary =>
    rw [List.mem_flatMap]
    constructor
    · rintro ⟨j, hj, hmem⟩
      obtain ⟨stop, hstop, rfl⟩ := List.mem_map.mp hmem
      rw [List.mem_reverse, List.mem_range] at hj
      exact ⟨boundary, ⟨j, hj, Option.mem_toList.mp hstop⟩, rfl⟩
    · rintro ⟨-, ⟨j, hj, hstop⟩, same⟩
      refine ⟨j, ?_, ?_⟩
      · rw [List.mem_reverse, List.mem_range]
        exact hj
      · rw [List.mem_map]
        exact ⟨e.1, Option.mem_toList.mpr hstop, by rw [← same]⟩
  · next other => simp [other]

theorem stopAfter_eq_some_iff {k : Nat} {place stop : Place} :
    stopAfter k place = some stop ↔ afterDigits k place = some stop ∧ atBoundary stop = true := by
  unfold stopAfter
  rw [Option.filter_eq_some_iff]

theorem exists_matches {found : Match × Place}
    (h : pattern.residual.matchBetween? read rest = some found) :
    ∃ w rest', rest = w ++ rest' ∧ Matches read w rest' ∧
      found = (⟨read.byteSize, (read ++ w).byteSize, none⟩, Place.between (read ++ w) rest') ∧
      atBoundary (Place.between read rest) = true ∧
      ∃ n, 13 ≤ n ∧ n ≤ 19 ∧ SpacedDigits Unicode.digit.contains n w := by
  have found_eq := h
  unfold Residual.matchBetween? firstMatch at h
  obtain ⟨e, head, same⟩ := Option.map_eq_some_iff.mp h
  have hmem := List.mem_of_head? head
  rw [mem_endings_iff rfl] at hmem
  obtain ⟨boundary, ⟨j, hj, hstop⟩, trail⟩ := hmem
  obtain ⟨w, rest', rfl, digits, stop⟩ :=
    spacedDigits_of_afterDigits (stopAfter_eq_some_iff.mp hstop).1
  rw [trail, stop] at same
  rw [← same] at found_eq
  exact ⟨w, rest', rfl, found_eq, same.symm, boundary, 12 + j + 1, by omega, by omega, digits⟩

theorem Matches.spacedDigits (h : Matches read w rest) :
    ∃ n, 13 ≤ n ∧ n ≤ 19 ∧ SpacedDigits Unicode.digit.contains n w := by
  obtain ⟨w', rest', split, -, same, -, digits⟩ := exists_matches h
  rw [Prod.mk.injEq, Match.mk.injEq, Text.byteSize_append, Text.byteSize_append] at same
  have size : w.byteSize = w'.byteSize := by omega
  have := congrArg (Text.takeBytes w.byteSize) split
  rw [Text.takeBytes_append, size, Text.takeBytes_append] at this
  rw [this]
  exact digits

theorem Matches.ne_nil (h : Matches read w rest) : w ≠ [] := by
  obtain ⟨n, -, -, digits⟩ := h.spacedDigits
  exact digits.ne_nil

theorem isSome_matchBetween? {n : Nat} (digits : SpacedDigits Unicode.digit.contains n w)
    (least : 13 ≤ n) (most : n ≤ 19) (front : atBoundary (Place.between read (w ++ rest)) = true)
    (back : atBoundary (Place.between (read ++ w) rest) = true) :
    (pattern.residual.matchBetween? read (w ++ rest)).isSome = true := by
  have count : n = 12 + (n - 13) + 1 := by omega
  rw [count] at digits
  have hmem : (Place.between (read ++ w) rest, Trail.begin read.byteSize) ∈
      pattern.residual.endings (Place.between read (w ++ rest)) (Trail.begin read.byteSize) := by
    rw [mem_endings_iff rfl]
    refine ⟨front, ⟨n - 13, by omega, ?_⟩, rfl⟩
    rw [stopAfter_eq_some_iff]
    exact ⟨afterDigits_of_spacedDigits digits, back⟩
  unfold Residual.matchBetween? firstMatch
  rw [Option.isSome_map, List.isSome_head?]
  exact List.ne_nil_of_mem hmem

theorem head?_flatMap_reverse_range {α : Type} {f : Nat → List α} {bound : Nat} (k : Nat)
    (hk : k < bound) (here : f k ≠ []) (later : ∀ j, k < j → f j = []) :
    ((List.range bound).reverse.flatMap f).head? = (f k).head? := by
  induction bound with
  | zero => omega
  | succ bound ih =>
    rw [List.range_succ, List.reverse_append, List.reverse_singleton, List.singleton_append]
    rw [List.flatMap_cons]
    by_cases same : k = bound
    · rw [← same]
      cases hf : f k with
      | nil => exact absurd hf here
      | cons a as => rfl
    · rw [later bound (by omega), List.nil_append]
      exact ih (by omega)

theorem afterDigits_eq_none {k j : Nat} {place stop : Place} (h : afterDigits k place = some stop)
    (ended : (stop.skip separators).read? Unicode.digit = none) (hj : k < j) :
    afterDigits j place = none := by
  have count : j = k + (1 + (j - k - 1)) := by omega
  unfold afterDigits at h ⊢
  rw [count, afterUnits_add]
  cases hunits : afterUnits k place with
  | none => rfl
  | some q =>
    rw [hunits, Option.bind_some] at h
    rw [Option.bind_some, afterUnits_add]
    -- one more digit would have to be read behind the separator
    have one : afterUnits 1 q = some (stop.skip separators) := by
      rw [afterUnits_succ, h]
      rfl
    rw [one, Option.bind_some]
    cases j - k - 1 with
    | zero => exact ended
    | succ i =>
      rw [afterUnits_succ, ended]
      rfl

/--
Digits between word boundaries on which no digit follows are matched as a whole.
-/
theorem matches_of_ended {n : Nat} (digits : SpacedDigits Unicode.digit.contains n w)
    (least : 13 ≤ n) (most : n ≤ 19) (front : atBoundary (Place.between read (w ++ rest)) = true)
    (back : atBoundary (Place.between (read ++ w) rest) = true)
    (ended : ((Place.between (read ++ w) rest).skip separators).read? Unicode.digit = none) :
    Matches read w rest := by
  have count : n = 12 + (n - 13) + 1 := by omega
  rw [count] at digits
  have here : afterDigits (12 + (n - 13)) (Place.between read (w ++ rest)) =
      some (Place.between (read ++ w) rest) := afterDigits_of_spacedDigits digits
  have stop : stopAfter (12 + (n - 13)) (Place.between read (w ++ rest)) =
      some (Place.between (read ++ w) rest) := stopAfter_eq_some_iff.mpr ⟨here, back⟩
  unfold Matches Residual.matchBetween? firstMatch
  rw [endings_pattern rfl, if_pos front]
  rw [head?_flatMap_reverse_range (n - 13) (by omega)]
  · rw [stop]
    rfl
  · rw [stop]
    simp
  · intro j hj
    unfold stopAfter
    rw [afterDigits_eq_none here ended (by omega)]
    rfl

/-! ### The successive matches -/

theorem exists_append_of_length_le {y rest w z : Text} (split : y ++ rest = w ++ z)
    (h : w.length ≤ y.length) : ∃ more, y = w ++ more ∧ z = more ++ rest := by
  obtain ⟨more, rfl⟩ := List.prefix_of_prefix_length_le ⟨z, split.symm⟩ ⟨rest, rfl⟩ h
  rw [List.append_assoc, List.append_cancel_left_eq] at split
  exact ⟨more, rfl, split.symm⟩

theorem exists_append_of_length_lt {y rest w z : Text} (split : y ++ rest = w ++ z)
    (h : y.length < w.length) : ∃ more, more ≠ [] ∧ w = y ++ more ∧ rest = more ++ z := by
  obtain ⟨more, rfl, split'⟩ := exists_append_of_length_le split.symm (Nat.le_of_lt h)
  refine ⟨more, ?_, rfl, split'⟩
  intro none
  rw [none, List.append_nil] at h
  exact Nat.lt_irrefl _ h

theorem exists_mem_matchesFrom {fuel : Nat} {skipped : Text} {last : Option Nat}
    (enough : skipped.length < fuel)
    (h : (pattern.residual.matchBetween? (read ++ skipped) rest).isSome = true) :
    ∃ front back w rest', skipped = front ++ back ∧ back ++ rest = w ++ rest' ∧
      back.length < w.length ∧ Matches (read ++ front) w rest' ∧
      ⟨(read ++ front).byteSize, (read ++ front ++ w).byteSize, none⟩ ∈
        pattern.residual.matchesFrom fuel (Place.between read (skipped ++ rest)) last := by
  -- every match is at least a code point long, so that the fuel lasts until the place is reached
  induction fuel generalizing read skipped last with
  | zero => omega
  | succ fuel ih =>
    obtain ⟨front, back, found, rfl, here, first⟩ := Residual.leftmost?_of_between h
    obtain ⟨w, rest', split, matched, rfl, -, -⟩ := exists_matches here
    have found? : pattern.residual.find? (Place.between read (front ++ back ++ rest)) =
        some (⟨(read ++ front).byteSize, (read ++ front ++ w).byteSize, none⟩,
          Place.between (read ++ front ++ w) rest') := by
      rw [Residual.find?_eq]
      exact first
    have pos : 0 < w.byteSize := by
      have := mt Text.byteSize_eq_zero.mp matched.ne_nil
      omega
    unfold Residual.matchesFrom
    rw [found?]
    dsimp only
    rw [if_neg (by rw [Text.byteSize_append (read ++ front)]; omega)]
    by_cases longer : back.length < w.length
    · exact ⟨front, back, w, rest', rfl, split, longer, matched, List.mem_cons_self⟩
    · -- the match ends before the place, and the search goes on from its end
      obtain ⟨back', rfl, rfl⟩ := exists_append_of_length_le split (Nat.le_of_not_lt longer)
      have := List.length_pos_iff.mpr matched.ne_nil
      rw [List.length_append, List.length_append] at enough
      rw [← List.append_assoc, ← List.append_assoc] at h
      obtain ⟨front', back, w', rest'', rfl, split', longer', matched', hmem⟩ :=
        @ih (read ++ front ++ w) back' (some (read ++ front ++ w).byteSize) (by omega) h
      have assoc : read ++ front ++ w ++ front' = read ++ (front ++ w ++ front') := by simp
      rw [assoc] at matched' hmem
      refine ⟨front ++ w ++ front', back, w', rest'', by simp, split', longer', matched', ?_⟩
      exact List.mem_cons_of_mem _ hmem

/--
A match reaches over every place where there is a match.
-/
theorem exists_mem_allMatches (h : (pattern.residual.matchBetween? read rest).isSome = true) :
    ∃ front back w rest', read = front ++ back ∧ back ++ rest = w ++ rest' ∧
      back.length < w.length ∧ Matches front w rest' ∧
      ⟨front.byteSize, (front ++ w).byteSize, none⟩ ∈
        pattern.residual.allMatches (read ++ rest) := by
  have enough : read.length < 2 * (read ++ rest).length + 2 := by
    rw [List.length_append]
    omega
  exact @exists_mem_matchesFrom [] rest _ read none enough h

theorem exists_of_mem_allMatches {text : Text} {m : Match}
    (h : m ∈ pattern.residual.allMatches text) :
    ∃ read w rest, text = read ++ (w ++ rest) ∧ m = ⟨read.byteSize, (read ++ w).byteSize, none⟩ ∧
      ∃ n, 13 ≤ n ∧ n ≤ 19 ∧ SpacedDigits Unicode.digit.contains n w := by
  obtain ⟨read, rest, stop, rfl, found, -⟩ := Residual.exists_place_of_mem_allMatches h
  obtain ⟨w, rest', rfl, -, same, -, digits⟩ := exists_matches found
  rw [Prod.mk.injEq] at same
  exact ⟨read, w, rest', rfl, same.1, digits⟩

end Card
end PiiScan
