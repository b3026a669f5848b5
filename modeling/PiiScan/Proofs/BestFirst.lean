import PiiScan.Proofs.Overlap

/-!
This module contains what exactly is chosen among overlapping candidates. Candidates are told apart
by their places in the input, and their rank is by score, start and place. A candidate is chosen if
and only if it clashes with no chosen one of a better rank, and there is one choice only of which
this is true.
-/

namespace PiiScan

def RanksBefore (candidates : List Detection) (i j : Fin candidates.length) : Prop :=
  candidates[j].score.rank < candidates[i].score.rank ∨
    (candidates[i].score.rank = candidates[j].score.rank ∧
      (candidates[i].start < candidates[j].start ∨
        (candidates[i].start = candidates[j].start ∧ i < j)))

theorem RanksBefore.asymm {candidates : List Detection} {i j : Fin candidates.length}
    (h : RanksBefore candidates i j) : ¬ RanksBefore candidates j i := by
  unfold RanksBefore at *
  omega

/--
A choice of places, by the starts of their candidates: a place is chosen unless its candidate
clashes with that of a chosen place of a better rank.
-/
structure BestFirst (candidates : List Detection) (kept : List (Fin candidates.length)) :
    Prop where
  ascending : kept.Pairwise fun i j => candidates[i].start < candidates[j].start
  mem_iff : ∀ i, i ∈ kept ↔
    ∀ j ∈ kept, RanksBefore candidates j i → candidates[i].clashes candidates[j] = false

/-! ### Choosing places -/

section

variable {ι : Type} {before : ι → ι → Prop}

def selectPlaces (candidate : ι → Detection) (taken : List ι) : List ι → List ι
  | [] => taken
  | place :: rest =>
    if taken.any fun other => (candidate place).clashes (candidate other) then
      selectPlaces candidate taken rest
    else selectPlaces candidate (taken ++ [place]) rest

variable {candidate : ι → Detection} {taken places : List ι}

theorem map_selectPlaces :
    (selectPlaces candidate taken places).map candidate =
      selectGreedy (taken.map candidate) (places.map candidate) := by
  induction places generalizing taken with
  | nil => rfl
  | cons place rest ih =>
    rw [List.map_cons, selectPlaces, selectGreedy, List.any_map]
    split
    · next clash =>
      rw [if_pos (by simpa using clash)]
      exact ih
    · next free =>
      rw [if_neg (by simpa using free), ih]
      simp

theorem selectPlaces_sublist :
    (selectPlaces candidate taken places).Sublist (taken ++ places) := by
  induction places generalizing taken with
  | nil => simp [selectPlaces]
  | cons place rest ih =>
    unfold selectPlaces
    split
    · apply ih.trans
      simp
    · apply ih.trans
      simp

theorem mem_selectPlaces_of_mem_taken {i : ι} (h : i ∈ taken) :
    i ∈ selectPlaces candidate taken places := by
  induction places generalizing taken with
  | nil => exact h
  | cons place rest ih =>
    unfold selectPlaces
    split
    · exact ih h
    · apply ih
      simp [h]

theorem mem_selectPlaces_iff (asymm : ∀ i j, before i j → ¬ before j i)
    (sorted : (taken ++ places).Pairwise before) {i : ι} :
    i ∈ selectPlaces candidate taken places ↔
      i ∈ taken ∨ (i ∈ places ∧ ∀ j ∈ selectPlaces candidate taken places,
        before j i → (candidate i).clashes (candidate j) = false) := by
  induction places generalizing taken with
  | nil => simp [selectPlaces]
  | cons place rest ih =>
    obtain ⟨-, later, earlier⟩ := List.pairwise_append.mp sorted
    rw [List.pairwise_cons] at later
    unfold selectPlaces
    split
    · next clash =>
      -- the place is left out, because of a place taken before that stays taken
      obtain ⟨kept, hkept, clash⟩ := List.any_eq_true.mp clash
      have kept_mem : kept ∈ selectPlaces candidate taken rest :=
        mem_selectPlaces_of_mem_taken hkept
      have first : before kept place := earlier kept hkept place List.mem_cons_self
      have sorted : (taken ++ rest).Pairwise before := by
        apply List.Pairwise.sublist _ sorted
        simp
      rw [ih sorted, List.mem_cons]
      constructor
      · rintro (old | ⟨mem, free⟩)
        · left; exact old
        · right; exact ⟨Or.inr mem, free⟩
      · rintro (old | ⟨rfl | mem, free⟩)
        · left; exact old
        · rw [free kept kept_mem first] at clash
          cases clash
        · right; exact ⟨mem, free⟩
    · next free =>
      have free : ∀ other ∈ taken, (candidate place).clashes (candidate other) = false := by
        simpa using free
      have sorted : (taken ++ [place] ++ rest).Pairwise before := by
        simpa using sorted
      have only : ∀ j ∈ selectPlaces candidate (taken ++ [place]) rest, before j place →
          j ∈ taken := by
        intro j hj first
        have hj := selectPlaces_sublist.mem hj
        rw [List.append_assoc, List.mem_append, List.singleton_append, List.mem_cons] at hj
        rcases hj with old | rfl | mem
        · exact old
        · exact absurd first (asymm j j first)
        · exact absurd first (asymm place j (later.1 j mem))
      rw [ih sorted, List.mem_append, List.mem_singleton, List.mem_cons]
      constructor
      · rintro ((old | rfl) | ⟨mem, free⟩)
        · left; exact old
        · right
          refine ⟨Or.inl rfl, ?_⟩
          intro j hj first
          exact free j (only j hj first)
        · right; exact ⟨Or.inr mem, free⟩
      · rintro (old | ⟨rfl | mem, free⟩)
        · left; left; exact old
        · left; right; rfl
        · right; exact ⟨mem, free⟩

end

/-! ### The places of all candidates, the best first -/

def rankedPlaces (candidates : List Detection) : List (Fin candidates.length) :=
  sortStable (fun i j => preferred (candidates.get i) (candidates.get j))
    (List.finRange candidates.length)

variable {candidates : List Detection}

theorem mem_rankedPlaces (i : Fin candidates.length) : i ∈ rankedPlaces candidates := by
  simp [rankedPlaces]

theorem map_rankedPlaces :
    (rankedPlaces candidates).map candidates.get = sortStable preferred candidates := by
  exact map_sortStable_finRange preferred candidates

theorem rankedPlaces_pairwise : (rankedPlaces candidates).Pairwise (RanksBefore candidates) := by
  apply List.Pairwise.imp _
    (sortStable_finRange_pairwise preferred_total preferred_trans candidates)
  intro i j ⟨hij, hji⟩
  rw [preferred_iff] at hij hji
  simp only [List.get_eq_getElem] at hij hji
  unfold RanksBefore
  simp only [Fin.getElem_fin]
  omega

namespace BestFirst

variable {kept kept' : List (Fin candidates.length)}

/--
Two such choices agree on every place, from the best rank down.
-/
theorem mem_congr (h : BestFirst candidates kept) (h' : BestFirst candidates kept')
    (done places : List (Fin candidates.length)) (all : ∀ i, i ∈ done ++ places)
    (sorted : places.Pairwise (RanksBefore candidates))
    (same : ∀ i ∈ done, i ∈ kept ↔ i ∈ kept') :
    ∀ i ∈ places, i ∈ kept ↔ i ∈ kept' := by
  induction places generalizing done with
  | nil => simp
  | cons place rest ih =>
    obtain ⟨first, tail⟩ := List.pairwise_cons.mp sorted
    have before : ∀ j, RanksBefore candidates j place → (j ∈ kept ↔ j ∈ kept') := by
      intro j better
      apply same
      cases List.mem_append.mp (all j) with
      | inl early => exact early
      | inr late =>
        exfalso
        cases List.mem_cons.mp late with
        | inl here =>
          rw [here] at better
          exact better.asymm better
        | inr behind => exact better.asymm (first j behind)
    have here : place ∈ kept ↔ place ∈ kept' := by
      rw [h.mem_iff, h'.mem_iff]
      constructor
      · intro free j hj better
        exact free j ((before j better).mpr hj) better
      · intro free j hj better
        exact free j ((before j better).mp hj) better
    have rest : ∀ i ∈ rest, i ∈ kept ↔ i ∈ kept' := by
      apply ih (done ++ [place])
      · simpa using all
      · exact tail
      · intro i hi
        rw [List.mem_append, List.mem_singleton] at hi
        cases hi with
        | inl early => exact same i early
        | inr last => rw [last]; exact here
    intro i hi
    cases List.mem_cons.mp hi with
    | inl last => rw [last]; exact here
    | inr later => exact rest i later

theorem unique (h : BestFirst candidates kept) (h' : BestFirst candidates kept') :
    kept = kept' := by
  apply eq_of_pairwise_of_mem_iff _ h.ascending h'.ascending
  · intro i
    apply mem_congr h h' [] (rankedPlaces candidates)
    · exact mem_rankedPlaces
    · exact rankedPlaces_pairwise
    · simp
    · exact mem_rankedPlaces i
  · intro i j
    omega

end BestFirst

/-! ### What is chosen -/

def keptPlaces (candidates : List Detection) : List (Fin candidates.length) :=
  sortStable (fun i j => decide ((candidates.get i).start ≤ (candidates.get j).start))
    (selectPlaces candidates.get [] (rankedPlaces candidates))

theorem map_keptPlaces :
  (keptPlaces candidates).map candidates.get = resolveOverlaps candidates := by
  have sorted := sortStable_map (fun a b : Detection => decide (a.start ≤ b.start))
    candidates.get (selectPlaces candidates.get [] (rankedPlaces candidates))
  unfold keptPlaces resolveOverlaps
  rw [← sorted, map_selectPlaces, map_rankedPlaces]
  rfl

theorem mem_keptPlaces_iff (i : Fin candidates.length) :
    i ∈ keptPlaces candidates ↔ ∀ j ∈ keptPlaces candidates,
      RanksBefore candidates j i → candidates[i].clashes candidates[j] = false := by
  have sorted : ([] ++ rankedPlaces candidates).Pairwise (RanksBefore candidates) :=
    rankedPlaces_pairwise
  unfold keptPlaces
  simp only [mem_sortStable]
  rw [mem_selectPlaces_iff (fun _ _ => RanksBefore.asymm) sorted]
  simp [mem_rankedPlaces]

theorem keptPlaces_ordered (nonempty : ∀ d ∈ candidates, d.start < d.stop) :
    (keptPlaces candidates).Pairwise fun i j => candidates[i].stop ≤ candidates[j].start := by
  have apart := resolveOverlaps_pairwise nonempty
  rw [← map_keptPlaces, List.pairwise_map] at apart
  exact apart

theorem bestFirst_keptPlaces (nonempty : ∀ d ∈ candidates, d.start < d.stop) :
    BestFirst candidates (keptPlaces candidates) := by
  constructor
  · apply List.Pairwise.imp _ (keptPlaces_ordered nonempty)
    intro i j order
    have := nonempty candidates[i] (List.getElem_mem i.isLt)
    omega
  · exact mem_keptPlaces_iff

/--
Resolving overlaps makes the best-first choice and nothing else. What it returns are the candidates
at different places of the input, by their starts and without overlaps. A place is among these if
and only if its candidate clashes with no returned one of a better rank, and no other choice has
this property. So a candidate that is left out clashes with a returned one of a better rank, and one
that clashes only with candidates that are left out is returned.
-/
theorem resolveOverlaps_best_first {candidates : List Detection}
    (nonempty : ∀ d ∈ candidates, d.start < d.stop) :
    ∃ kept : List (Fin candidates.length),
      resolveOverlaps candidates = kept.map candidates.get ∧
      kept.Nodup ∧
      (kept.Pairwise fun i j => candidates[i].start < candidates[j].start ∧
        candidates[i].clashes candidates[j] = false) ∧
      (∀ i, i ∈ kept ↔ ∀ j ∈ kept, RanksBefore candidates j i →
        candidates[i].clashes candidates[j] = false) ∧
      (∀ kept', BestFirst candidates kept' → kept' = kept) ∧
      (∀ i, i ∉ kept → ∃ j ∈ kept, RanksBefore candidates j i ∧
        candidates[i].clashes candidates[j] = true) ∧
      ∀ i, (∀ j, j ≠ i → candidates[i].clashes candidates[j] = true → j ∉ kept) → i ∈ kept := by
  have chosen := bestFirst_keptPlaces nonempty
  refine ⟨keptPlaces candidates, map_keptPlaces.symm, ?_, ?_, chosen.mem_iff, ?_, ?_, ?_⟩
  · apply chosen.ascending.imp
    rintro i j order rfl
    omega
  · apply chosen.ascending.imp₂ _ (keptPlaces_ordered nonempty)
    intro i j order apart
    refine ⟨order, ?_⟩
    apply Bool.eq_false_iff.mpr
    rw [ne_eq, Detection.clashes_iff]
    omega
  · intro kept' h
    exact h.unique chosen
  · intro i out
    rw [chosen.mem_iff] at out
    simpa using out
  · intro i free
    rw [chosen.mem_iff]
    intro j hj better
    apply Bool.eq_false_iff.mpr
    intro clash
    apply free j _ clash hj
    rintro rfl
    exact better.asymm better

/--
A candidate between two better ones that lie apart, the second of which is given twice.
-/
def bridge : List Detection := [
  ⟨"B", 5, 15, .ofDecimal false 8 (-1)⟩, ⟨"C", 12, 20, .ofDecimal false 85 (-2)⟩,
  ⟨"A", 0, 10, .ofDecimal false 9 (-1)⟩, ⟨"C", 12, 20, .ofDecimal false 85 (-2)⟩]

theorem resolveOverlaps_bridge :
    (∀ d ∈ bridge, d.start < d.stop) ∧
      (resolveOverlaps bridge).map Detection.entityType = ["A", "C"] ∧
      ∃ kept : List (Fin bridge.length), resolveOverlaps bridge = kept.map bridge.get ∧
        kept.Nodup ∧ ⟨0, by decide⟩ ∉ kept ∧
        ∃ j ∈ kept, RanksBefore bridge j ⟨0, by decide⟩ := by
  have nonempty : ∀ d ∈ bridge, d.start < d.stop := by decide +kernel
  obtain ⟨kept, returned, nodup, -, -, -, out, -⟩ := resolveOverlaps_best_first nonempty
  have lost : ⟨0, by decide⟩ ∉ kept := by
    intro mem
    have : bridge.get ⟨0, by decide⟩ ∈ resolveOverlaps bridge := by
      rw [returned]
      exact List.mem_map_of_mem mem
    revert this
    decide +kernel
  obtain ⟨j, hj, better, -⟩ := out _ lost
  exact ⟨nonempty, by decide +kernel, kept, returned, nodup, lost, j, hj, better⟩

end PiiScan
