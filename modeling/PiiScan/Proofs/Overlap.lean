import PiiScan.Overlap
import PiiScan.Proofs.Sorting

/-!
This module contains the theory of the choice among overlapping candidates. Candidates that are
taken do not clash with each other, and one that is left out clashes with one that was taken before
it.
-/

namespace PiiScan
namespace Detection

theorem clashes_iff {a b : Detection} :
    a.clashes b = true ↔ a.start < b.stop ∧ b.start < a.stop := by
  simp [clashes]

end Detection

def Apart (a b : Detection) : Prop :=
  a.clashes b = false

theorem Apart.symm {a b : Detection} (h : Apart a b) : Apart b a := by
  unfold Apart
  rw [Detection.clashes_comm]
  exact h

theorem mem_of_mem_selectGreedy {d : Detection} {taken candidates : List Detection}
    (h : d ∈ selectGreedy taken candidates) : d ∈ taken ∨ d ∈ candidates := by
  induction candidates generalizing taken with
  | nil => left; exact h
  | cons candidate rest ih =>
    unfold selectGreedy at h
    split at h
    · cases ih h with
      | inl early => left; exact early
      | inr late => right; exact List.mem_cons_of_mem candidate late
    · cases ih h with
      | inl early =>
        rw [List.mem_append, List.mem_singleton] at early
        cases early with
        | inl before => left; exact before
        | inr same => right; rw [same]; exact List.mem_cons_self
      | inr late => right; exact List.mem_cons_of_mem candidate late

theorem mem_selectGreedy_of_mem_taken {d : Detection} {taken candidates : List Detection}
    (h : d ∈ taken) : d ∈ selectGreedy taken candidates := by
  induction candidates generalizing taken with
  | nil => exact h
  | cons candidate rest ih =>
    unfold selectGreedy
    split
    · exact ih h
    · apply ih
      exact List.mem_append_left [candidate] h

theorem selectGreedy_pairwise {taken candidates : List Detection} (h : taken.Pairwise Apart) :
    (selectGreedy taken candidates).Pairwise Apart := by
  induction candidates generalizing taken with
  | nil => exact h
  | cons candidate rest ih =>
    unfold selectGreedy
    split
    · exact ih h
    · next free =>
      -- the candidate is taken because it clashes with nothing that has been taken
      apply ih
      rw [List.pairwise_append]
      refine ⟨h, List.pairwise_singleton _ _, ?_⟩
      intro kept hkept last hlast
      rw [List.mem_singleton] at hlast
      rw [hlast]
      apply Apart.symm
      apply Bool.eq_false_iff.mpr
      intro clash
      apply free
      rw [List.any_eq_true]
      exact ⟨kept, hkept, clash⟩

theorem exists_clash_of_mem {d : Detection} {taken candidates : List Detection}
    {before : Detection → Detection → Prop}
    (earlier : ∀ t ∈ taken, ∀ c ∈ candidates, before t c) (sorted : candidates.Pairwise before)
    (hd : d ∈ candidates) :
    d ∈ selectGreedy taken candidates ∨
      ∃ kept ∈ selectGreedy taken candidates, before kept d ∧ d.clashes kept = true := by
  induction candidates generalizing taken with
  | nil => cases hd
  | cons candidate rest ih =>
    obtain ⟨least, tail⟩ := List.pairwise_cons.mp sorted
    have earlierRest : ∀ t ∈ taken, ∀ c ∈ rest, before t c := by
      intro t ht c hc
      exact earlier t ht c (List.mem_cons_of_mem candidate hc)
    unfold selectGreedy
    split
    · next clash =>
      cases List.mem_cons.mp hd with
      | inl same =>
        -- what is taken stays taken, and all of it came before
        right
        obtain ⟨kept, hkept, hclash⟩ := List.any_eq_true.mp clash
        refine ⟨kept, mem_selectGreedy_of_mem_taken hkept, ?_, ?_⟩
        · exact earlier kept hkept d hd
        · rw [same]
          exact hclash
      | inr later => exact ih earlierRest tail later
    · cases List.mem_cons.mp hd with
      | inl same =>
        left
        apply mem_selectGreedy_of_mem_taken
        rw [same]
        simp
      | inr later =>
        apply ih _ tail later
        intro t ht c hc
        rw [List.mem_append, List.mem_singleton] at ht
        cases ht with
        | inl old => exact earlierRest t old c hc
        | inr new => rw [new]; exact least c hc

/-! ### The order of preference -/

theorem preferred_iff {a b : Detection} :
    preferred a b = true ↔
      b.score.rank < a.score.rank ∨ (a.score.rank = b.score.rank ∧ a.start ≤ b.start) := by
  simp [preferred]

theorem preferred_total (a b : Detection) : preferred a b = true ∨ preferred b a = true := by
  rw [preferred_iff, preferred_iff]
  omega

theorem preferred_trans (a b c : Detection) (hab : preferred a b = true)
    (hbc : preferred b c = true) : preferred a c = true := by
  rw [preferred_iff] at *
  omega

theorem mem_of_mem_resolveOverlaps {d : Detection} {candidates : List Detection}
    (h : d ∈ resolveOverlaps candidates) : d ∈ candidates := by
  unfold resolveOverlaps at h
  rw [mem_sortStable] at h
  cases mem_of_mem_selectGreedy h with
  | inl none => cases none
  | inr sorted => exact mem_sortStable.mp sorted

theorem resolveOverlaps_pairwise {candidates : List Detection}
    (nonempty : ∀ d ∈ candidates, d.start < d.stop) :
    (resolveOverlaps candidates).Pairwise fun a b => a.stop ≤ b.start := by
  have apart : (resolveOverlaps candidates).Pairwise Apart := by
    unfold resolveOverlaps
    rw [(sortStable_perm _ _).pairwise_iff fun h => Apart.symm h]
    exact selectGreedy_pairwise List.Pairwise.nil
  have sorted : (resolveOverlaps candidates).Pairwise fun a b => a.start ≤ b.start := by
    apply List.Pairwise.imp (R := fun a b => decide (a.start ≤ b.start) = true)
    · intro a b h
      exact of_decide_eq_true h
    · apply sortStable_pairwise
      · intro a b
        simp only [decide_eq_true_eq]
        omega
      · intro a b c
        simp only [decide_eq_true_eq]
        omega
  apply List.Pairwise.imp_of_mem _ (apart.and sorted)
  intro a b ha hb h
  have := nonempty a (mem_of_mem_resolveOverlaps ha)
  have := nonempty b (mem_of_mem_resolveOverlaps hb)
  have free : ¬ a.clashes b = true := Bool.eq_false_iff.mp h.1
  rw [Detection.clashes_iff] at free
  have := h.2
  omega

theorem exists_preferred_of_mem {d : Detection} {candidates : List Detection}
    (h : d ∈ candidates) :
    d ∈ resolveOverlaps candidates ∨
      ∃ kept ∈ resolveOverlaps candidates, preferred kept d = true ∧ d.clashes kept = true := by
  unfold resolveOverlaps
  simp only [mem_sortStable]
  apply exists_clash_of_mem
  · simp
  · exact sortStable_pairwise preferred_total preferred_trans candidates
  · exact mem_sortStable.mpr h

end PiiScan
