import PiiScan.Merge
import PiiScan.Proofs.Sorting

/-!
This module contains the theory of merged spans. Merging walks over detections that are sorted by
start and keeps one open span; everything follows from what `Detection.absorb` does to that span.
The spans that come out lie one after the other, cover the bytes that the detections cover, and
begin and end where detections begin and end.
-/

namespace PiiScan
namespace Detection

def covers (d : Detection) (i : Nat) : Bool :=
  decide (d.start ≤ i) && decide (i < d.stop)

theorem covers_iff {d : Detection} {i : Nat} : d.covers i = true ↔ d.start ≤ i ∧ i < d.stop := by
  simp [covers]

@[simp]
theorem absorb_start (span next : Detection) : (span.absorb next).start = span.start := by
  unfold absorb
  dsimp only
  split <;> rfl

@[simp]
theorem absorb_stop (span next : Detection) :
    (span.absorb next).stop = max span.stop next.stop := by
  unfold absorb
  dsimp only
  split <;> rfl

theorem absorb_entityType (span next : Detection) :
    (span.absorb next).entityType = span.entityType ∨
      (span.absorb next).entityType = next.entityType := by
  unfold absorb
  dsimp only
  split
  · right; rfl
  · left; rfl

theorem absorb_covers {span next : Detection} {i : Nat} (order : span.start ≤ next.start)
    (overlap : next.start < span.stop) :
    (span.absorb next).covers i = true ↔ span.covers i = true ∨ next.covers i = true := by
  rw [covers_iff, covers_iff, covers_iff, absorb_start, absorb_stop]
  omega

theorem isValidFor_iff {d : Detection} {text : Text} :
    d.isValidFor text = true ↔
      d.start < d.stop ∧ text.isBoundary d.start = true ∧ text.isBoundary d.stop = true := by
  simp [isValidFor, and_assoc]

theorem isValidFor_absorb {span next : Detection} {text : Text}
    (hspan : span.isValidFor text = true) (hnext : next.isValidFor text = true) :
    (span.absorb next).isValidFor text = true := by
  rw [isValidFor_iff] at hspan hnext ⊢
  rw [absorb_start, absorb_stop]
  refine ⟨by omega, hspan.2.1, ?_⟩
  cases Nat.le_total span.stop next.stop with
  | inl h => rw [Nat.max_eq_right h]; exact hnext.2.2
  | inr h => rw [Nat.max_eq_left h]; exact hspan.2.2

end Detection

/-! ### Merging sorted detections -/

/--
What is closed under absorbing a later detection holds of the merged spans when it holds of the
detections.
-/
theorem mergeFrom_induction {P : Detection → Prop}
    (absorb : ∀ a b, P a → P b → P (a.absorb b)) {span : Detection} {rest : List Detection}
    (h : ∀ d ∈ span :: rest, P d) : ∀ m ∈ mergeFrom span rest, P m := by
  induction rest generalizing span with
  | nil => simpa [mergeFrom] using h
  | cons next rest ih =>
    obtain ⟨hspan, hrest⟩ := List.forall_mem_cons.mp h
    obtain ⟨hnext, hlater⟩ := List.forall_mem_cons.mp hrest
    unfold mergeFrom
    split
    · apply ih
      rw [List.forall_mem_cons]
      exact ⟨absorb span next hspan hnext, hlater⟩
    · rw [List.forall_mem_cons]
      exact ⟨hspan, ih hrest⟩

theorem le_start_of_mem_mergeFrom {least : Nat} {span : Detection} {rest : List Detection}
    (h : ∀ d ∈ span :: rest, least ≤ d.start) : ∀ m ∈ mergeFrom span rest, least ≤ m.start := by
  apply mergeFrom_induction
  · intro a b ha hb
    rw [Detection.absorb_start]
    exact ha
  · exact h

theorem start_le_of_absorb {span next : Detection} {rest : List Detection}
    (sorted : (span :: next :: rest).Pairwise fun a b => a.start ≤ b.start) :
    (span.absorb next :: rest).Pairwise fun a b => a.start ≤ b.start := by
  obtain ⟨least, tail⟩ := List.pairwise_cons.mp sorted
  apply List.pairwise_cons.mpr
  constructor
  · intro d hd
    rw [Detection.absorb_start]
    apply least
    exact List.mem_cons_of_mem next hd
  · exact (List.pairwise_cons.mp tail).2

theorem mergeFrom_pairwise {span : Detection} {rest : List Detection}
    (sorted : (span :: rest).Pairwise fun a b => a.start ≤ b.start) :
    (mergeFrom span rest).Pairwise fun a b => a.stop ≤ b.start := by
  induction rest generalizing span with
  | nil => simp [mergeFrom]
  | cons next rest ih =>
    obtain ⟨-, tail⟩ := List.pairwise_cons.mp sorted
    unfold mergeFrom
    split
    · apply ih
      exact start_le_of_absorb sorted
    · next apart =>
      -- nothing that is merged from here on starts before the next detection does
      apply List.pairwise_cons.mpr
      constructor
      · apply le_start_of_mem_mergeFrom
        rw [List.forall_mem_cons]
        have gap : span.stop ≤ next.start := by omega
        refine ⟨gap, ?_⟩
        intro d hd
        exact Nat.le_trans gap ((List.pairwise_cons.mp tail).1 d hd)
      · exact ih tail

theorem mergeFrom_covers {span : Detection} {rest : List Detection} {i : Nat}
    (sorted : (span :: rest).Pairwise fun a b => a.start ≤ b.start) :
    (∃ m ∈ mergeFrom span rest, m.covers i = true) ↔ ∃ d ∈ span :: rest, d.covers i = true := by
  induction rest generalizing span with
  | nil => simp [mergeFrom]
  | cons next rest ih =>
    obtain ⟨least, tail⟩ := List.pairwise_cons.mp sorted
    unfold mergeFrom
    split
    · next overlap =>
      -- a span and what it absorbs overlap or touch, so there is no gap between them to be covered
      rw [ih (start_le_of_absorb sorted)]
      simp only [List.mem_cons, exists_eq_or_imp]
      rw [Detection.absorb_covers (least next List.mem_cons_self) overlap]
      rw [or_assoc]
    · simp only [List.mem_cons (b := span), exists_eq_or_imp]
      rw [ih tail]

theorem mergeFrom_eq_self {span : Detection} {rest : List Detection}
    (apart : (span :: rest).Pairwise fun a b => a.stop ≤ b.start) :
    mergeFrom span rest = span :: rest := by
  induction rest generalizing span with
  | nil => rfl
  | cons next rest ih =>
    obtain ⟨gap, tail⟩ := List.pairwise_cons.mp apart
    have := gap next List.mem_cons_self
    unfold mergeFrom
    rw [if_neg (by omega), ih tail]

/-! ### Merging any detections -/

theorem mergeOrder_iff {a b : Detection} :
    mergeOrder a b = true ↔ a.start < b.start ∨ (a.start = b.start ∧ b.stop ≤ a.stop) := by
  simp [mergeOrder]

theorem mergeOrder_total (a b : Detection) : mergeOrder a b = true ∨ mergeOrder b a = true := by
  rw [mergeOrder_iff, mergeOrder_iff]
  omega

theorem mergeOrder_trans (a b c : Detection) (hab : mergeOrder a b = true)
    (hbc : mergeOrder b c = true) : mergeOrder a c = true := by
  rw [mergeOrder_iff] at *
  omega

theorem sortStable_mergeOrder_pairwise (detections : List Detection) :
    (sortStable mergeOrder detections).Pairwise fun a b => a.start ≤ b.start := by
  apply List.Pairwise.imp _ (sortStable_pairwise mergeOrder_total mergeOrder_trans detections)
  intro a b h
  rw [mergeOrder_iff] at h
  omega

theorem mergeSpans_induction {P : Detection → Prop}
    (absorb : ∀ a b, P a → P b → P (a.absorb b)) {detections : List Detection}
    (h : ∀ d ∈ detections, P d) : ∀ m ∈ mergeSpans detections, P m := by
  have sorted : ∀ d ∈ sortStable mergeOrder detections, P d := forall_mem_sortStable.mpr h
  unfold mergeSpans
  split
  · simp
  · next heq =>
    rw [heq] at sorted
    exact mergeFrom_induction absorb sorted

theorem mergeSpans_pairwise (detections : List Detection) :
    (mergeSpans detections).Pairwise fun a b => a.stop ≤ b.start := by
  have sorted := sortStable_mergeOrder_pairwise detections
  unfold mergeSpans
  split
  · exact List.Pairwise.nil
  · next heq =>
    rw [heq] at sorted
    exact mergeFrom_pairwise sorted

theorem mergeSpans_covers (detections : List Detection) (i : Nat) :
    (∃ m ∈ mergeSpans detections, m.covers i = true) ↔ ∃ d ∈ detections, d.covers i = true := by
  have sorted := sortStable_mergeOrder_pairwise detections
  have same : (∃ d ∈ sortStable mergeOrder detections, d.covers i = true) ↔
      ∃ d ∈ detections, d.covers i = true := by
    simp only [mem_sortStable]
  rw [← same]
  unfold mergeSpans
  split
  · next heq => rw [heq]
  · next heq =>
    rw [heq] at sorted ⊢
    exact mergeFrom_covers sorted

theorem mergeSpans_eq_self {detections : List Detection}
    (nonempty : ∀ d ∈ detections, d.start < d.stop)
    (apart : detections.Pairwise fun a b => a.stop ≤ b.start) :
    mergeSpans detections = detections := by
  have ordered : detections.Pairwise fun a b => mergeOrder a b = true := by
    apply List.Pairwise.imp_of_mem _ apart
    intro a b ha hb gap
    have := nonempty a ha
    rw [mergeOrder_iff]
    omega
  unfold mergeSpans
  rw [sortStable_eq_self ordered]
  cases detections with
  | nil => rfl
  | cons span rest => exact mergeFrom_eq_self apart

theorem isValidFor_of_mem_mergeSpans {detections : List Detection} {text : Text}
    (h : ∀ d ∈ detections, d.isValidFor text = true) :
    ∀ m ∈ mergeSpans detections, m.isValidFor text = true := by
  apply mergeSpans_induction
  · intro a b
    exact Detection.isValidFor_absorb
  · exact h

theorem entityType_of_mem_mergeSpans {P : String → Prop} {detections : List Detection}
    (h : ∀ d ∈ detections, P d.entityType) : ∀ m ∈ mergeSpans detections, P m.entityType := by
  apply mergeSpans_induction (P := fun d => P d.entityType)
  · intro a b ha hb
    cases Detection.absorb_entityType a b with
    | inl same => rw [same]; exact ha
    | inr same => rw [same]; exact hb
  · exact h

theorem countP_covers_le_one {spans : List Detection}
    (apart : spans.Pairwise fun a b => a.stop ≤ b.start) (i : Nat) :
    spans.countP (·.covers i) ≤ 1 := by
  induction spans with
  | nil => simp
  | cons span rest ih =>
    obtain ⟨gap, tail⟩ := List.pairwise_cons.mp apart
    rw [List.countP_cons]
    split
    · next covered =>
      have none : rest.countP (·.covers i) = 0 := by
        rw [List.countP_eq_zero]
        intro later hlater hcovers
        have := gap later hlater
        rw [Detection.covers_iff] at covered hcovers
        omega
      omega
    · have := ih tail
      omega

/--
Every byte of a detection lies in exactly one merged span, and no other byte lies in any.
-/
theorem countP_covers_mergeSpans (detections : List Detection) (i : Nat) :
    (mergeSpans detections).countP (·.covers i) =
      if detections.any (·.covers i) then 1 else 0 := by
  have same := mergeSpans_covers detections i
  have most := countP_covers_le_one (mergeSpans_pairwise detections) i
  split
  · next covered =>
    have some : 0 < (mergeSpans detections).countP (·.covers i) := by
      rw [List.countP_pos_iff]
      exact same.mpr (List.any_eq_true.mp covered)
    omega
  · next free =>
    rw [List.countP_eq_zero]
    intro m hm hcovers
    apply free
    rw [List.any_eq_true]
    exact same.mp ⟨m, hm, hcovers⟩

end PiiScan
