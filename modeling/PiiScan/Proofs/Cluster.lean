import PiiScan.Proofs.Merge
import PiiScan.Proofs.Score

/-!
This module contains what a merged span says about the detections in it. They hang together, so that
a span could not end earlier or be split, and the entity type and the score are those of the best of
them, the first one in the order of merging when several are equally good.
-/

namespace PiiScan
namespace Detection

def encloses (m d : Detection) : Bool :=
  decide (m.start ≤ d.start) && decide (d.stop ≤ m.stop)

theorem encloses_iff {m d : Detection} :
    m.encloses d = true ↔ m.start ≤ d.start ∧ d.stop ≤ m.stop := by
  simp [encloses]

theorem filter_encloses_eq_nil {m : Detection} {detections : List Detection}
    (nonempty : ∀ d ∈ detections, d.start < d.stop)
    (apart : ∀ d ∈ detections, d.stop ≤ m.start ∨ m.stop ≤ d.start) :
    detections.filter m.encloses = [] := by
  rw [List.filter_eq_nil_iff]
  intro d hd around
  rw [encloses_iff] at around
  have := nonempty d hd
  have := apart d hd
  omega

/--
Of all members of a list, those before the detection have a lower score and those behind it no
higher one.
-/
def FirstBest (d : Detection) (members : List Detection) : Prop :=
  ∃ before after, members = before ++ d :: after ∧
    (∀ e ∈ before, e.score.level < d.score.level) ∧ ∀ e ∈ after, e.score.level ≤ d.score.level

namespace FirstBest

variable {d e next : Detection} {members : List Detection}

theorem singleton (d : Detection) : d.FirstBest [d] := by
  exact ⟨[], [], rfl, by simp, by simp⟩

theorem mem (h : d.FirstBest members) : d ∈ members := by
  obtain ⟨before, after, rfl, -, -⟩ := h
  simp

theorem level_le (h : d.FirstBest members) (he : e ∈ members) : e.score.level ≤ d.score.level := by
  obtain ⟨before, after, rfl, lower, least⟩ := h
  cases List.mem_append.mp he with
  | inl earlier =>
    apply Int.le_of_lt
    exact lower e earlier
  | inr he =>
    cases List.mem_cons.mp he with
    | inl same => apply Int.le_of_eq; rw [same]
    | inr later => exact least e later

theorem append_of_le (h : d.FirstBest members) (hnext : next.score.level ≤ d.score.level) :
    d.FirstBest (members ++ [next]) := by
  obtain ⟨before, after, rfl, lower, least⟩ := h
  refine ⟨before, after ++ [next], by simp, lower, ?_⟩
  rw [List.forall_mem_append, List.forall_mem_singleton]
  exact ⟨least, hnext⟩

theorem append_of_lt (h : d.FirstBest members) (hnext : d.score.level < next.score.level) :
    next.FirstBest (members ++ [next]) := by
  refine ⟨members, [], rfl, ?_, by simp⟩
  intro e he
  apply Int.lt_of_le_of_lt _ hnext
  exact h.level_le he

theorem mergeOrder_of_level_eq (h : d.FirstBest members)
    (sorted : members.Pairwise fun a b => mergeOrder a b = true) (he : e ∈ members)
    (same : e.score.level = d.score.level) : mergeOrder d e = true := by
  obtain ⟨before, after, rfl, lower, -⟩ := h
  cases List.mem_append.mp he with
  | inl earlier =>
    have := lower e earlier
    omega
  | inr he =>
    cases List.mem_cons.mp he with
    | inl here => rw [here, mergeOrder_iff]; omega
    | inr later =>
      have behind := List.pairwise_cons.mp (List.pairwise_append.mp sorted).2.1
      exact behind.1 e later

end FirstBest

/--
A span joins detections when it runs from the first to the last of them, no offset inside of it is
free of detections that reach over it, and it has the entity type and the score of the best.
-/
structure Joins (m : Detection) (members : List Detection) : Prop where
  within : ∀ d ∈ members, m.encloses d = true
  starts : ∃ d ∈ members, d.start = m.start
  stops : ∃ d ∈ members, d.stop = m.stop
  joined : ∀ i, m.start < i → i < m.stop → ∃ d ∈ members, d.start < i ∧ i < d.stop
  best : ∃ d : Detection, d.FirstBest members ∧ m.entityType = d.entityType ∧ m.score = d.score

namespace Joins

variable {span next : Detection} {members : List Detection}

theorem singleton (d : Detection) : d.Joins [d] where
  within := by simp [encloses_iff]
  starts := by simp
  stops := by simp
  joined := by
    intro i front back
    exact ⟨d, by simp, front, back⟩
  best := ⟨d, FirstBest.singleton d, rfl, rfl⟩

theorem filter_encloses (h : span.Joins members) : members.filter span.encloses = members := by
  rw [List.filter_eq_self]
  exact h.within

theorem score_isNaN (h : span.Joins members) (numbers : ∀ d ∈ members, d.score.isNaN = false) :
    span.score.isNaN = false := by
  obtain ⟨d, hd, -, score⟩ := h.best
  rw [score]
  exact numbers d hd.mem

theorem best_absorb (h : span.Joins members) (numbers : ∀ d ∈ members, d.score.isNaN = false)
    (number : next.score.isNaN = false) :
    ∃ d : Detection, d.FirstBest (members ++ [next]) ∧
    (span.absorb next).entityType = d.entityType ∧
      (span.absorb next).score = d.score := by
  have lower := Score.lt_iff (h.score_isNaN numbers) number
  obtain ⟨d, hd, entityType, score⟩ := h.best
  unfold absorb
  dsimp only
  split
  · next higher =>
    rw [lower, score] at higher
    exact ⟨next, hd.append_of_lt higher, rfl, rfl⟩
  · next notHigher =>
    rw [lower, score] at notHigher
    exact ⟨d, hd.append_of_le (by omega), entityType, score⟩

theorem absorb (h : span.Joins members) (order : span.start ≤ next.start)
    (overlap : next.start < span.stop) (numbers : ∀ d ∈ members, d.score.isNaN = false)
    (number : next.score.isNaN = false) : (span.absorb next).Joins (members ++ [next]) where
  within := by
    rw [List.forall_mem_append, List.forall_mem_singleton]
    constructor
    · intro d hd
      have := h.within d hd
      rw [encloses_iff] at this ⊢
      rw [absorb_start, absorb_stop]
      omega
    · rw [encloses_iff, absorb_start, absorb_stop]
      omega
  starts := by
    obtain ⟨d, hd, start⟩ := h.starts
    exact ⟨d, by simp [hd], by simp [start]⟩
  stops := by
    obtain ⟨d, hd, stop⟩ := h.stops
    rw [absorb_stop]
    cases Nat.le_total span.stop next.stop with
    | inl longer => exact ⟨next, by simp, by omega⟩
    | inr shorter => exact ⟨d, by simp [hd], by omega⟩
  joined := by
    intro i front back
    rw [absorb_start] at front
    rw [absorb_stop] at back
    by_cases inside : i < span.stop
    · obtain ⟨d, hd, reaches⟩ := h.joined i front inside
      exact ⟨d, by simp [hd], reaches⟩
    · -- the next detection begins inside of the span, so it reaches over everything behind
      exact ⟨next, by simp, by omega⟩
  best := h.best_absorb numbers number

end Joins
end Detection

/-! ### The members of merged spans -/

open Detection

theorem exists_encloses_mergeFrom {span : Detection} {rest : List Detection}
    (sorted : (span :: rest).Pairwise fun a b => a.start ≤ b.start) :
    ∀ d ∈ span :: rest, ∃ m ∈ mergeFrom span rest, m.encloses d = true := by
  induction rest generalizing span with
  | nil => simp [mergeFrom, encloses_iff]
  | cons next rest ih =>
    obtain ⟨least, tail⟩ := List.pairwise_cons.mp sorted
    unfold mergeFrom
    split
    · have order := least next List.mem_cons_self
      have merged := ih (start_le_of_absorb sorted)
      obtain ⟨m, hm, around⟩ := merged (span.absorb next) List.mem_cons_self
      rw [encloses_iff, absorb_start, absorb_stop] at around
      rw [List.forall_mem_cons, List.forall_mem_cons]
      refine ⟨⟨m, hm, ?_⟩, ⟨m, hm, ?_⟩, ?_⟩
      · rw [encloses_iff]; omega
      · rw [encloses_iff]; omega
      · intro d hd
        exact merged d (List.mem_cons_of_mem _ hd)
    · rw [List.forall_mem_cons]
      constructor
      · exact ⟨span, List.mem_cons_self, by simp [encloses_iff]⟩
      · intro d hd
        obtain ⟨m, hm, around⟩ := ih tail d hd
        exact ⟨m, List.mem_cons_of_mem span hm, around⟩

/--
The run of merging: when the open span joins the detections before, every merged span joins those
that lie within it.
-/
theorem mergeFrom_joins {span : Detection} {members rest : List Detection}
    (joins : span.Joins members)
    (sorted : (members ++ rest).Pairwise fun a b => a.start ≤ b.start)
    (nonempty : ∀ d ∈ members ++ rest, d.start < d.stop)
    (numbers : ∀ d ∈ members ++ rest, d.score.isNaN = false) :
    ∀ m ∈ mergeFrom span rest, m.Joins ((members ++ rest).filter m.encloses) := by
  induction rest generalizing span members with
  | nil =>
    unfold mergeFrom
    rw [List.forall_mem_singleton, List.append_nil, joins.filter_encloses]
    exact joins
  | cons next rest ih =>
    obtain ⟨-, tail, before⟩ := List.pairwise_append.mp sorted
    obtain ⟨least, -⟩ := List.pairwise_cons.mp tail
    obtain ⟨hmembers, hlater⟩ := List.forall_mem_append.mp nonempty
    unfold mergeFrom
    split
    · next overlap =>
      have assoc : members ++ next :: rest = (members ++ [next]) ++ rest := by simp
      obtain ⟨d, hd, start⟩ := joins.starts
      have order : span.start ≤ next.start := by
        rw [← start]
        exact before d hd next List.mem_cons_self
      obtain ⟨hnumbers, hrest⟩ := List.forall_mem_append.mp numbers
      have grown := joins.absorb order overlap hnumbers (hrest next List.mem_cons_self)
      rw [assoc] at sorted nonempty numbers ⊢
      exact ih grown sorted nonempty numbers
    · next gap =>
      have behind : ∀ d ∈ next :: rest, span.stop ≤ d.start := by
        rw [List.forall_mem_cons]
        refine ⟨by omega, ?_⟩
        intro d hd
        have := least d hd
        omega
      rw [List.forall_mem_cons]
      constructor
      · -- the span is closed, and what comes later lies behind it
        have none : (next :: rest).filter span.encloses = [] := by
          apply filter_encloses_eq_nil hlater
          intro d hd
          right
          exact behind d hd
        rw [List.filter_append, none, List.append_nil, joins.filter_encloses]
        exact joins
      · intro m hm
        have none : members.filter m.encloses = [] := by
          apply filter_encloses_eq_nil hmembers
          intro d hd
          left
          have inside := joins.within d hd
          rw [encloses_iff] at inside
          have := le_start_of_mem_mergeFrom behind m hm
          omega
        rw [List.filter_append, none, List.nil_append]
        exact ih (Joins.singleton next) tail hlater (List.forall_mem_append.mp numbers).2 m hm

theorem exists_encloses_mergeSpans {detections : List Detection} :
    ∀ d ∈ detections, ∃ m ∈ mergeSpans detections, m.encloses d = true := by
  have sorted := sortStable_mergeOrder_pairwise detections
  rw [← forall_mem_sortStable]
  unfold mergeSpans
  split
  · next heq =>
    rw [heq]
    simp
  · next heq =>
    rw [heq] at sorted ⊢
    exact exists_encloses_mergeFrom sorted

theorem mergeSpans_joins {detections : List Detection}
    (nonempty : ∀ d ∈ detections, d.start < d.stop)
    (numbers : ∀ d ∈ detections, d.score.isNaN = false) :
    ∀ m ∈ mergeSpans detections,
      m.Joins (sortStable mergeOrder (detections.filter m.encloses)) := by
  intro m hm
  have sorted := sortStable_mergeOrder_pairwise detections
  rw [← filter_sortStable mergeOrder_total mergeOrder_trans]
  have nonempty : ∀ d ∈ sortStable mergeOrder detections, d.start < d.stop :=
    forall_mem_sortStable.mpr nonempty
  have numbers : ∀ d ∈ sortStable mergeOrder detections, d.score.isNaN = false :=
    forall_mem_sortStable.mpr numbers
  unfold mergeSpans at hm
  split at hm
  · cases hm
  · next span rest heq =>
    rw [heq] at nonempty numbers sorted ⊢
    exact mergeFrom_joins (Joins.singleton span) sorted nonempty numbers m hm

theorem encloses_or_apart_of_mem_mergeSpans {detections : List Detection} {m d : Detection}
    (hm : m ∈ mergeSpans detections) (hd : d ∈ detections) :
    m.encloses d = true ∨ d.stop ≤ m.start ∨ m.stop ≤ d.start := by
  obtain ⟨around, haround, encloses⟩ := exists_encloses_mergeSpans d hd
  have apart := eq_or_of_mem_pairwise (mergeSpans_pairwise detections) hm haround
  rcases apart with same | before | behind
  · left
    rw [same]
    exact encloses
  · right; right
    rw [encloses_iff] at encloses
    omega
  · right; left
    rw [encloses_iff] at encloses
    omega

theorem nonempty_of_mem_mergeSpans {detections : List Detection}
    (h : ∀ d ∈ detections, d.start < d.stop) : ∀ m ∈ mergeSpans detections, m.start < m.stop := by
  apply mergeSpans_induction (P := fun d => d.start < d.stop)
  · intro a b ha hb
    rw [absorb_start, absorb_stop]
    omega
  · exact h

end PiiScan
