import Mathlib.Combinatorics.SimpleGraph.Connectivity.Connected
import Mathlib.Order.Bounds.Defs
import PiiScan.Proofs.Cluster
import PiiScan.Proofs.Overlap

/-!
This module contains merging as the computation of connected components. Detections are told apart
by their places in the input and are joined by an edge when they have a byte in common. There is one
merged span for each component: it runs from the first start to the last end and is named by the
best member.
-/

namespace PiiScan

/--
The graph of the places of detections, in which those of overlapping ones are neighbours.
-/
def overlapGraph (detections : List Detection) : SimpleGraph (Fin detections.length) where
  Adj i j := i ≠ j ∧ (detections.get i).clashes (detections.get j) = true
  symm := by
    constructor
    intro i j h
    rw [Detection.clashes_comm]
    exact ⟨h.1.symm, h.2⟩
  loopless := by
    constructor
    intro i h
    exact h.1 rfl

/--
Whether the detection at one place comes before that at another: by start, the longer first, and by
place.
-/
def MergesBefore (detections : List Detection) (i j : Fin detections.length) : Prop :=
  (detections.get i).start < (detections.get j).start ∨
    ((detections.get i).start = (detections.get j).start ∧
      ((detections.get j).stop < (detections.get i).stop ∨
        ((detections.get i).stop = (detections.get j).stop ∧ i < j)))

/--
A span that reaches over the detections at some places and is named by the best of them, the first
one if several are equally good.
-/
structure Detection.Unites (m : Detection) (detections : List Detection)
    (places : Set (Fin detections.length)) : Prop where
  start : IsLeast ((fun i => (detections.get i).start) '' places) m.start
  stop : IsGreatest ((fun i => (detections.get i).stop) '' places) m.stop
  best : ∃ i ∈ places,
    m.entityType = (detections.get i).entityType ∧ m.score = (detections.get i).score ∧
    ∀ j ∈ places, j ≠ i → (detections.get j).score.level < (detections.get i).score.level ∨
      ((detections.get j).score.level = (detections.get i).score.level ∧
        MergesBefore detections i j)

open Detection

variable {detections : List Detection} {m : Detection}

/-! ### The places in a merged span -/

theorem mem_sortStable_filter_encloses {d : Detection} :
    d ∈ sortStable mergeOrder (detections.filter m.encloses) ↔
      ∃ i : Fin detections.length,
        m.encloses (detections.get i) = true ∧ detections.get i = d := by
  rw [mem_sortStable, List.mem_filter, List.mem_iff_get]
  constructor
  · rintro ⟨⟨i, rfl⟩, inside⟩
    exact ⟨i, inside, rfl⟩
  · rintro ⟨i, inside, rfl⟩
    exact ⟨⟨i, rfl⟩, inside⟩

def enclosedPlaces (m : Detection) (detections : List Detection) : List (Fin detections.length) :=
  (sortStable (fun i j => mergeOrder (detections.get i) (detections.get j))
    (List.finRange detections.length)).filter (m.encloses ∘ detections.get)

theorem mem_enclosedPlaces {i : Fin detections.length} :
    i ∈ enclosedPlaces m detections ↔ m.encloses (detections.get i) = true := by
  simp [enclosedPlaces]

theorem map_enclosedPlaces :
    (enclosedPlaces m detections).map detections.get =
      sortStable mergeOrder (detections.filter m.encloses) := by
  unfold enclosedPlaces
  rw [← List.filter_map, map_sortStable_finRange]
  exact filter_sortStable mergeOrder_total mergeOrder_trans m.encloses detections

theorem enclosedPlaces_pairwise :
    (enclosedPlaces m detections).Pairwise (MergesBefore detections) := by
  unfold enclosedPlaces
  apply List.Pairwise.filter
  apply List.Pairwise.imp _
    (sortStable_finRange_pairwise mergeOrder_total mergeOrder_trans detections)
  intro i j ⟨hij, hji⟩
  rw [mergeOrder_iff] at hij hji
  unfold MergesBefore
  omega

theorem exists_best_place {d : Detection}
    (h : d.FirstBest (sortStable mergeOrder (detections.filter m.encloses))) :
    ∃ i : Fin detections.length, m.encloses (detections.get i) = true ∧ detections.get i = d ∧
      ∀ j : Fin detections.length, m.encloses (detections.get j) = true → j ≠ i →
        (detections.get j).score.level < (detections.get i).score.level ∨
        ((detections.get j).score.level = (detections.get i).score.level ∧
          MergesBefore detections i j) := by
  obtain ⟨before, after, split, lower, least⟩ := h
  rw [← map_enclosedPlaces] at split
  obtain ⟨earlier, rest, places, rfl, hrest⟩ := List.map_eq_append_iff.mp split
  obtain ⟨i, later, rfl, rfl, rfl⟩ := List.map_eq_cons_iff.mp hrest
  have sorted := @enclosedPlaces_pairwise detections m
  have member := fun j => @mem_enclosedPlaces detections m j
  rw [places] at sorted member
  refine ⟨i, ?_, rfl, ?_⟩
  · rw [← member]
    simp
  · intro j hj ne
    rw [← member, List.mem_append, List.mem_cons] at hj
    rcases hj with before | here | behind
    · left
      exact lower _ (List.mem_map_of_mem before)
    · exact absurd here ne
    · have first := (List.pairwise_cons.mp (List.pairwise_append.mp sorted).2.1).1 j behind
      have := least _ (List.mem_map_of_mem behind)
      by_cases same : (detections.get j).score.level = (detections.get i).score.level
      · right
        exact ⟨same, first⟩
      · left
        omega

section

variable (nonempty : ∀ d ∈ detections, d.start < d.stop)
  (numbers : ∀ d ∈ detections, d.score.isNaN = false) (hm : m ∈ mergeSpans detections)

include nonempty numbers hm

theorem unites_of_mem_mergeSpans :
    m.Unites detections {i | m.encloses (detections.get i) = true} := by
  have joins := mergeSpans_joins nonempty numbers m hm
  obtain ⟨first, hfirst, start⟩ := joins.starts
  obtain ⟨last, hlast, stop⟩ := joins.stops
  obtain ⟨d, hd, entityType, score⟩ := joins.best
  obtain ⟨i, inside, rfl⟩ := mem_sortStable_filter_encloses.mp hfirst
  obtain ⟨j, inside', rfl⟩ := mem_sortStable_filter_encloses.mp hlast
  obtain ⟨k, inside'', rfl, best⟩ := exists_best_place hd
  constructor
  · refine ⟨⟨i, inside, start⟩, ?_⟩
    rintro _ ⟨j, hj, rfl⟩
    exact (encloses_iff.mp hj).1
  · refine ⟨⟨j, inside', stop⟩, ?_⟩
    rintro _ ⟨j, hj, rfl⟩
    exact (encloses_iff.mp hj).2
  · exact ⟨k, inside'', entityType, score, best⟩

/-! ### Connected places -/

/--
All places within a merged span are connected: one that does not start with the span is overlapped
by one that starts earlier.
-/
theorem reachable_of_encloses {i j : Fin detections.length}
    (hi : m.encloses (detections.get i) = true)
    (hj : m.encloses (detections.get j) = true) : (overlapGraph detections).Reachable i j := by
  have joins := mergeSpans_joins nonempty numbers m hm
  obtain ⟨d, hd, start⟩ := joins.starts
  obtain ⟨first, inside, rfl⟩ := mem_sortStable_filter_encloses.mp hd
  have wide : ∀ i : Fin detections.length, (detections.get i).start < (detections.get i).stop := by
    intro i
    exact nonempty _ (List.getElem_mem i.isLt)
  have fromFirst : ∀ start, ∀ i : Fin detections.length, (detections.get i).start = start →
      m.encloses (detections.get i) = true → (overlapGraph detections).Reachable first i := by
    -- the induction is over all places with a start at once: the detection that overlaps one of
    -- them may start at any earlier byte
    intro start
    induction start using Nat.strong_induction_on with
    | h start ih =>
      intro i hstart hi
      have := wide i
      have := wide first
      rw [encloses_iff] at hi
      by_cases same : first = i
      · rw [same]
      · by_cases atStart : (detections.get i).start = m.start
        · apply SimpleGraph.Adj.reachable
          refine ⟨same, ?_⟩
          rw [clashes_iff]
          omega
        · obtain ⟨e, he, reaches⟩ := joins.joined (detections.get i).start (by omega) (by omega)
          obtain ⟨k, inside, rfl⟩ := mem_sortStable_filter_encloses.mp he
          apply (ih _ (by omega) k rfl inside).trans
          apply SimpleGraph.Adj.reachable
          constructor
          · rintro rfl
            omega
          · rw [clashes_iff]
            omega
  exact (fromFirst _ i rfl hi).symm.trans (fromFirst _ j rfl hj)

omit numbers in
theorem encloses_of_clashes {d e : Detection} (hd : d ∈ detections) (he : e ∈ detections)
    (inside : m.encloses d = true) (clash : d.clashes e = true) : m.encloses e = true := by
  apply (encloses_or_apart_of_mem_mergeSpans hm he).resolve_right
  have := nonempty d hd
  rw [encloses_iff] at inside
  rw [clashes_iff] at clash
  omega

omit numbers in
theorem encloses_of_reachable {i j : Fin detections.length}
    (h : (overlapGraph detections).Reachable i j) (hi : m.encloses (detections.get i) = true) :
    m.encloses (detections.get j) = true := by
  rw [SimpleGraph.reachable_iff_reflTransGen] at h
  induction h with
  | refl => exact hi
  | @tail j k _ adj ih =>
    apply encloses_of_clashes nonempty hm _ _ ih adj.2
    · exact List.getElem_mem j.isLt
    · exact List.getElem_mem k.isLt

end

theorem eq_of_encloses {k l : Fin (mergeSpans detections).length} {d : Detection}
    (nonempty : d.start < d.stop) (hk : ((mergeSpans detections).get k).encloses d = true)
    (hl : ((mergeSpans detections).get l).encloses d = true) : k = l := by
  have apart := List.pairwise_iff_get.mp (mergeSpans_pairwise detections)
  rw [encloses_iff] at hk hl
  rcases Nat.lt_trichotomy k.val l.val with before | same | behind
  · have := apart k l before
    omega
  · exact Fin.ext same
  · have := apart l k behind
    omega

theorem exists_equiv_connectedComponent (nonempty : ∀ d ∈ detections, d.start < d.stop)
    (numbers : ∀ d ∈ detections, d.score.isNaN = false) :
    ∃ component : Fin (mergeSpans detections).length ≃
        (overlapGraph detections).ConnectedComponent,
      ∀ k i, i ∈ (component k).supp ↔
        ((mergeSpans detections).get k).encloses (detections.get i) = true := by
  have mem : ∀ k : Fin (mergeSpans detections).length,
      (mergeSpans detections).get k ∈ mergeSpans detections := by
    intro k
    exact List.getElem_mem k.isLt
  have inhabited : ∀ k : Fin (mergeSpans detections).length, ∃ i : Fin detections.length,
      ((mergeSpans detections).get k).encloses (detections.get i) = true := by
    intro k
    obtain ⟨i, inside, -⟩ := (unites_of_mem_mergeSpans nonempty numbers (mem k)).best
    exact ⟨i, inside⟩
  choose place inside using inhabited
  have supp : ∀ k i, (overlapGraph detections).Reachable i (place k) ↔
      ((mergeSpans detections).get k).encloses (detections.get i) = true := by
    intro k i
    constructor
    · intro connected
      exact encloses_of_reachable nonempty (mem k) connected.symm (inside k)
    · intro inside'
      exact reachable_of_encloses nonempty numbers (mem k) inside' (inside k)
  have bijective : Function.Bijective fun k =>
      (overlapGraph detections).connectedComponentMk (place k) := by
    constructor
    · intro k l same
      have connected := SimpleGraph.ConnectedComponent.exact same
      apply eq_of_encloses _ (inside k) ((supp l (place k)).mp connected)
      exact nonempty _ (List.getElem_mem (place k).isLt)
    · intro component
      induction component using SimpleGraph.ConnectedComponent.ind with
      | h i =>
        obtain ⟨m, hm, around⟩ := exists_encloses_mergeSpans _ (List.getElem_mem i.isLt)
        obtain ⟨k, hk, rfl⟩ := List.mem_iff_getElem.mp hm
        refine ⟨⟨k, hk⟩, ?_⟩
        apply SimpleGraph.ConnectedComponent.sound
        exact ((supp ⟨k, hk⟩ i).mpr around).symm
  refine ⟨Equiv.ofBijective _ bijective, ?_⟩
  intro k i
  rw [SimpleGraph.ConnectedComponent.mem_supp_iff, ← supp]
  exact SimpleGraph.ConnectedComponent.eq

theorem encloses_eq_covers_start (nonempty : ∀ d ∈ detections, d.start < d.stop)
    {d : Detection} (hm : m ∈ mergeSpans detections) (hd : d ∈ detections) :
    m.encloses d = m.covers d.start := by
  have := nonempty d hd
  have := encloses_or_apart_of_mem_mergeSpans hm hd
  rw [Bool.eq_iff_iff, covers_iff]
  rw [encloses_iff] at this ⊢
  omega

theorem countP_encloses_mergeSpans (nonempty : ∀ d ∈ detections, d.start < d.stop)
    {d : Detection} (hd : d ∈ detections) :
    (mergeSpans detections).countP (·.encloses d) = 1 := by
  have covered : detections.any (·.covers d.start) = true := by
    rw [List.any_eq_true]
    refine ⟨d, hd, ?_⟩
    rw [covers_iff]
    exact ⟨Nat.le_refl _, nonempty d hd⟩
  have same : (mergeSpans detections).countP (·.encloses d) =
      (mergeSpans detections).countP (·.covers d.start) := by
    apply List.countP_congr
    intro m hm
    rw [encloses_eq_covers_start nonempty hm hd]
  rw [same, countP_covers_mergeSpans, if_pos covered]

/--
Merging returns one span for each connected component of the overlap graph. The span reaches from
the first start to the last end among the members of its component and has the entity type and the
score of the best, the first one in the order of merging if several are equally good. The spans are
in order and apart; every detection lies in one of them, and they cover the same bytes as the
detections. So merging once more changes nothing.
-/
theorem mergeSpans_components (nonempty : ∀ d ∈ detections, d.start < d.stop)
    (numbers : ∀ d ∈ detections, d.score.isNaN = false) :
    (∃ component : Fin (mergeSpans detections).length ≃
        (overlapGraph detections).ConnectedComponent,
      ∀ k, ((mergeSpans detections).get k).Unites detections (component k).supp ∧
        ∀ i, i ∈ (component k).supp ↔
          ((mergeSpans detections).get k).encloses (detections.get i) = true) ∧
    (∀ d ∈ detections, (mergeSpans detections).countP (·.encloses d) = 1) ∧
    (∀ i, (mergeSpans detections).any (·.covers i) = detections.any (·.covers i)) ∧
    ((mergeSpans detections).Pairwise fun a b => a.start < b.start ∧ a.stop ≤ b.start) ∧
    mergeSpans (mergeSpans detections) = mergeSpans detections := by
  have apart := mergeSpans_pairwise detections
  have wide := nonempty_of_mem_mergeSpans nonempty
  refine ⟨?_, ?_, ?_, ?_, ?_⟩
  · obtain ⟨component, members⟩ := exists_equiv_connectedComponent nonempty numbers
    refine ⟨component, ?_⟩
    intro k
    have places : (component k).supp =
        {i | ((mergeSpans detections).get k).encloses (detections.get i) = true} := by
      ext i
      exact members k i
    refine ⟨?_, members k⟩
    rw [places]
    exact unites_of_mem_mergeSpans nonempty numbers (List.getElem_mem k.isLt)
  · intro d hd
    exact countP_encloses_mergeSpans nonempty hd
  · intro i
    rw [Bool.eq_iff_iff, List.any_eq_true, List.any_eq_true]
    exact mergeSpans_covers detections i
  · apply List.Pairwise.imp_of_mem _ apart
    intro a b ha _ gap
    have := wide a ha
    omega
  · exact mergeSpans_eq_self wide apart

/--
Two equal ranges that reach into a third one, and a detection that touches this.
-/
def touchedChain : List Detection := [
  ⟨"NAME", 4, 8, .one⟩, ⟨"PERSON", 0, 5, .one⟩, ⟨"EMAIL_ADDRESS", 0, 5, .one⟩,
  ⟨"CITY", 8, 9, .zero⟩]

theorem mergeSpans_touchedChain :
    (∀ d ∈ touchedChain, d.start < d.stop) ∧ (∀ d ∈ touchedChain, d.score.isNaN = false) ∧
      mergeSpans touchedChain = [⟨"PERSON", 0, 8, .one⟩, ⟨"CITY", 8, 9, .zero⟩] ∧
      mergeSpans (mergeSpans touchedChain) = mergeSpans touchedChain ∧
      ∃ component : Fin (mergeSpans touchedChain).length ≃
          (overlapGraph touchedChain).ConnectedComponent,
        ∀ k : Fin (mergeSpans touchedChain).length,
          ((mergeSpans touchedChain).get k).Unites touchedChain (component k).supp := by
  have nonempty : ∀ d ∈ touchedChain, d.start < d.stop := by decide +kernel
  have numbers : ∀ d ∈ touchedChain, d.score.isNaN = false := by decide +kernel
  obtain ⟨⟨component, unites⟩, -, -, -, again⟩ := mergeSpans_components nonempty numbers
  refine ⟨nonempty, numbers, by decide +kernel, again, component, ?_⟩
  intro k
  exact (unites k).1

end PiiScan
