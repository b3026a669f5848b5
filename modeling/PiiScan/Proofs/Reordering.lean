import PiiScan.Proofs.Anonymizer
import PiiScan.Proofs.Cluster

/-!
This module contains what the order of the detections means for the anonymized text, which is
nothing, unless two entity types tie. Two lists of the same detections have spans with the same
ends, since a span of the one list cannot end where detections of the other reach over; and the best
detections of such spans outrank each other.
-/

namespace PiiScan

open Detection

namespace Detection

structure Same (d e : Detection) : Prop where
  entityType : d.entityType = e.entityType
  start : d.start = e.start
  stop : d.stop = e.stop
  level : d.score.level = e.score.level

theorem same_iff {d e : Detection} :
    d.Same e ↔ d.entityType = e.entityType ∧ d.start = e.start ∧ d.stop = e.stop ∧
      d.score.level = e.score.level := by
  constructor
  · intro h
    exact ⟨h.entityType, h.start, h.stop, h.level⟩
  · rintro ⟨entityType, start, stop, level⟩
    exact ⟨entityType, start, stop, level⟩

instance (d e : Detection) : Decidable (d.Same e) :=
  decidable_of_iff _ same_iff.symm

def unscored (d : Detection) : Detection := { d with score := .zero }

end Detection

def SameDetections (a b : List Detection) : Prop :=
  (∀ d ∈ a, ∃ e ∈ b, d.Same e) ∧ ∀ e ∈ b, ∃ d ∈ a, e.Same d

instance (a b : List Detection) : Decidable (SameDetections a b) :=
  inferInstanceAs (Decidable (_ ∧ _))

/--
Detections of the same range that are equally good have the same entity type.
-/
def TiesAgree (detections : List Detection) : Prop :=
  ∀ d ∈ detections, ∀ e ∈ detections, d.start = e.start → d.stop = e.stop →
    d.score.level = e.score.level → d.entityType = e.entityType

instance (detections : List Detection) : Decidable (TiesAgree detections) :=
  inferInstanceAs (Decidable (∀ d ∈ detections, ∀ e ∈ detections, _))

namespace SameDetections

variable {a b : List Detection}

theorem symm (same : SameDetections a b) : SameDetections b a := by
  exact ⟨same.2, same.1⟩

theorem nonempty (same : SameDetections a b) (h : ∀ d ∈ a, d.start < d.stop) :
    ∀ e ∈ b, e.start < e.stop := by
  intro e he
  obtain ⟨d, hd, equal⟩ := same.2 e he
  rw [equal.start, equal.stop]
  exact h d hd

theorem numbers (same : SameDetections a b) (h : ∀ d ∈ a, d.score.isNaN = false) :
    ∀ e ∈ b, e.score.isNaN = false := by
  intro e he
  obtain ⟨d, hd, equal⟩ := same.2 e he
  rw [Score.isNaN_eq_of_level_eq equal.level]
  exact h d hd

theorem tiesAgree (same : SameDetections a b) (h : TiesAgree a) : TiesAgree b := by
  intro d hd e he start stop level
  obtain ⟨d', hd', equal⟩ := same.2 d hd
  obtain ⟨e', he', equal'⟩ := same.2 e he
  rw [equal.entityType, equal'.entityType]
  rw [equal.start, equal'.start] at start
  rw [equal.stop, equal'.stop] at stop
  rw [equal.level, equal'.level] at level
  exact h d' hd' e' he' start stop level

theorem isValidFor (same : SameDetections a b) {text : Text}
    (h : ∀ d ∈ a, d.isValidFor text = true) : ∀ e ∈ b, e.isValidFor text = true := by
  intro e he
  obtain ⟨d, hd, equal⟩ := same.2 e he
  unfold Detection.isValidFor
  rw [equal.start, equal.stop]
  exact h d hd

/--
Where a merged span of the one list begins or ends, no merged span of the other list goes on.
-/
theorem not_inside (same : SameDetections a b) (nonempty : ∀ d ∈ a, d.start < d.stop)
    (numbers : ∀ d ∈ a, d.score.isNaN = false) {m m' : Detection} (hm : m ∈ mergeSpans a)
    (hm' : m' ∈ mergeSpans b) {i : Nat} (bound : i = m.start ∨ i = m.stop) :
    ¬ (m'.start < i ∧ i < m'.stop) := by
  rintro ⟨front, back⟩
  have joins := mergeSpans_joins (same.nonempty nonempty) (same.numbers numbers) m' hm'
  obtain ⟨e, he, front, back⟩ := joins.joined i front back
  rw [mem_sortStable, List.mem_filter] at he
  obtain ⟨d, hd, equal⟩ := same.2 e he.1
  rw [equal.start] at front
  rw [equal.stop] at back
  have := nonempty_of_mem_mergeSpans nonempty m hm
  have apart := encloses_or_apart_of_mem_mergeSpans hm hd
  rw [encloses_iff] at apart
  omega

theorem exists_same_range (same : SameDetections a b) (nonempty : ∀ d ∈ a, d.start < d.stop)
    (numbers : ∀ d ∈ a, d.score.isNaN = false) {m : Detection} (hm : m ∈ mergeSpans a) :
    ∃ m' ∈ mergeSpans b, m'.start = m.start ∧ m'.stop = m.stop := by
  -- the span around the first detection of `m` begins with it, and so it has to end with `m`
  obtain ⟨d, hd, start⟩ := (mergeSpans_joins nonempty numbers m hm).starts
  rw [mem_sortStable, List.mem_filter] at hd
  obtain ⟨e, he, equal⟩ := same.1 d hd.1
  obtain ⟨m', hm', around⟩ := exists_encloses_mergeSpans e he
  rw [encloses_iff, ← equal.start, ← equal.stop] at around
  have := nonempty d hd.1
  have := nonempty_of_mem_mergeSpans nonempty m hm
  have ofStart := same.not_inside nonempty numbers hm hm' (.inl rfl)
  have ofStop := same.not_inside nonempty numbers hm hm' (.inr rfl)
  have ofStop' :=
    same.symm.not_inside (same.nonempty nonempty) (same.numbers numbers) hm' hm (.inr rfl)
  exact ⟨m', hm', by omega, by omega⟩

theorem outranks (same : SameDetections a b) {m d e : Detection}
    (hd : d.FirstBest (sortStable mergeOrder (a.filter m.encloses))) (he : e ∈ b)
    (encloses : m.encloses e = true) :
    e.score.level ≤ d.score.level ∧
      (e.score.level = d.score.level → mergeOrder d e = true) := by
  obtain ⟨d', hd', equal⟩ := same.2 e he
  have sorted := sortStable_pairwise mergeOrder_total mergeOrder_trans (a.filter m.encloses)
  have member : d' ∈ sortStable mergeOrder (a.filter m.encloses) := by
    rw [encloses_iff, equal.start, equal.stop] at encloses
    rw [mem_sortStable, List.mem_filter, encloses_iff]
    exact ⟨hd', encloses⟩
  rw [mergeOrder_iff, equal.start, equal.stop, equal.level, ← mergeOrder_iff]
  exact ⟨hd.level_le member, hd.mergeOrder_of_level_eq sorted member⟩

/--
The best detections in spans of the same range are equally good and come equally early, so they
agree.
-/
theorem entityType_eq (same : SameDetections a b) (nonempty : ∀ d ∈ a, d.start < d.stop)
    (numbers : ∀ d ∈ a, d.score.isNaN = false) (ties : TiesAgree a) {m m' : Detection}
    (hm : m ∈ mergeSpans a) (hm' : m' ∈ mergeSpans b) (start : m'.start = m.start)
    (stop : m'.stop = m.stop) : m'.entityType = m.entityType := by
  have joins := mergeSpans_joins nonempty numbers m hm
  have joins' := mergeSpans_joins (same.nonempty nonempty) (same.numbers numbers) m' hm'
  obtain ⟨d, hd, entityType, -⟩ := joins.best
  obtain ⟨e, he, entityType', -⟩ := joins'.best
  have dmem := hd.mem
  have emem := he.mem
  rw [mem_sortStable, List.mem_filter, encloses_iff] at dmem emem
  -- each of the two outranks the other
  have above := same.outranks hd emem.1 (by rw [encloses_iff]; omega)
  have below := same.symm.outranks he dmem.1 (by rw [encloses_iff]; omega)
  have level : d.score.level = e.score.level := by omega
  have first := above.2 level.symm
  have first' := below.2 level
  rw [mergeOrder_iff] at first first'
  obtain ⟨d', hd', equal⟩ := same.2 e emem.1
  rw [entityType, entityType', equal.entityType]
  apply ties d' hd' d dmem.1
  · rw [← equal.start]; omega
  · rw [← equal.stop]; omega
  · rw [← equal.level]; exact level.symm

theorem exists_unscored_eq (same : SameDetections a b) (nonempty : ∀ d ∈ a, d.start < d.stop)
    (numbers : ∀ d ∈ a, d.score.isNaN = false) (ties : TiesAgree a) {m : Detection}
    (hm : m ∈ mergeSpans a) : ∃ m' ∈ mergeSpans b, m'.unscored = m.unscored := by
  obtain ⟨m', hm', start, stop⟩ := same.exists_same_range nonempty numbers hm
  have entityType := same.entityType_eq nonempty numbers ties hm hm' start stop
  refine ⟨m', hm', ?_⟩
  unfold unscored
  rw [entityType, start, stop]

end SameDetections

theorem unscored_mergeSpans_pairwise {detections : List Detection}
    (nonempty : ∀ d ∈ detections, d.start < d.stop) :
    ((mergeSpans detections).map unscored).Pairwise fun a b => a.start < b.start := by
  rw [List.pairwise_map]
  apply List.Pairwise.imp_of_mem _ (mergeSpans_pairwise detections)
  intro a b ha _ gap
  have := nonempty_of_mem_mergeSpans nonempty a ha
  show a.start < b.start
  omega

/--
Lists of the same detections have the same merged spans, up to zeros of different sign among the
scores.
-/
theorem SameDetections.unscored_mergeSpans_eq {a b : List Detection} (same : SameDetections a b)
    (nonempty : ∀ d ∈ a, d.start < d.stop) (numbers : ∀ d ∈ a, d.score.isNaN = false)
    (ties : TiesAgree a) : (mergeSpans a).map unscored = (mergeSpans b).map unscored := by
  have nonempty' := same.nonempty nonempty
  apply eq_of_pairwise_of_mem_iff _ (unscored_mergeSpans_pairwise nonempty)
    (unscored_mergeSpans_pairwise nonempty')
  · intro m
    rw [List.mem_map, List.mem_map]
    constructor
    · rintro ⟨m', hm', rfl⟩
      exact same.exists_unscored_eq nonempty numbers ties hm'
    · rintro ⟨m', hm', rfl⟩
      exact same.symm.exists_unscored_eq nonempty' (same.numbers numbers) (same.tiesAgree ties) hm'
  · intro a b before behind
    omega

namespace OperatorTable

open Text

variable {table : OperatorTable} {text : Text}

theorem assemble_unscored {spans : List Detection} {start : Nat} :
    text.assemble (table.replacement text) start (spans.map unscored) =
      text.assemble (table.replacement text) start spans := by
  induction spans generalizing start with
  | nil => rfl
  | cons span rest ih =>
    rw [List.map_cons, assemble_cons, assemble_cons]
    rw [← ih]
    rfl

/--
The anonymized text depends on the set of detections only, not on their order or on how often each
is given, unless detections of the same range and the same score have different entity types. Scores
are compared as numbers.
-/
theorem anonymize_eq_of_sameDetections (table : OperatorTable) (text : Text)
    (a b : List Detection) (same : SameDetections a b)
    (valid : ∀ d ∈ a, d.isValidFor text = true) (numbers : ∀ d ∈ a, d.score.isNaN = false)
    (ties : TiesAgree a) :
    ∃ redacted, table.anonymize text a = .ok redacted ∧
      table.anonymize text b = .ok redacted := by
  have nonempty : ∀ d ∈ a, d.start < d.stop := by
    intro d hd
    exact (isValidFor_iff.mp (valid d hd)).1
  refine ⟨_, anonymize_eq_assemble valid, ?_⟩
  rw [anonymize_eq_assemble (same.isValidFor valid)]
  rw [← assemble_unscored, ← same.unscored_mergeSpans_eq nonempty numbers ties, assemble_unscored]

theorem anonymize_reordered_and_repeated :
    anonymize {} "id 4111111111111111 end".toList
        [⟨"NAME", 15, 23, .one⟩, ⟨"PHONE_NUMBER", 3, 13, ⟨0x8000000000000000⟩⟩,
          ⟨"CREDIT_CARD", 3, 19, .one⟩, ⟨"NAME", 15, 23, .one⟩] =
      .ok "id <CREDIT_CARD>".toList := by
  have sorted : anonymize {} "id 4111111111111111 end".toList
      [⟨"CREDIT_CARD", 3, 19, .one⟩, ⟨"PHONE_NUMBER", 3, 13, .zero⟩, ⟨"NAME", 15, 23, .one⟩] =
        .ok "id <CREDIT_CARD>".toList := by
    rw [anonymize_of_valid (by decide +kernel)]
    apply congrArg Except.ok
    decide +kernel
  obtain ⟨redacted, before, after⟩ := anonymize_eq_of_sameDetections {}
    "id 4111111111111111 end".toList
    [⟨"CREDIT_CARD", 3, 19, .one⟩, ⟨"PHONE_NUMBER", 3, 13, .zero⟩, ⟨"NAME", 15, 23, .one⟩]
    [⟨"NAME", 15, 23, .one⟩, ⟨"PHONE_NUMBER", 3, 13, ⟨0x8000000000000000⟩⟩,
      ⟨"CREDIT_CARD", 3, 19, .one⟩, ⟨"NAME", 15, 23, .one⟩]
    (by decide +kernel) (by decide +kernel) (by decide +kernel) (by decide +kernel)
  rw [after, ← before, sorted]

-- of two entity types that tie, the one that is given first is shown
example :
    (anonymize {} "Jo".toList [⟨"NAME", 0, 2, .one⟩, ⟨"PERSON", 0, 2, .one⟩]).toOption =
      some "<NAME>".toList ∧
    (anonymize {} "Jo".toList [⟨"PERSON", 0, 2, .one⟩, ⟨"NAME", 0, 2, .one⟩]).toOption =
      some "<PERSON>".toList := by
  decide +kernel

end OperatorTable
end PiiScan
