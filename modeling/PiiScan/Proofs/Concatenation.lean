import PiiScan.Proofs.Anonymizer

/-!
This module contains the anonymization of a text that is put together from two. Nothing that the
anonymizer does crosses the seam: sorting and merging keep the detections of both parts apart, also
where they touch, and all offsets behind the seam are moved by the same distance.
-/

namespace PiiScan
namespace Detection

/--
A detection in a text that has been put behind so many bytes.
-/
def shift (distance : Nat) (d : Detection) : Detection :=
  ⟨d.entityType, distance + d.start, distance + d.stop, d.score⟩

variable {distance : Nat} {a b d : Detection}

@[simp]
theorem shift_start : (d.shift distance).start = distance + d.start := rfl

@[simp]
theorem shift_stop : (d.shift distance).stop = distance + d.stop := rfl

theorem absorb_shift :
    (a.shift distance).absorb (b.shift distance) = (a.absorb b).shift distance := by
  unfold absorb shift
  simp only [Nat.add_max_add_left]
  split <;> rfl

theorem mergeOrder_shift : mergeOrder (a.shift distance) (b.shift distance) = mergeOrder a b := by
  simp [mergeOrder]

theorem isValidFor_append_left {text : Text} (h : d.isValidFor text = true) (after : Text) :
    d.isValidFor (text ++ after) = true := by
  rw [isValidFor_iff] at h ⊢
  refine ⟨h.1, ?_, ?_⟩
  · exact Text.isBoundary_append_left h.2.1 after
  · exact Text.isBoundary_append_left h.2.2 after

theorem isValidFor_shift {text : Text} (h : d.isValidFor text = true) (before : Text) :
    (d.shift before.byteSize).isValidFor (before ++ text) = true := by
  rw [isValidFor_iff] at h ⊢
  rw [shift_start, shift_stop, Text.isBoundary_append_add, Text.isBoundary_append_add]
  exact ⟨by omega, h.2⟩

end Detection

open Detection

/-! ### Merging -/

variable {distance : Nat} {span next : Detection} {xs ys : List Detection}

theorem mergeFrom_map_shift :
    mergeFrom (span.shift distance) (xs.map (shift distance)) =
      (mergeFrom span xs).map (shift distance) := by
  induction xs generalizing span with
  | nil => rfl
  | cons next rest ih =>
    have overlap : (next.shift distance).start < (span.shift distance).stop ↔
        next.start < span.stop := by
      simp
    simp only [List.map_cons, mergeFrom, overlap, absorb_shift, ih]
    split <;> rfl

theorem mergeSpans_map_shift :
    mergeSpans (xs.map (shift distance)) = (mergeSpans xs).map (shift distance) := by
  unfold mergeSpans
  rw [sortStable_map]
  simp only [mergeOrder_shift]
  cases sortStable mergeOrder xs with
  | nil => rfl
  | cons span rest => exact mergeFrom_map_shift

theorem mergeFrom_append (gap : ∀ d ∈ span :: xs, d.stop ≤ next.start) :
    mergeFrom span (xs ++ next :: ys) = mergeFrom span xs ++ mergeFrom next ys := by
  induction xs generalizing span with
  | nil =>
    have := gap span List.mem_cons_self
    simp only [List.nil_append, mergeFrom]
    rw [if_neg (by omega), List.singleton_append]
  | cons d rest ih =>
    simp only [List.forall_mem_cons] at gap ih
    obtain ⟨hspan, hd, hrest⟩ := gap
    simp only [List.cons_append, mergeFrom]
    split
    · apply ih
      rw [absorb_stop]
      exact ⟨by omega, hrest⟩
    · rw [ih ⟨hd, hrest⟩, List.cons_append]

/--
Detections that end before the others start, or where these do, are merged on their own.
-/
theorem mergeSpans_append (nonempty : ∀ d ∈ xs, d.start < d.stop)
    (apart : ∀ d ∈ xs, ∀ e ∈ ys, d.stop ≤ e.start) :
    mergeSpans (xs ++ ys) = mergeSpans xs ++ mergeSpans ys := by
  have order : ∀ d ∈ xs, ∀ e ∈ ys, mergeOrder d e = true := by
    intro d hd e he
    have := nonempty d hd
    have := apart d hd e he
    rw [mergeOrder_iff]
    omega
  have apart : ∀ d ∈ sortStable mergeOrder xs, ∀ e ∈ sortStable mergeOrder ys,
      d.stop ≤ e.start := by
    simpa only [mem_sortStable] using apart
  unfold mergeSpans
  rw [sortStable_append order]
  cases hxs : sortStable mergeOrder xs with
  | nil => rfl
  | cons span xs' =>
    cases hys : sortStable mergeOrder ys with
    | nil => simp
    | cons next ys' =>
      rw [hxs, hys] at apart
      apply mergeFrom_append
      intro d hd
      exact apart d hd next List.mem_cons_self

/-! ### Rewriting -/

namespace OperatorTable

open Text

variable {table : OperatorTable} {a b : Text} {spans later : List Detection}

theorem rewrite_append_map_shift :
    table.rewrite (a ++ b) (spans.map (shift a.byteSize)) = a ++ table.rewrite b spans := by
  induction spans with
  | nil => rfl
  | cons span rest ih =>
    have same : table.replacement (a ++ b) (span.shift a.byteSize) = table.replacement b span := by
      unfold replacement
      rw [shift_start, shift_stop, slice_append_add]
      rfl
    rw [List.map_cons, rewrite_cons, rewrite_cons, ih, same]
    exact splice_append_add a _ _ _ _

theorem rewrite_append_append {rest : Text} (valid : ∀ s ∈ spans, s.isValidFor a = true)
    (apart : spans.Pairwise fun x y => x.stop ≤ y.start)
    (behind : table.rewrite (a ++ b) later = a ++ rest) :
    table.rewrite (a ++ b) (spans ++ later) = table.rewrite a spans ++ rest := by
  induction spans with
  | nil => exact behind
  | cons span spans ih =>
    obtain ⟨hspan, hspans⟩ := List.forall_mem_cons.mp valid
    -- also after the spans behind it have been rewritten, this one lies within the first part
    have cut := @canCut_rewrite table a [] spans span valid apart
    have same : table.replacement (a ++ b) span = table.replacement a span := by
      unfold replacement
      rw [(canCut_of_isValidFor hspan).slice_append_left]
    rw [List.cons_append, rewrite_cons, rewrite_cons, same]
    rw [ih hspans (List.pairwise_cons.mp apart).2]
    rw [cut.splice_append_left]

/--
A text put together from two is anonymized by putting together what the two are anonymized to, also
when a detection ends where one behind the seam starts.
-/
theorem anonymize_append (table : OperatorTable) (a b : Text) (ds es : List Detection)
    (avalid : ∀ d ∈ ds, d.isValidFor a = true) (bvalid : ∀ e ∈ es, e.isValidFor b = true) :
    ∃ left right, table.anonymize a ds = .ok left ∧ table.anonymize b es = .ok right ∧
      table.anonymize (a ++ b) (ds ++ es.map (shift a.byteSize)) = .ok (left ++ right) := by
  refine ⟨_, _, anonymize_of_valid avalid, anonymize_of_valid bvalid, ?_⟩
  have valid : ∀ d ∈ ds ++ es.map (shift a.byteSize), d.isValidFor (a ++ b) = true := by
    rw [List.forall_mem_append, List.forall_mem_map]
    constructor
    · intro d hd
      exact isValidFor_append_left (avalid d hd) b
    · intro e he
      exact isValidFor_shift (bvalid e he) a
  have nonempty : ∀ d ∈ ds, d.start < d.stop := by
    intro d hd
    exact (isValidFor_iff.mp (avalid d hd)).1
  have seam : ∀ d ∈ ds, ∀ e ∈ es.map (shift a.byteSize), d.stop ≤ e.start := by
    intro d hd
    rw [List.forall_mem_map]
    intro e _
    have := le_byteSize_of_isBoundary (isValidFor_iff.mp (avalid d hd)).2.2
    rw [shift_start]
    omega
  rw [anonymize_of_valid valid, mergeSpans_append nonempty seam, mergeSpans_map_shift]
  apply congrArg Except.ok
  apply rewrite_append_append
  · exact isValidFor_of_mem_mergeSpans avalid
  · exact mergeSpans_pairwise ds
  · exact rewrite_append_map_shift

theorem anonymize_append_touching :
    anonymize { overrides := [("NAME", .mask "#" none false)] }
        ("à Zoë".toList ++ "Anne!".toList)
        ([⟨"CITY", 5, 7, .zero⟩, ⟨"NAME", 3, 7, .one⟩] ++
          [⟨"CITY", 0, 4, .one⟩].map (shift (byteSize "à Zoë".toList))) =
      .ok ("à ###".toList ++ "<CITY>!".toList) := by
  obtain ⟨left, right, hleft, hright, joined⟩ :=
    anonymize_append { overrides := [("NAME", .mask "#" none false)] } "à Zoë".toList
      "Anne!".toList [⟨"CITY", 5, 7, .zero⟩, ⟨"NAME", 3, 7, .one⟩] [⟨"CITY", 0, 4, .one⟩]
      (by decide +kernel) (by decide +kernel)
  rw [anonymize_of_valid (by decide +kernel)] at hleft hright
  cases hleft
  cases hright
  rw [joined]
  apply congrArg Except.ok
  decide +kernel

end OperatorTable
end PiiScan
