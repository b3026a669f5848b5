import Mathlib.Algebra.Group.Nat.Defs
import PiiScan.Service
import PiiScan.Proofs.Anonymizer

/-!
This module contains the theory of offsets in code points. The table that is made in one pass over
the text gives, for every end of a detection, the number of code points before it, and cutting a
text at these numbers is cutting it at the offsets themselves.
-/

namespace PiiScan
namespace Text

def countBefore (text : Text) (n : Nat) : Nat :=
  (text.takeBytes n).length

def between (text : Text) (start stop : Nat) : Text :=
  (text.drop start).take (stop - start)

theorem countBefore_zero (text : Text) : text.countBefore 0 = 0 := by
  unfold countBefore
  rw [takeBytes_zero, List.length_nil]

theorem countBefore_le_length (text : Text) (n : Nat) : text.countBefore n ≤ text.length := by
  have := congrArg List.length (takeBytes_append_dropBytes n text)
  rw [List.length_append] at this
  unfold countBefore
  omega

theorem between_countBefore {text : Text} {start stop : Nat} (h : text.CanCut start stop) :
    text.between (text.countBefore start) (text.countBefore stop) = text.slice start stop := by
  obtain ⟨order, front, back⟩ := h
  obtain ⟨before, middle, after, rfl, rfl, rfl⟩ := exists_append_of_boundaries order front back
  unfold between countBefore
  rw [takeBytes_append, takeBytes_append_append, slice_append]
  rw [List.drop_left, List.length_append, Nat.add_sub_cancel_left, List.take_left]

theorem isBoundary_dropBytes {text : Text} {last : Nat} (h : text.isBoundary last = true)
    (n : Nat) : (text.dropBytes last).isBoundary n = text.isBoundary (last + n) := by
  obtain ⟨before, after, rfl, rfl⟩ := exists_append_of_isBoundary h
  rw [dropBytes_append, isBoundary_append_add]

theorem dropBytes_dropBytes {text : Text} {start stop : Nat} (h : text.CanCut start stop) :
    (text.dropBytes start).dropBytes (stop - start) = text.dropBytes stop := by
  obtain ⟨order, front, back⟩ := h
  obtain ⟨before, middle, after, rfl, rfl, rfl⟩ := exists_append_of_boundaries order front back
  rw [dropBytes_append, Nat.add_sub_cancel_left, dropBytes_append, dropBytes_append_append]

theorem countBefore_add {text : Text} {start stop : Nat} (h : text.CanCut start stop) :
    text.countBefore start + (text.dropBytes start).countBefore (stop - start) =
      text.countBefore stop := by
  obtain ⟨order, front, back⟩ := h
  unfold countBefore
  rw [← List.length_append]
  exact congrArg List.length (takeBytes_append_slice order front back)

end Text

namespace OffsetTable

open Text

/-! ### The search in a table -/

/--
In which half of a table with ascending offsets an entry stands is decided by the offset in the
middle.
-/
theorem mem_iff_of_half {table later : OffsetTable} {half middle found byte count : Nat}
    (ascending : table.Pairwise fun a b => a.1 < b.1)
    (hhalf : table.drop half = (middle, found) :: later) :
    (byte, count) ∈ table ↔
      (byte < middle ∧ (byte, count) ∈ table.take half) ∨ (byte = middle ∧ found = count) ∨
        (middle < byte ∧ (byte, count) ∈ later) := by
  have split := List.take_append_drop half table
  rw [hhalf] at split
  rw [← split] at ascending
  obtain ⟨-, tail, before⟩ := List.pairwise_append.mp ascending
  have behind := (List.pairwise_cons.mp tail).1
  have mem : (byte, count) ∈ table ↔
      (byte, count) ∈ table.take half ∨ (byte, count) = (middle, found) ∨
      (byte, count) ∈ later := by
    rw [← List.mem_cons, ← List.mem_append, split]
  rw [mem]
  constructor
  · rintro (early | same | late)
    · exact .inl ⟨before _ early _ List.mem_cons_self, early⟩
    · cases same
      exact .inr (.inl ⟨rfl, rfl⟩)
    · exact .inr (.inr ⟨behind _ late, late⟩)
  · rintro (⟨-, early⟩ | ⟨rfl, rfl⟩ | ⟨-, late⟩)
    · exact .inl early
    · exact .inr (.inl rfl)
    · exact .inr (.inr late)

/--
When its offsets ascend, searching a table by halves finds what the table has for an offset.
-/
theorem search_eq_some_iff {table : OffsetTable} {byte count : Nat}
    (ascending : table.Pairwise fun a b => a.1 < b.1) :
    table.search byte = some count ↔ (byte, count) ∈ table := by
  fun_induction search table byte with
  | case1 table none =>
    -- a half is only empty when the whole table is
    have := congrArg List.length none
    rw [List.length_drop, List.length_nil] at this
    have empty : table = [] := by
      apply List.eq_nil_of_length_eq_zero
      omega
    simp [empty]
  | case2 table found later half =>
    rw [mem_iff_of_half ascending half]
    simp
  | case3 table middle found later half other lower ih =>
    rw [ih ascending.take, mem_iff_of_half ascending half]
    simp [other, lower, Nat.lt_asymm lower]
  | case4 table middle found later half other upper ih =>
    have tail := ascending.drop (i := table.length / 2)
    rw [half, List.pairwise_cons] at tail
    have : middle < byte := by omega
    rw [ih tail.2, mem_iff_of_half ascending half]
    simp [other, upper, this]

/-! ### The table of the ends of detections -/

/--
Whatever a table has been made of so far, it goes on with the number of code points before each
offset, up to the first offset that is no boundary.
-/
theorem build_eq {text : Text} {last : Nat} {bytes : List Nat}
    (hlast : text.isBoundary last = true)
    (ascending : (last :: bytes).Pairwise fun a b => a ≤ b) :
    build (text.dropBytes last) last (text.countBefore last) bytes =
      match bytes.find? fun b => !text.isBoundary b with
      | some bad =>
        .error (.internal ("Offset " ++ toString bad ++ " is not a character boundary"))
      | none => .ok (bytes.map fun b => (b, text.countBefore b)) := by
  induction bytes generalizing last with
  | nil => rfl
  | cons byte bytes ih =>
    obtain ⟨least, tail⟩ := List.pairwise_cons.mp ascending
    have order := least byte List.mem_cons_self
    have here : (text.dropBytes last).isBoundary (byte - last) = text.isBoundary byte := by
      rw [isBoundary_dropBytes hlast, Nat.add_sub_cancel' order]
    unfold build
    rw [here]
    cases hbyte : text.isBoundary byte with
    | false => simp [hbyte]
    | true =>
      have cut : text.CanCut last byte := ⟨order, hlast, hbyte⟩
      have counted := countBefore_add cut
      have later := ih hbyte tail
      unfold countBefore at counted later ⊢
      simp only [counted, dropBytes_dropBytes cut, later, List.find?_cons, hbyte, Bool.not_true]
      cases bytes.find? fun b => !text.isBoundary b <;> rfl

theorem mem_distinct {n : Nat} {ns : List Nat} : n ∈ boundaries.distinct ns ↔ n ∈ ns := by
  fun_induction boundaries.distinct ns with
  | case1 a rest ih =>
    rw [ih]
    simp
  | case2 a b rest apart ih => rw [List.mem_cons, List.mem_cons, ih]
  | case3 ns => rfl

theorem distinct_pairwise {ns : List Nat} (sorted : ns.Pairwise fun a b => a ≤ b) :
    (boundaries.distinct ns).Pairwise fun a b => a < b := by
  fun_induction boundaries.distinct ns with
  | case1 a rest ih => exact ih (List.pairwise_cons.mp sorted).2
  | case2 a b rest apart ih =>
    obtain ⟨least, tail⟩ := List.pairwise_cons.mp sorted
    apply List.pairwise_cons.mpr
    refine ⟨?_, ih tail⟩
    intro n hn
    have := least b List.mem_cons_self
    rw [mem_distinct] at hn
    cases List.mem_cons.mp hn with
    | inl same => omega
    | inr later =>
      have := (List.pairwise_cons.mp tail).1 n later
      omega
  | case3 ns short =>
    cases ns with
    | nil => exact List.Pairwise.nil
    | cons a rest =>
      cases rest with
      | nil => exact List.pairwise_singleton _ a
      | cons b rest => exact (short a b rest rfl).elim

theorem mem_boundaries {n : Nat} {detections : List Detection} :
    n ∈ boundaries detections ↔ ∃ d ∈ detections, n = d.start ∨ n = d.stop := by
  unfold boundaries
  rw [mem_distinct, mem_sortStable]
  simp [List.mem_flatMap]

theorem boundaries_pairwise (detections : List Detection) :
    (boundaries detections).Pairwise fun a b => a < b := by
  unfold boundaries
  apply distinct_pairwise
  apply List.Pairwise.imp (R := fun a b => decide (a ≤ b) = true)
  · intro a b h
    exact of_decide_eq_true h
  · apply sortStable_pairwise
    · intro a b
      simp only [decide_eq_true_eq]
      omega
    · intro a b c
      simp only [decide_eq_true_eq]
      omega

theorem ofDetections_eq (text : Text) (detections : List Detection) :
    ofDetections text detections =
      match (boundaries detections).find? fun b => !text.isBoundary b with
      | some bad =>
        .error (.internal ("Offset " ++ toString bad ++ " is not a character boundary"))
      | none => .ok ((boundaries detections).map fun b => (b, text.countBefore b)) := by
  have ascending : (0 :: boundaries detections).Pairwise fun a b => a ≤ b := by
    apply List.pairwise_cons.mpr
    refine ⟨fun b _ => Nat.zero_le b, ?_⟩
    exact (boundaries_pairwise detections).imp Nat.le_of_lt
  have built := build_eq (isBoundary_zero text) ascending
  rw [dropBytes_zero, countBefore_zero] at built
  exact built

theorem count_eq {text : Text} (size : text.byteSize < 2 ^ 63) {byte : Nat} {bytes : List Nat}
    (ascending : bytes.Pairwise fun a b => a < b) (h : byte ∈ bytes) :
    count (bytes.map fun b => (b, text.countBefore b)) byte = .ok (text.countBefore byte) := by
  have := countBefore_le_length text byte
  have := length_le_byteSize text
  have found : search (bytes.map fun b => (b, text.countBefore b)) byte =
      some (text.countBefore byte) := by
    rw [search_eq_some_iff (List.pairwise_map.mpr ascending)]
    exact List.mem_map.mpr ⟨byte, h, rfl⟩
  unfold count
  rw [found]
  dsimp only
  rw [if_pos (by omega)]

end OffsetTable

namespace ScanResponse

def reported (text : Text) (d : Detection) : ReportedDetection :=
  ⟨d.entityType, text.countBefore d.start, text.countBefore d.stop, d.score.toSingle⟩

theorem mapM_ok {α β : Type} {f : α → Except Fault β} {g : α → β} {xs : List α}
    (h : ∀ x ∈ xs, f x = .ok (g x)) : xs.mapM f = .ok (xs.map g) := by
  induction xs with
  | nil => rfl
  | cons x xs ih =>
    obtain ⟨first, rest⟩ := List.forall_mem_cons.mp h
    rw [List.mapM_cons, first, ih rest]
    rfl

theorem ofResult_of_boundaries {text : Text} (size : text.byteSize < 2 ^ 63) {result : ScanResult}
    (h : ∀ d ∈ result.detections,
      text.isBoundary d.start = true ∧ text.isBoundary d.stop = true) :
    ofResult result text =
      .ok ⟨result.detected, result.detections.map (reported text), result.redactedText⟩ := by
  have ascending := OffsetTable.boundaries_pairwise result.detections
  have none : ((OffsetTable.boundaries result.detections).find? fun b => !text.isBoundary b) =
      none := by
    rw [List.find?_eq_none]
    intro b hb
    obtain ⟨d, hd, rfl | rfl⟩ := OffsetTable.mem_boundaries.mp hb
    · simp [(h d hd).1]
    · simp [(h d hd).2]
  have report_ok : ∀ d ∈ result.detections,
      report ((OffsetTable.boundaries result.detections).map fun b => (b, text.countBefore b)) d =
        .ok (reported text d) := by
    intro d hd
    unfold report
    rw [OffsetTable.count_eq size ascending (OffsetTable.mem_boundaries.mpr ⟨d, hd, Or.inl rfl⟩)]
    rw [OffsetTable.count_eq size ascending (OffsetTable.mem_boundaries.mpr ⟨d, hd, Or.inr rfl⟩)]
    rfl
  unfold ofResult
  rw [OffsetTable.ofDetections_eq, none]
  change (result.detections.mapM (report _)) >>= _ = _
  rw [mapM_ok report_ok]
  rfl

theorem ofResult_eq {text : Text} (size : text.byteSize < 2 ^ 63) {result : ScanResult}
    (h : ∀ d ∈ result.detections, d.isValidFor text = true) :
    ofResult result text =
      .ok ⟨result.detected, result.detections.map (reported text), result.redactedText⟩ := by
  apply ofResult_of_boundaries size
  intro d hd
  exact (Detection.isValidFor_iff.mp (h d hd)).2

end ScanResponse
end PiiScan
