import PiiScan.Proofs.Offsets

/-!
This module contains what is reported of a result, whatever its detections are. There is a report if
and only if every end of a detection is a boundary of the text, and it counts code points; else the
fault names the least end that is none.
-/

namespace PiiScan
namespace Text

theorem drop_take_toUtf8 {text : Text} {start stop : Nat} (h : text.CanCut start stop) :
    (text.toUtf8.take stop).drop start = (text.slice start stop).toUtf8 := by
  obtain ⟨order, front, back⟩ := h
  obtain ⟨before, middle, after, rfl, rfl, rfl⟩ := exists_append_of_boundaries order front back
  rw [slice_append, toUtf8_append, toUtf8_append]
  rw [← length_toUtf8, ← length_toUtf8]
  rw [List.take_length_add_append, List.take_left, List.drop_left]

end Text

theorem append_ne_append_of_getLast? {a b : String} {x y : Char} (ha : a.toList.getLast? = some x)
    (hb : b.toList.getLast? = some y) (differ : x ≠ y) (s t : String) : s ++ a ≠ t ++ b := by
  intro same
  have last := congrArg (fun message => message.toList.getLast?) same
  simp only [String.toList_append, List.getLast?_append, ha, hb, Option.some_or,
    Option.some_inj] at last
  exact differ last

namespace OffsetTable

theorem le_of_find?_eq_some {p : Nat → Bool} {n : Nat} {ns : List Nat}
    (ascending : ns.Pairwise fun a b => a < b) (h : ns.find? p = some n) :
    ∀ m ∈ ns, p m = true → n ≤ m := by
  obtain ⟨-, before, after, rfl, skipped⟩ := List.find?_eq_some_iff_append.mp h
  have behind := (List.pairwise_cons.mp (List.pairwise_append.mp ascending).2.1).1
  intro m hm found
  rcases List.mem_append.mp hm with early | late
  · have := skipped m early
    simp [found] at this
  · cases List.mem_cons.mp late with
    | inl same => exact Nat.le_of_eq same.symm
    | inr later => exact Nat.le_of_lt (behind m later)

end OffsetTable

namespace ScanResponse

variable {result : ScanResult} {text : Text}

/--
A result is either reported in full, or the least end of a detection that is no boundary is the
fault.
-/
theorem ofResult_cases (result : ScanResult) (size : text.byteSize < 2 ^ 63) :
    ((∀ d ∈ result.detections, text.isBoundary d.start = true ∧ text.isBoundary d.stop = true) ∧
      ofResult result text =
        .ok ⟨result.detected, result.detections.map (reported text), result.redactedText⟩) ∨
    ∃ offset, ofResult result text =
        .error (.internal ("Offset " ++ toString offset ++ " is not a character boundary")) ∧
      text.isBoundary offset = false ∧
      (∃ d ∈ result.detections, offset = d.start ∨ offset = d.stop) ∧
      ∀ d ∈ result.detections, (text.isBoundary d.start = false → offset ≤ d.start) ∧
        (text.isBoundary d.stop = false → offset ≤ d.stop) := by
  cases first : (OffsetTable.boundaries result.detections).find? fun b => !text.isBoundary b with
  | none =>
    left
    have inside : ∀ n ∈ OffsetTable.boundaries result.detections, text.isBoundary n = true := by
      intro n hn
      simpa using List.find?_eq_none.mp first n hn
    have both : ∀ d ∈ result.detections,
        text.isBoundary d.start = true ∧ text.isBoundary d.stop = true := by
      intro d hd
      constructor
      · exact inside d.start (OffsetTable.mem_boundaries.mpr ⟨d, hd, .inl rfl⟩)
      · exact inside d.stop (OffsetTable.mem_boundaries.mpr ⟨d, hd, .inr rfl⟩)
    exact ⟨both, ofResult_of_boundaries size both⟩
  | some offset =>
    right
    have least :=
      OffsetTable.le_of_find?_eq_some (OffsetTable.boundaries_pairwise result.detections) first
    refine ⟨offset, ?_, ?_, ?_, ?_⟩
    · unfold ofResult
      rw [OffsetTable.ofDetections_eq, first]
      rfl
    · simpa using List.find?_some first
    · exact OffsetTable.mem_boundaries.mp (List.mem_of_find?_eq_some first)
    · intro d hd
      constructor
      · intro cuts
        apply least d.start (OffsetTable.mem_boundaries.mpr ⟨d, hd, .inl rfl⟩)
        simp [cuts]
      · intro cuts
        apply least d.stop (OffsetTable.mem_boundaries.mpr ⟨d, hd, .inr rfl⟩)
        simp [cuts]

/--
Reporting a result for a text. There is a report if and only if every end of a detection lies in the
text and between two code points. Every detection is then reported in its place, and each of its
ends is the number of code points before it, so that the code points from one to the other are the
bytes of the detection. Else the fault names the least end that is no boundary, and there are no
other faults. A text in memory is smaller than `2 ^ 63` bytes.
-/
theorem ofResult_counts_code_points (result : ScanResult) (text : Text)
    (size : text.byteSize < 2 ^ 63) :
    ((∃ response, ofResult result text = .ok response) ↔
      ∀ d ∈ result.detections, (d.start ≤ text.byteSize ∧ text.isBoundary d.start = true) ∧
        d.stop ≤ text.byteSize ∧ text.isBoundary d.stop = true) ∧
    (∀ response, ofResult result text = .ok response →
      response.detected = result.detected ∧ response.redactedText = result.redactedText ∧
      response.detections = result.detections.map (fun d =>
        ⟨d.entityType, (text.takeBytes d.start).length, (text.takeBytes d.stop).length,
          d.score.toSingle⟩) ∧
      ∀ d ∈ result.detections, d.start < d.stop →
        (text.between (text.takeBytes d.start).length (text.takeBytes d.stop).length).toUtf8 =
          (text.toUtf8.take d.stop).drop d.start) ∧
    (∀ fault, ofResult result text = .error fault →
      ∃ offset,
        fault = .internal ("Offset " ++ toString offset ++ " is not a character boundary") ∧
        text.isBoundary offset = false ∧
        (∃ d ∈ result.detections, offset = d.start ∨ offset = d.stop) ∧
        ∀ d ∈ result.detections, (text.isBoundary d.start = false → offset ≤ d.start) ∧
          (text.isBoundary d.stop = false → offset ≤ d.stop)) ∧
    ∀ n : Nat,
      ofResult result text ≠ .error (.internal ("Offset " ++ toString n ++ " was not indexed")) ∧
      ofResult result text ≠
        .error (.internal ("Offset " ++ toString n ++ " does not fit the wire format")) := by
  rcases ofResult_cases result size with ⟨inside, reported⟩ | ⟨offset, failed, cuts, isEnd, least⟩
  · rw [reported]
    refine ⟨⟨fun _ d hd => ?_, fun _ => ⟨_, rfl⟩⟩, ?_, ?_, ?_⟩
    · obtain ⟨front, back⟩ := inside d hd
      exact ⟨⟨Text.le_byteSize_of_isBoundary front, front⟩,
        Text.le_byteSize_of_isBoundary back, back⟩
    · intro response answered
      cases answered
      refine ⟨rfl, rfl, rfl, ?_⟩
      intro d hd order
      have cut : text.CanCut d.start d.stop := ⟨Nat.le_of_lt order, inside d hd⟩
      rw [Text.drop_take_toUtf8 cut, ← Text.between_countBefore cut]
      rfl
    · intro fault failed
      cases failed
    · simp
  · rw [failed]
    refine ⟨⟨?_, ?_⟩, ?_, ?_, ?_⟩
    · rintro ⟨response, answered⟩
      cases answered
    · intro inside
      obtain ⟨d, hd, rfl | rfl⟩ := isEnd
      · rw [(inside d hd).1.2] at cuts
        cases cuts
      · rw [(inside d hd).2.2] at cuts
        cases cuts
    · intro response answered
      cases answered
    · intro fault same
      cases same
      exact ⟨offset, rfl, cuts, isEnd, least⟩
    · intro n
      constructor
      · intro same
        injection same with same
        injection same with same
        refine append_ne_append_of_getLast? (x := 'y') (y := 'd') ?_ ?_ ?_ _ _ same <;> decide
      · intro same
        injection same with same
        injection same with same
        refine append_ne_append_of_getLast? (x := 'y') (y := 't') ?_ ?_ ?_ _ _ same <;> decide

theorem ofResult_of_shared_and_turned_ends :
    ofResult ⟨true, [⟨"B", 5, 8, .one⟩, ⟨"A", 2, 5, .one⟩, ⟨"C", 8, 2, .zero⟩], []⟩
        "é1é2é3".toList =
      .ok ⟨true, [⟨"B", 3, 5, Score.one.toSingle⟩, ⟨"A", 1, 3, Score.one.toSingle⟩,
        ⟨"C", 5, 1, Score.zero.toSingle⟩], []⟩ ∧
    (Text.between "é1é2é3".toList 3 5).toUtf8 = ((Text.toUtf8 "é1é2é3".toList).take 8).drop 5 := by
  obtain ⟨reported, counted, -, -⟩ := ofResult_counts_code_points
    ⟨true, [⟨"B", 5, 8, .one⟩, ⟨"A", 2, 5, .one⟩, ⟨"C", 8, 2, .zero⟩], []⟩ "é1é2é3".toList
    (by decide +kernel)
  obtain ⟨⟨detected, detections, redacted⟩, answered⟩ := reported.mpr (by decide +kernel)
  obtain ⟨rfl, rfl, rfl, bytes⟩ := counted _ answered
  exact ⟨answered, bytes ⟨"B", 5, 8, .one⟩ List.mem_cons_self (by decide)⟩

end ScanResponse
end PiiScan
