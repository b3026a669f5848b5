import PiiScan.Text

/-!
This module contains the theory of cutting texts. An offset is a boundary when the text splits
there, so that everything about `takeBytes`, `dropBytes`, `slice` and `splice` reduces to lists that
are appended; at the end of the module the same is said in terms of the bytes of the UTF-8 form.
-/

namespace PiiScan
namespace Text

theorem byteSize_eq_zero {text : Text} : text.byteSize = 0 ↔ text = [] := by
  cases text with
  | nil => simp
  | cons c cs =>
    have := c.utf8Size_pos
    simp only [byteSize_cons, reduceCtorEq, iff_false]
    omega

theorem isBoundary_cons (c : Char) (cs : Text) (n : Nat) :
    isBoundary (c :: cs) (c.utf8Size + n) = cs.isBoundary n := by
  have pos := c.utf8Size_pos
  obtain ⟨size, hsize⟩ : ∃ size, c.utf8Size + n = size + 1 := ⟨c.utf8Size + n - 1, by omega⟩
  rw [hsize, isBoundary, ← hsize, Nat.add_sub_cancel_left]
  simp

theorem isBoundary_append_add (before after : Text) (n : Nat) :
    (before ++ after).isBoundary (before.byteSize + n) = after.isBoundary n := by
  induction before with
  | nil => simp
  | cons c cs ih =>
    rw [List.cons_append, byteSize_cons, Nat.add_assoc]
    rw [isBoundary_cons, ih]

theorem isBoundary_append (before after : Text) :
    (before ++ after).isBoundary before.byteSize = true := by
  have := isBoundary_append_add before after 0
  rwa [Nat.add_zero, isBoundary_zero] at this

theorem exists_append_of_isBoundary {text : Text} {n : Nat} (h : text.isBoundary n = true) :
    ∃ before after, text = before ++ after ∧ before.byteSize = n := by
  induction text generalizing n with
  | nil =>
    cases n with
    | zero => exact ⟨[], [], rfl, rfl⟩
    | succ n => simp [isBoundary] at h
  | cons c cs ih =>
    cases n with
    | zero => exact ⟨[], c :: cs, rfl, rfl⟩
    | succ n =>
      simp only [isBoundary, Bool.and_eq_true, decide_eq_true_eq] at h
      obtain ⟨before, after, split, size⟩ := ih h.2
      refine ⟨c :: before, after, ?_, ?_⟩
      · rw [split, List.cons_append]
      · rw [byteSize_cons, size]
        omega

theorem isBoundary_byteSize (text : Text) : text.isBoundary text.byteSize = true := by
  have := isBoundary_append text []
  rwa [List.append_nil] at this

theorem le_byteSize_of_isBoundary {text : Text} {n : Nat} (h : text.isBoundary n = true) :
    n ≤ text.byteSize := by
  obtain ⟨before, after, rfl, rfl⟩ := exists_append_of_isBoundary h
  rw [byteSize_append]
  omega

@[simp]
theorem takeBytes_append (before after : Text) :
    (before ++ after).takeBytes before.byteSize = before := by
  induction before with
  | nil =>
    cases after with
    | nil => rfl
    | cons c cs =>
      have := c.utf8Size_pos
      simp [takeBytes, show ¬ c.utf8Size ≤ 0 by omega]
  | cons c cs ih => simp [takeBytes, ih]

@[simp]
theorem dropBytes_append (before after : Text) :
    (before ++ after).dropBytes before.byteSize = after := by
  induction before with
  | nil =>
    cases after with
    | nil => rfl
    | cons c cs =>
      have := c.utf8Size_pos
      simp [dropBytes, show ¬ c.utf8Size ≤ 0 by omega]
  | cons c cs ih => simp [dropBytes, ih]

@[simp]
theorem takeBytes_zero (text : Text) : text.takeBytes 0 = [] := by
  have := takeBytes_append [] text
  simpa using this

@[simp]
theorem dropBytes_zero (text : Text) : text.dropBytes 0 = text := by
  have := dropBytes_append [] text
  simpa using this

/--
Whether a text can be cut at both ends of a range.
-/
def CanCut (text : Text) (start stop : Nat) : Prop :=
  start ≤ stop ∧ text.isBoundary start = true ∧ text.isBoundary stop = true

theorem exists_append_of_boundaries {text : Text} {start stop : Nat} (h : start ≤ stop)
    (hstart : text.isBoundary start = true) (hstop : text.isBoundary stop = true) :
    ∃ before middle after, text = before ++ (middle ++ after) ∧ before.byteSize = start ∧
      before.byteSize + middle.byteSize = stop := by
  obtain ⟨before, rest, rfl, hbefore⟩ := exists_append_of_isBoundary hstart
  obtain ⟨front, after, split, hfront⟩ := exists_append_of_isBoundary hstop
  rcases List.append_eq_append_iff.mp split with ⟨middle, rfl, rfl⟩ | ⟨middle, rfl, rfl⟩
  · refine ⟨before, middle, after, rfl, hbefore, ?_⟩
    rw [← byteSize_append, hfront]
  · -- both ends are the same, since the later cut is not behind the earlier one
    rw [byteSize_append] at hbefore
    have none : middle = [] := by
      apply byteSize_eq_zero.mp
      omega
    subst none
    refine ⟨front, [], rest, ?_, ?_, ?_⟩
    · simp
    · simpa [hfront] using hbefore
    · simpa using hfront

@[simp]
theorem slice_append (before middle after : Text) :
    (before ++ (middle ++ after)).slice before.byteSize (before.byteSize + middle.byteSize) =
      middle := by
  unfold slice
  rw [dropBytes_append, Nat.add_sub_cancel_left, takeBytes_append]

@[simp]
theorem takeBytes_append_append (before middle after : Text) :
    (before ++ (middle ++ after)).takeBytes (before.byteSize + middle.byteSize) =
      before ++ middle := by
  rw [← byteSize_append, ← List.append_assoc, takeBytes_append]

@[simp]
theorem dropBytes_append_append (before middle after : Text) :
    (before ++ (middle ++ after)).dropBytes (before.byteSize + middle.byteSize) = after := by
  rw [← byteSize_append, ← List.append_assoc, dropBytes_append]

theorem dropBytes_append_add (before after : Text) (n : Nat) :
    (before ++ after).dropBytes (before.byteSize + n) = after.dropBytes n := by
  induction before with
  | nil => simp
  | cons c cs ih => simp [dropBytes, Nat.add_assoc, ih]

theorem slice_append_add (before after : Text) (start stop : Nat) :
    (before ++ after).slice (before.byteSize + start) (before.byteSize + stop) =
      after.slice start stop := by
  unfold slice
  rw [dropBytes_append_add, Nat.add_sub_add_left]

theorem splice_append_add (before after new : Text) (start stop : Nat) :
    (before ++ after).splice (before.byteSize + start) (before.byteSize + stop) new =
      before ++ after.splice start stop new := by
  induction before with
  | nil => simp
  | cons c cs ih => simp [splice, Nat.add_assoc, ih]

theorem isBoundary_append_left {before : Text} {n : Nat} (h : before.isBoundary n = true)
    (after : Text) : (before ++ after).isBoundary n = true := by
  obtain ⟨front, back, rfl, rfl⟩ := exists_append_of_isBoundary h
  rw [List.append_assoc]
  apply isBoundary_append

theorem CanCut.slice_append_left {before : Text} {start stop : Nat} (h : before.CanCut start stop)
    (after : Text) : (before ++ after).slice start stop = before.slice start stop := by
  obtain ⟨order, hstart, hstop⟩ := h
  obtain ⟨front, middle, back, rfl, rfl, rfl⟩ := exists_append_of_boundaries order hstart hstop
  simp

theorem CanCut.splice_append_left {before : Text} {start stop : Nat} (h : before.CanCut start stop)
    (after new : Text) : (before ++ after).splice start stop new =
      before.splice start stop new ++ after := by
  obtain ⟨order, hstart, hstop⟩ := h
  obtain ⟨front, middle, back, rfl, rfl, rfl⟩ := exists_append_of_boundaries order hstart hstop
  rw [splice_eq _ _ order, splice_eq _ _ order]
  simp

theorem takeBytes_append_slice {text : Text} {start stop : Nat} (h : start ≤ stop)
    (hstart : text.isBoundary start = true) (hstop : text.isBoundary stop = true) :
    text.takeBytes start ++ text.slice start stop = text.takeBytes stop := by
  obtain ⟨before, middle, after, rfl, rfl, rfl⟩ := exists_append_of_boundaries h hstart hstop
  simp

theorem slice_append_dropBytes {text : Text} {start stop : Nat} (h : start ≤ stop)
    (hstart : text.isBoundary start = true) (hstop : text.isBoundary stop = true) :
    text.slice start stop ++ text.dropBytes stop = text.dropBytes start := by
  obtain ⟨before, middle, after, rfl, rfl, rfl⟩ := exists_append_of_boundaries h hstart hstop
  simp

theorem byteSize_slice {text : Text} {start stop : Nat} (h : start ≤ stop)
    (hstart : text.isBoundary start = true) (hstop : text.isBoundary stop = true) :
    (text.slice start stop).byteSize = stop - start := by
  obtain ⟨before, middle, after, rfl, rfl, rfl⟩ := exists_append_of_boundaries h hstart hstop
  rw [slice_append]
  omega

theorem exists_append_of_le {a b before middle after : Text}
    (split : a ++ b = before ++ (middle ++ after)) (lower : before.byteSize ≤ a.byteSize)
    (upper : a.byteSize ≤ before.byteSize + middle.byteSize) :
    ∃ front back, middle = front ++ back ∧ a = before ++ front := by
  rcases List.append_eq_append_iff.mp split with ⟨more, rfl, -⟩ | ⟨front, rfl, split'⟩
  · rw [byteSize_append] at lower
    have none : more = [] := by
      apply byteSize_eq_zero.mp
      omega
    exact ⟨[], middle, rfl, by rw [none, List.append_nil, List.append_nil]⟩
  · rcases List.append_eq_append_iff.mp split' with ⟨back, rfl, -⟩ | ⟨more, rfl, -⟩
    · rw [byteSize_append, byteSize_append] at upper
      have none : back = [] := by
        apply byteSize_eq_zero.mp
        omega
      exact ⟨middle, [], by rw [List.append_nil], by rw [none, List.append_nil]⟩
    · exact ⟨front, more, rfl, rfl⟩

theorem length_le_byteSize (text : Text) : text.length ≤ text.byteSize := by
  induction text with
  | nil => simp
  | cons c cs ih =>
    have := c.utf8Size_pos
    rw [List.length_cons, byteSize_cons]
    omega

/-! ### The bytes of a text -/

theorem toList_loop (bytes : ByteArray) (i : Nat) (read : List UInt8) :
    ByteArray.toList.loop bytes i read = read.reverse ++ bytes.data.toList.drop i := by
  fun_induction ByteArray.toList.loop bytes i read with
  | case1 i read h ih =>
    rw [ih]
    have bound : i < bytes.data.toList.length := by simpa using h
    have byte : bytes.get! i = bytes.data.toList[i] := by
      unfold ByteArray.get!
      rw [Array.getElem_toList]
      exact getElem!_pos bytes.data i h
    rw [byte]
    rw [List.drop_eq_getElem_cons bound]
    simp
  | case2 i read h =>
    have : bytes.data.toList.length ≤ i := by simpa using h
    rw [List.drop_eq_nil_of_le this, List.append_nil]

theorem toUtf8_eq_flatMap (text : Text) : text.toUtf8 = text.flatMap String.utf8EncodeChar := by
  unfold toUtf8 ByteArray.toList
  rw [toList_loop]
  simp [String.toUTF8, List.utf8Encode]

@[simp]
theorem toUtf8_append (a b : Text) : (a ++ b).toUtf8 = a.toUtf8 ++ b.toUtf8 := by
  rw [toUtf8_eq_flatMap, toUtf8_eq_flatMap, toUtf8_eq_flatMap]
  rw [List.flatMap_append]

@[simp]
theorem length_toUtf8 (text : Text) : text.toUtf8.length = text.byteSize := by
  rw [toUtf8_eq_flatMap]
  induction text with
  | nil => rfl
  | cons c cs ih =>
    rw [List.flatMap_cons, List.length_append, ih]
    rw [String.length_utf8EncodeChar, byteSize_cons]

theorem toUtf8_injective {a b : Text} (h : a.toUtf8 = b.toUtf8) : a = b := by
  rw [toUtf8_eq_flatMap, toUtf8_eq_flatMap] at h
  apply String.ofList_inj.mp
  apply String.toByteArray_inj.mp
  rw [String.toByteArray_ofList, String.toByteArray_ofList]
  unfold List.utf8Encode
  rw [h]

theorem getElem?_toUtf8_slice {text : Text} {start stop i : Nat} (hi : start + i < stop)
    (hstart : text.isBoundary start = true) (hstop : text.isBoundary stop = true) :
    (text.slice start stop).toUtf8[i]? = text.toUtf8[start + i]? := by
  obtain ⟨before, middle, after, rfl, rfl, rfl⟩ :=
    exists_append_of_boundaries (by omega) hstart hstop
  rw [slice_append, toUtf8_append, toUtf8_append]
  rw [List.getElem?_append_right (by rw [length_toUtf8]; omega)]
  rw [List.getElem?_append_left (by rw [length_toUtf8, length_toUtf8]; omega)]
  rw [length_toUtf8, Nat.add_sub_cancel_left]

/--
The bytes between two boundaries determine the part of a text that lies there.
-/
theorem slice_eq_of_bytes_eq {a b : Text} {start stop : Nat} (h : start ≤ stop)
    (astart : a.isBoundary start = true) (astop : a.isBoundary stop = true)
    (bstart : b.isBoundary start = true) (bstop : b.isBoundary stop = true)
    (bytes : ∀ i, start ≤ i → i < stop → a.toUtf8[i]? = b.toUtf8[i]?) :
    a.slice start stop = b.slice start stop := by
  apply toUtf8_injective
  apply List.ext_getElem?
  intro i
  by_cases inside : start + i < stop
  · rw [getElem?_toUtf8_slice inside astart astop]
    rw [getElem?_toUtf8_slice inside bstart bstop]
    apply bytes
    · omega
    · exact inside
  · rw [List.getElem?_eq_none, List.getElem?_eq_none]
    · rw [length_toUtf8, byteSize_slice h bstart bstop]
      omega
    · rw [length_toUtf8, byteSize_slice h astart astop]
      omega

end Text
end PiiScan
