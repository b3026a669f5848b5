import PiiScan.Sorting

/-!
This module contains what sorting guarantees: the result is ordered when the order is total and
transitive, it has the elements of the input, a list that is ordered already stays as it is, and
leaving elements out before or after sorting makes no difference. Lists one of which comes before
the other are sorted one by one. Elements that are equal in the order stay as they were, and where
none are, the order of the input does not matter.
-/

namespace PiiScan

variable {α : Type} {le : α → α → Bool}

@[simp]
theorem mem_sortStable {a : α} {xs : List α} : a ∈ sortStable le xs ↔ a ∈ xs := by
  apply List.Perm.mem_iff
  apply sortStable_perm

theorem forall_mem_sortStable {P : α → Prop} {xs : List α} :
    (∀ a ∈ sortStable le xs, P a) ↔ ∀ a ∈ xs, P a := by
  simp only [mem_sortStable]

theorem insertSorted_pairwise (total : ∀ a b, le a b = true ∨ le b a = true)
    (trans : ∀ a b c, le a b = true → le b c = true → le a c = true) (a : α) {xs : List α}
    (h : xs.Pairwise fun x y => le x y = true) :
    (insertSorted le a xs).Pairwise fun x y => le x y = true := by
  induction xs with
  | nil => simp [insertSorted]
  | cons b rest ih =>
    obtain ⟨least, tail⟩ := List.pairwise_cons.mp h
    unfold insertSorted
    split
    · next first =>
      apply List.pairwise_cons.mpr
      constructor
      · intro c hc
        cases List.mem_cons.mp hc with
        | inl same => rw [same]; exact first
        | inr later => exact trans a b c first (least c later)
      · exact h
    · next notFirst =>
      apply List.pairwise_cons.mpr
      constructor
      · intro c hc
        rw [(insertSorted_perm le a rest).mem_iff] at hc
        cases List.mem_cons.mp hc with
        | inl same =>
          rw [same]
          exact (total a b).resolve_left notFirst
        | inr later => exact least c later
      · exact ih tail

theorem sortStable_pairwise (total : ∀ a b, le a b = true ∨ le b a = true)
    (trans : ∀ a b c, le a b = true → le b c = true → le a c = true) (xs : List α) :
    (sortStable le xs).Pairwise fun x y => le x y = true := by
  induction xs with
  | nil => exact List.Pairwise.nil
  | cons a rest ih =>
    unfold sortStable
    apply insertSorted_pairwise total trans
    exact ih

theorem sortStable_eq_self {xs : List α} (h : xs.Pairwise fun x y => le x y = true) :
    sortStable le xs = xs := by
  induction xs with
  | nil => rfl
  | cons a rest ih =>
    obtain ⟨least, tail⟩ := List.pairwise_cons.mp h
    unfold sortStable
    rw [ih tail]
    cases rest with
    | nil => rfl
    | cons b rest =>
      unfold insertSorted
      rw [if_pos (least b List.mem_cons_self)]

theorem insertSorted_of_forall_le {a : α} {xs : List α} (h : ∀ b ∈ xs, le a b = true) :
    insertSorted le a xs = a :: xs := by
  cases xs with
  | nil => rfl
  | cons b rest =>
    unfold insertSorted
    rw [if_pos (h b List.mem_cons_self)]

theorem insertSorted_pairwise_of_forall {R : α → α → Prop} {a : α} {xs : List α}
    (first : ∀ b ∈ xs, R a b) (h : xs.Pairwise fun x y => le y x = true → R x y) :
    (insertSorted le a xs).Pairwise fun x y => le y x = true → R x y := by
  induction xs with
  | nil => simp [insertSorted]
  | cons b rest ih =>
    obtain ⟨least, tail⟩ := List.pairwise_cons.mp h
    unfold insertSorted
    split
    · apply List.pairwise_cons.mpr
      constructor
      · intro c hc _
        exact first c hc
      · exact h
    · next notFirst =>
      apply List.pairwise_cons.mpr
      constructor
      · intro c hc
        rw [(insertSorted_perm le a rest).mem_iff] at hc
        cases List.mem_cons.mp hc with
        | inl same =>
          -- the element that is inserted must not stand before this one
          rw [same]
          intro before
          exact absurd before notFirst
        | inr later => exact least c later
      · apply ih _ tail
        intro c hc
        exact first c (List.mem_cons_of_mem b hc)

theorem insertSorted_append {a : α} {ys : List α} (h : ∀ b ∈ ys, le a b = true) (xs : List α) :
    insertSorted le a (xs ++ ys) = insertSorted le a xs ++ ys := by
  induction xs with
  | nil =>
    rw [List.nil_append, insertSorted_of_forall_le h]
    rfl
  | cons b rest ih =>
    simp only [List.cons_append, insertSorted]
    split
    · rfl
    · rw [ih, List.cons_append]

theorem sortStable_append {xs ys : List α} (h : ∀ a ∈ xs, ∀ b ∈ ys, le a b = true) :
    sortStable le (xs ++ ys) = sortStable le xs ++ sortStable le ys := by
  induction xs with
  | nil => rfl
  | cons a rest ih =>
    obtain ⟨first, later⟩ := List.forall_mem_cons.mp h
    simp only [List.cons_append, sortStable]
    rw [ih later, insertSorted_append]
    rw [forall_mem_sortStable]
    exact first

theorem insertSorted_map {β : Type} (le : α → α → Bool) (f : β → α) (a : β) (xs : List β) :
    insertSorted le (f a) (xs.map f) =
      (insertSorted (fun x y => le (f x) (f y)) a xs).map f := by
  induction xs with
  | nil => rfl
  | cons b rest ih =>
    simp only [List.map_cons, insertSorted]
    split
    · rfl
    · rw [ih, List.map_cons]

theorem filter_insertSorted (trans : ∀ a b c, le a b = true → le b c = true → le a c = true)
    (p : α → Bool) (a : α) {xs : List α} (h : xs.Pairwise fun x y => le x y = true) :
    (insertSorted le a xs).filter p =
      if p a then insertSorted le a (xs.filter p) else xs.filter p := by
  induction xs with
  | nil => simp [insertSorted, List.filter_cons]
  | cons b rest ih =>
    obtain ⟨least, tail⟩ := List.pairwise_cons.mp h
    by_cases first : le a b = true
    · -- the element comes before all others, and so it does before those that are left
      have before : ∀ c ∈ (b :: rest).filter p, le a c = true := by
        intro c hc
        cases List.mem_cons.mp (List.mem_filter.mp hc).1 with
        | inl same => rw [same]; exact first
        | inr later => exact trans a b c first (least c later)
      rw [insertSorted_of_forall_le before]
      unfold insertSorted
      rw [if_pos first, List.filter_cons]
    · have inserted : insertSorted le a (b :: rest) = b :: insertSorted le a rest := by
        rw [insertSorted, if_neg first]
      rw [inserted, List.filter_cons, List.filter_cons, ih tail]
      cases p a <;> cases p b <;> simp [insertSorted, first]

/--
Sorting is stable, so that elements may as well be left out before.
-/
theorem filter_sortStable (total : ∀ a b, le a b = true ∨ le b a = true)
    (trans : ∀ a b c, le a b = true → le b c = true → le a c = true) (p : α → Bool)
    (xs : List α) : (sortStable le xs).filter p = sortStable le (xs.filter p) := by
  induction xs with
  | nil => rfl
  | cons a rest ih =>
    rw [sortStable, filter_insertSorted trans p a (sortStable_pairwise total trans rest), ih]
    rw [List.filter_cons]
    cases p a <;> rfl

/--
Elements that may stand either way round stand as they did before.
-/
theorem sortStable_pairwise_of_pairwise {R : α → α → Prop} {xs : List α} (h : xs.Pairwise R) :
    (sortStable le xs).Pairwise fun x y => le y x = true → R x y := by
  induction xs with
  | nil => exact List.Pairwise.nil
  | cons a rest ih =>
    obtain ⟨first, tail⟩ := List.pairwise_cons.mp h
    unfold sortStable
    apply insertSorted_pairwise_of_forall
    · intro b hb
      apply first
      simpa using hb
    · exact ih tail

theorem sortStable_map {β : Type} (le : α → α → Bool) (f : β → α) (xs : List β) :
    sortStable le (xs.map f) = (sortStable (fun x y => le (f x) (f y)) xs).map f := by
  induction xs with
  | nil => rfl
  | cons a rest ih =>
    simp only [List.map_cons, sortStable]
    rw [ih, insertSorted_map]

theorem map_get_finRange (xs : List α) : (List.finRange xs.length).map xs.get = xs := by
  apply List.ext_getElem <;> simp

theorem map_sortStable_finRange (le : α → α → Bool) (xs : List α) :
    (sortStable (fun i j => le (xs.get i) (xs.get j)) (List.finRange xs.length)).map xs.get =
      sortStable le xs := by
  rw [← sortStable_map, map_get_finRange]

theorem sortStable_finRange_pairwise (total : ∀ a b, le a b = true ∨ le b a = true)
    (trans : ∀ a b c, le a b = true → le b c = true → le a c = true) (xs : List α) :
    (sortStable (fun i j => le (xs.get i) (xs.get j)) (List.finRange xs.length)).Pairwise
      fun i j => le (xs.get i) (xs.get j) = true ∧ (le (xs.get j) (xs.get i) = true → i < j) := by
  apply List.Pairwise.and
  · apply sortStable_pairwise
    · intro i j
      apply total
    · intro i j k
      apply trans
  · apply sortStable_pairwise_of_pairwise
    exact List.pairwise_lt_finRange _

/-! ### Lists in order -/

theorem eq_or_of_mem_pairwise {R : α → α → Prop} {xs : List α} (h : xs.Pairwise R) {a b : α}
    (ha : a ∈ xs) (hb : b ∈ xs) : a = b ∨ R a b ∨ R b a := by
  induction h with
  | nil => cases ha
  | @cons first rest later _ ih =>
    cases List.mem_cons.mp ha with
    | inl here =>
      cases List.mem_cons.mp hb with
      | inl here' => left; rw [here, here']
      | inr after => right; left; rw [here]; exact later b after
    | inr after =>
      cases List.mem_cons.mp hb with
      | inl here => right; right; rw [here]; exact later a after
      | inr after' => exact ih after after'

/--
Two lists in a strict order are equal when they have the same elements.
-/
theorem eq_of_pairwise_of_mem_iff {R : α → α → Prop} (asymm : ∀ a b, R a b → ¬ R b a)
    {xs ys : List α} (hxs : xs.Pairwise R) (hys : ys.Pairwise R) (same : ∀ a, a ∈ xs ↔ a ∈ ys) :
    xs = ys := by
  have nodup : ∀ {zs : List α}, zs.Pairwise R → zs.Nodup := by
    intro zs h
    apply h.imp
    rintro a b hab rfl
    exact asymm a a hab hab
  apply List.Perm.eq_of_pairwise (fun a b _ _ hab hba => (asymm a b hab hba).elim) hxs hys
  exact (List.perm_ext_iff_of_nodup (nodup hxs) (nodup hys)).mpr same

end PiiScan
