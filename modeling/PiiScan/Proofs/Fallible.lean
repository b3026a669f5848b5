/-!
This module contains computations that may fail: what comes of one that succeeds, alone, before
another one, or on every item of a list, and which item it is that one on a list fails on.
-/

namespace PiiScan

def IsFirst {α : Type} (p : α → Prop) (items : List α) (item : α) : Prop :=
  p item ∧ ∃ before after, items = before ++ item :: after ∧ ∀ other ∈ before, ¬p other

namespace IsFirst

variable {α : Type} {p q : α → Prop} {x y : α} {xs : List α}

theorem cons_iff : IsFirst p (x :: xs) y ↔ (p x ∧ x = y) ∨ (¬p x ∧ IsFirst p xs y) := by
  constructor
  · intro ⟨hy, before, after, split, clear⟩
    cases before with
    | nil =>
      cases split
      exact .inl ⟨hy, rfl⟩
    | cons first before =>
      cases split
      rw [List.forall_mem_cons] at clear
      exact .inr ⟨clear.1, hy, before, after, rfl, clear.2⟩
  · intro h
    cases h with
    | inl here =>
      obtain ⟨hx, rfl⟩ := here
      exact ⟨hx, [], xs, rfl, by simp⟩
    | inr later =>
      obtain ⟨hx, hy, before, after, rfl, clear⟩ := later
      exact ⟨hy, x :: before, after, rfl, List.forall_mem_cons.mpr ⟨hx, clear⟩⟩

theorem mem (h : IsFirst p xs x) : x ∈ xs := by
  obtain ⟨-, before, after, rfl, -⟩ := h
  simp

theorem exists_iff : (∃ x, IsFirst p xs x) ↔ ∃ x ∈ xs, p x := by
  constructor
  · intro ⟨x, first⟩
    exact ⟨x, first.mem, first.1⟩
  · intro some
    induction xs with
    | nil => simp at some
    | cons x xs ih =>
      by_cases hx : p x
      · exact ⟨x, cons_iff.mpr (.inl ⟨hx, rfl⟩)⟩
      · obtain ⟨y, first⟩ := ih (by simpa [hx] using some)
        exact ⟨y, cons_iff.mpr (.inr ⟨hx, first⟩)⟩

theorem congr (same : ∀ x ∈ xs, p x ↔ q x) : IsFirst p xs x ↔ IsFirst q xs x := by
  induction xs with
  | nil => simp [IsFirst]
  | cons y xs ih =>
    obtain ⟨here, later⟩ := List.forall_mem_cons.mp same
    rw [cons_iff, cons_iff, here, ih later]

theorem find?_eq_some_iff {test : α → Bool} :
    xs.find? test = some x ↔ IsFirst (fun y => test y = true) xs x := by
  simp [List.find?_eq_some_iff_append, IsFirst]

end IsFirst

theorem eq_ok_of_toOption {ε α : Type} {answer : Except ε α} {a : α}
    (h : answer.toOption = some a) : answer = .ok a := by
  cases answer with
  | error e => cases h
  | ok b =>
    cases h
    rfl

theorem bind_eq_ok_iff {ε α β : Type} {x : Except ε α} {f : α → Except ε β} {b : β} :
    x >>= f = .ok b ↔ ∃ a, x = .ok a ∧ f a = .ok b := by
  cases x with
  | error e => simp [bind, Except.bind]
  | ok a => simp [bind, Except.bind]

theorem mapM_cons_eq_ok {ε α β : Type} {f : α → Except ε β} {x : α} {xs : List α} {ys : List β}
    (h : (x :: xs).mapM f = .ok ys) :
    ∃ y ys', f x = .ok y ∧ xs.mapM f = .ok ys' ∧ ys = y :: ys' := by
  rw [List.mapM_cons] at h
  obtain ⟨y, hx, h⟩ := bind_eq_ok_iff.mp h
  obtain ⟨ys', hxs, h⟩ := bind_eq_ok_iff.mp h
  cases h
  exact ⟨y, ys', hx, hxs, rfl⟩

theorem mapM_eq_ok {ε α β : Type} {f : α → Except ε β} {xs : List α} {ys : List β}
    (h : xs.mapM f = .ok ys) :
    (∀ x ∈ xs, ∃ y ∈ ys, f x = .ok y) ∧ ∀ y ∈ ys, ∃ x ∈ xs, f x = .ok y := by
  induction xs generalizing ys with
  | nil =>
    cases h
    simp
  | cons x xs ih =>
    obtain ⟨y, ys, hx, hxs, rfl⟩ := mapM_cons_eq_ok h
    obtain ⟨forth, back⟩ := ih hxs
    rw [List.forall_mem_cons, List.forall_mem_cons]
    refine ⟨⟨⟨y, List.mem_cons_self, hx⟩, ?_⟩, ⟨x, List.mem_cons_self, hx⟩, ?_⟩
    · intro x' hx'
      obtain ⟨y', hy', same⟩ := forth x' hx'
      exact ⟨y', List.mem_cons_of_mem _ hy', same⟩
    · intro y' hy'
      obtain ⟨x', hx', same⟩ := back y' hy'
      exact ⟨x', List.mem_cons_of_mem _ hx', same⟩

theorem mapM_cons_eq_error_iff {ε α β : Type} {f : α → Except ε β} {x : α} {xs : List α} {e : ε} :
    (x :: xs).mapM f = .error e ↔ f x = .error e ∨ (∃ y, f x = .ok y) ∧ xs.mapM f = .error e := by
  rw [List.mapM_cons]
  cases f x with
  | error e' => simp [bind, Except.bind]
  | ok y => cases xs.mapM f <;> simp [bind, Except.bind, pure, Except.pure]

/--
The items of a list are taken in order, and the first that fails decides.
-/
theorem mapM_eq_error_iff {ε α β : Type} {f : α → Except ε β} {xs : List α} {e : ε} :
    xs.mapM f = .error e ↔ ∃ x, IsFirst (fun y => ∃ e', f y = .error e') xs x ∧ f x = .error e := by
  induction xs with
  | nil =>
    constructor
    · intro h
      cases h
    · intro ⟨x, first, _⟩
      cases first.mem
  | cons y xs ih =>
    rw [mapM_cons_eq_error_iff, ih]
    simp only [IsFirst.cons_iff]
    constructor
    · intro h
      cases h with
      | inl here => exact ⟨y, .inl ⟨⟨e, here⟩, rfl⟩, here⟩
      | inr later =>
        obtain ⟨⟨b, passed⟩, x, first, fails⟩ := later
        exact ⟨x, .inr ⟨by simp [passed], first⟩, fails⟩
    · intro ⟨x, first, fails⟩
      cases first with
      | inl here => exact .inl (here.2 ▸ fails)
      | inr later =>
        refine .inr ⟨?_, x, later.2, fails⟩
        cases hy : f y with
        | error e' => exact absurd ⟨e', hy⟩ later.1
        | ok b => exact ⟨b, rfl⟩

end PiiScan
