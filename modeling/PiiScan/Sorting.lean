/-!
This module contains stable sorting by insertion. Elements that are equal in the order keep the
order of the input.
-/

namespace PiiScan

variable {α : Type}

def insertSorted (le : α → α → Bool) (a : α) : List α → List α
  | [] => [a]
  | b :: rest => if le a b then a :: b :: rest else b :: insertSorted le a rest

/--
Sort a list; `le` says which elements may precede which.
-/
def sortStable (le : α → α → Bool) : List α → List α
  | [] => []
  | a :: rest => insertSorted le a (sortStable le rest)

theorem insertSorted_perm (le : α → α → Bool) (a : α) (xs : List α) :
    (insertSorted le a xs).Perm (a :: xs) := by
  induction xs with
  | nil => exact List.Perm.refl _
  | cons b rest ih =>
    simp only [insertSorted]
    split
    · exact List.Perm.refl _
    · exact (ih.cons b).trans (List.Perm.swap a b rest)

theorem sortStable_perm (le : α → α → Bool) (xs : List α) : (sortStable le xs).Perm xs := by
  induction xs with
  | nil => exact List.Perm.refl _
  | cons a rest ih => exact (insertSorted_perm le a _).trans (ih.cons a)

end PiiScan
