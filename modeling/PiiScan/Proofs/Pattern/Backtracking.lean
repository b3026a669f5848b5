import PiiScan.Proofs.Pattern.Outcomes

/-!
This module contains the matching of a residual by backtracking, which says what a search has to
find: where a residual may stop when one way to match it is tried after the other. It obeys one law
for each kind of residual, so that a pattern can be understood by its parts.
-/

namespace PiiScan

@[elab_as_elim]
theorem Place.next_induction {motive : Place → Prop} (place : Place)
    (step : ∀ place : Place, (∀ next, place.next? = some next → motive next) → motive place) :
    motive place := by
  obtain ⟨before, offset, rest⟩ := place
  induction rest generalizing before offset with
  | nil =>
    apply step
    intro next h
    cases h
  | cons c cs ih =>
    apply step
    intro next h
    cases h
    exact ih _ _

def Place.read? (set : CharSet) (place : Place) : Option Place :=
  match place.rest with
  | [] => none
  | c :: cs => if set.contains c then some ⟨some c, place.offset + c.utf8Size, cs⟩ else none

namespace Residual

/--
Where a residual may stop from a place on, and what it has recorded there, the preferred way first.
The place is given by its parts, as the recursion is on what follows it.
-/
def endingsFrom (before : Option Char) (offset : Nat) :
    Text → Residual → Trail → List (Place × Trail)
  | [], residual, trail =>
    (residual.outcomes ⟨before, offset, []⟩ trail).flatMap fun
      | .stop trail => [(⟨before, offset, []⟩, trail)]
      | .read .. => []
  | c :: cs, residual, trail =>
    (residual.outcomes ⟨before, offset, c :: cs⟩ trail).flatMap fun
      | .stop trail => [(⟨before, offset, c :: cs⟩, trail)]
      | .read _ rest trail => endingsFrom (some c) (offset + c.utf8Size) cs rest trail

def endings (residual : Residual) (place : Place) (trail : Trail) : List (Place × Trail) :=
  endingsFrom place.before place.offset place.rest residual trail

end Residual

def Outcome.endings (place : Place) : Outcome → List (Place × Trail)
  | .stop trail => [(place, trail)]
  | .read _ rest trail =>
    match place.next? with
    | some next => rest.endings next trail
    | none => []

namespace Residual

variable {place next : Place} {trail : Trail}

theorem endings_eq (residual : Residual) (place : Place) (trail : Trail) :
    residual.endings place trail =
      (residual.outcomes place trail).flatMap (Outcome.endings place) := by
  obtain ⟨before, offset, rest⟩ := place
  unfold endings
  cases rest with
  | nil =>
    unfold endingsFrom
    congr 1
  | cons c cs =>
    unfold endingsFrom
    congr 1

/-! ### The laws of the single kinds -/

@[simp]
theorem endings_empty (place : Place) (trail : Trail) :
    empty.endings place trail = [(place, trail)] := by
  rw [endings_eq]
  rfl

theorem endings_chars (number : Nat) (set : CharSet) (place : Place) (trail : Trail) :
    (chars number set).endings place trail =
      (place.read? set).toList.map (·, { trail with passed := [] }) := by
  rw [endings_eq]
  unfold outcomes Place.read?
  cases hrest : place.rest with
  | nil => rfl
  | cons c cs =>
    dsimp only
    split
    · rw [List.flatMap_singleton]
      unfold Outcome.endings Place.next?
      rw [hrest]
      dsimp only
      rw [endings_empty]
      rfl
    · rfl

theorem endings_look (condition : Look) (place : Place) (trail : Trail) :
    (look condition).endings place trail =
      if condition.holds place.before place.rest.head? then [(place, trail)] else [] := by
  rw [endings_eq]
  unfold outcomes
  split <;> rfl

theorem endings_cat_of_next {first second : Residual}
    (later : ∀ next, place.next? = some next → ∀ (first : Residual) (trail : Trail),
      (first.andThen second).endings next trail =
        (first.endings next trail).flatMap fun e => second.endings e.1 e.2) :
    (cat first second).endings place trail =
      (first.endings place trail).flatMap fun e => second.endings e.1 e.2 := by
  rw [endings_eq, endings_eq first, outcomes_cat]
  rw [List.flatMap_assoc, List.flatMap_assoc]
  congr 1
  funext o
  cases o with
  | stop trail =>
    change (second.outcomes place trail).flatMap (Outcome.endings place) =
      [(place, trail)].flatMap _
    rw [List.flatMap_singleton, endings_eq]
  | read number rest trail =>
    -- the first part goes on with what it has left, at the next place
    unfold Outcome.endings
    dsimp only
    rw [List.flatMap_singleton]
    cases hnext : place.next? with
    | none => rfl
    | some next => exact later next hnext rest trail

theorem endings_andThen (first second : Residual) (place : Place) (trail : Trail) :
    (first.andThen second).endings place trail =
      (first.endings place trail).flatMap fun e => second.endings e.1 e.2 := by
  induction place using Place.next_induction generalizing first trail with
  | step place ih =>
    cases first with
    | empty =>
      rw [endings_empty, List.flatMap_singleton]
      rfl
    | _ =>
      apply endings_cat_of_next
      intro next hnext first trail
      exact ih next hnext first trail

theorem endings_cat (first second : Residual) (place : Place) (trail : Trail) :
    (cat first second).endings place trail =
      (first.endings place trail).flatMap fun e => second.endings e.1 e.2 := by
  apply endings_cat_of_next
  intro next _ first trail
  exact endings_andThen first second next trail

def followedBy (residual : Residual) (after : Place → Trail → List (Place × Trail)) (place : Place)
    (trail : Trail) : List (Place × Trail) :=
  (residual.endings place trail).flatMap fun e => after e.1 e.2

variable {after : Place → Trail → List (Place × Trail)}

theorem followedBy_empty : empty.followedBy after = after := by
  funext place trail
  unfold followedBy
  rw [endings_empty, List.flatMap_singleton]

theorem followedBy_cat (first second : Residual) :
    (cat first second).followedBy after = first.followedBy (second.followedBy after) := by
  funext place trail
  unfold followedBy
  rw [endings_cat, List.flatMap_assoc]

theorem followedBy_andThen (first second : Residual) :
    (first.andThen second).followedBy after = first.followedBy (second.followedBy after) := by
  funext place trail
  unfold followedBy
  rw [endings_andThen, List.flatMap_assoc]

theorem followedBy_optional {residual : Residual}
    (h : ∀ o ∈ residual.outcomes place trail, o.isRead = true) :
    (Pattern.optional true residual).followedBy after place trail =
      residual.followedBy after place trail ++ after place trail := by
  have all : (residual.outcomes place trail).all Outcome.isRead = true := List.all_eq_true.mpr h
  unfold followedBy Pattern.optional
  rw [endings_eq, endings_eq residual]
  rw [if_pos rfl, outcomes_alt, if_pos all]
  rw [List.flatMap_append, List.flatMap_append]
  congr 1
  change [(place, trail)].flatMap _ = _
  rw [List.flatMap_singleton]

/-! ### Residuals that cannot stop without reading -/

theorem isRead_of_mem_outcomes_chars {number : Nat} {set : CharSet} :
    ∀ o ∈ (chars number set).outcomes place trail, o.isRead = true := by
  intro o ho
  obtain ⟨c, cs, -, -, rfl⟩ := mem_outcomes_chars ho
  rfl

theorem isRead_of_mem_outcomes_cat {first second : Residual}
    (h : ∀ o ∈ first.outcomes place trail, o.isRead = true) :
    ∀ o ∈ (cat first second).outcomes place trail, o.isRead = true := by
  intro o ho
  cases mem_outcomes_cat ho with
  | inl stops =>
    obtain ⟨trail', hstop, -⟩ := stops
    cases h _ hstop
  | inr reads =>
    obtain ⟨number, rest, trail', -, rfl⟩ := reads
    rfl

end Residual
end PiiScan
