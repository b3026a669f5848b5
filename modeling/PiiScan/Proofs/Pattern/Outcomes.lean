import PiiScan.Pattern.Residual

/-!
This module contains what an outcome of a residual can be, for each kind of residual.
-/

namespace PiiScan
namespace Residual

variable {place : Place} {trail : Trail} {o : Outcome} {first second body : Residual}

theorem outcomes_cat (first second : Residual) (place : Place) (trail : Trail) :
    (cat first second).outcomes place trail =
      (first.outcomes place trail).flatMap fun
        | .stop trail => second.outcomes place trail
        | .read number rest trail => [.read number (rest.andThen second) trail] := by
  rfl

theorem outcomes_alt (first second : Residual) (place : Place) (trail : Trail) :
    (alt first second).outcomes place trail =
      if (first.outcomes place trail).all Outcome.isRead then
        first.outcomes place trail ++ second.outcomes place trail
      else first.outcomes place trail ++ (second.outcomes place trail).filter Outcome.isRead := by
  rfl

theorem mem_outcomes_chars {number : Nat} {set : CharSet}
    (h : o ∈ (chars number set).outcomes place trail) :
    ∃ c cs, place.rest = c :: cs ∧ set.contains c = true ∧
      o = .read number .empty { trail with passed := [] } := by
  unfold outcomes at h
  cases hrest : place.rest with
  | nil =>
    rw [hrest] at h
    cases h
  | cons c cs =>
    rw [hrest] at h
    dsimp only at h
    split at h
    · next inside => exact ⟨c, cs, rfl, inside, List.mem_singleton.mp h⟩
    · cases h

theorem mem_outcomes_look {condition : Look} (h : o ∈ (look condition).outcomes place trail) :
    condition.holds place.before place.rest.head? = true ∧ o = .stop trail := by
  unfold outcomes at h
  split at h
  · next holds => exact ⟨holds, List.mem_singleton.mp h⟩
  · cases h

theorem mem_outcomes_cat (h : o ∈ (cat first second).outcomes place trail) :
    (∃ trail', .stop trail' ∈ first.outcomes place trail ∧ o ∈ second.outcomes place trail') ∨
      ∃ number rest trail', .read number rest trail' ∈ first.outcomes place trail ∧
        o = .read number (rest.andThen second) trail' := by
  obtain ⟨inner, hinner, hmem⟩ := List.mem_flatMap.mp h
  cases inner with
  | stop trail' => exact Or.inl ⟨trail', hinner, hmem⟩
  | read number rest trail' =>
    exact Or.inr ⟨number, rest, trail', hinner, List.mem_singleton.mp hmem⟩

theorem mem_outcomes_alt (h : o ∈ (alt first second).outcomes place trail) :
    o ∈ first.outcomes place trail ∨ o ∈ second.outcomes place trail := by
  rw [outcomes_alt] at h
  split at h
  · exact List.mem_append.mp h
  · cases List.mem_append.mp h with
    | inl preferred => exact Or.inl preferred
    | inr other => exact Or.inr (List.mem_filter.mp other).1

theorem mem_outcomes_again {greedy : Bool} (h : o ∈ (again greedy body).outcomes place trail) :
    o = .stop trail ∨ ∃ inner ∈ body.outcomes place trail,
      o = inner.mapRest (·.andThen (.again greedy body)) := by
  have more : ∀ o ∈ ((body.outcomes place trail).filter Outcome.isRead).map
      (Outcome.mapRest (·.andThen (.again greedy body))),
      ∃ inner ∈ body.outcomes place trail, o = inner.mapRest (·.andThen (.again greedy body)) := by
    intro o ho
    obtain ⟨inner, hinner, same⟩ := List.mem_map.mp ho
    exact ⟨inner, (List.mem_filter.mp hinner).1, same.symm⟩
  unfold outcomes at h
  dsimp only at h
  split at h
  · cases List.mem_append.mp h with
    | inl reads => exact Or.inr (more o reads)
    | inr stops => exact Or.inl (List.mem_singleton.mp stops)
  · cases List.mem_cons.mp h with
    | inl stops => exact Or.inl stops
    | inr reads => exact Or.inr (more o reads)

theorem mem_outcomes_once {number : Nat} (h : o ∈ (once number body).outcomes place trail) :
    o ∈ body.outcomes place { trail with passed := number :: trail.passed } := by
  unfold outcomes at h
  split at h
  · cases h
  · exact h

end Residual
end PiiScan
