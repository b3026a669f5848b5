import PiiScan.Proofs.Pattern.Outcomes

/-!
This module contains the theory of the numbers that the sets of a pattern have. They differ from
each other, and therefore the number of the set that has just read says what is left of the pattern:
this is what allows the search to tell residuals apart by a number.
-/

namespace PiiScan
namespace Residual

def numbers : Residual → List Nat
  | .empty => []
  | .chars number _ => [number]
  | .look _ => []
  | .entity body => body.numbers
  | .inEntity body => body.numbers
  | .cat first second => first.numbers ++ second.numbers
  | .alt first second => first.numbers ++ second.numbers
  | .plus _ body => body.numbers
  | .again _ body => body.numbers
  | .once _ body => body.numbers

/--
The sets by their numbers, each with what is left after it has read. The residual may be a part of a
larger one, of which `whole` says what is left in terms of what is left of the part.
-/
def follows : Residual → (Residual → Residual) → List (Nat × Residual)
  | .empty, _ => []
  | .chars number _, whole => [(number, whole .empty)]
  | .look _, _ => []
  | .entity body, whole => body.follows fun r => whole (.inEntity r)
  | .inEntity body, whole => body.follows fun r => whole (.inEntity r)
  | .cat first second, whole =>
    (first.follows fun r => whole (r.andThen second)) ++ second.follows whole
  | .alt first second, whole => first.follows whole ++ second.follows whole
  | .plus greedy body, whole => body.follows fun r => whole (r.andThen (.again greedy body))
  | .again greedy body, whole => body.follows fun r => whole (r.andThen (.again greedy body))
  | .once _ body, whole => body.follows whole

theorem map_fst_follows (residual : Residual) (whole : Residual → Residual) :
    (residual.follows whole).map Prod.fst = residual.numbers := by
  induction residual generalizing whole with
  | empty => rfl
  | chars number set => rfl
  | look condition => rfl
  | entity body ih => exact ih _
  | inEntity body ih => exact ih _
  | cat first second ihFirst ihSecond =>
    unfold follows numbers
    rw [List.map_append, ihFirst, ihSecond]
  | alt first second ihFirst ihSecond =>
    unfold follows numbers
    rw [List.map_append, ihFirst, ihSecond]
  | plus greedy body ih => exact ih _
  | again greedy body ih => exact ih _
  | once number body ih => exact ih _

theorem follows_andThen (first second : Residual) (whole : Residual → Residual) :
    (first.andThen second).follows whole =
      (first.follows fun r => whole (r.andThen second)) ++ second.follows whole := by
  cases first <;> rfl

theorem numbers_andThen (first second : Residual) :
    (first.andThen second).numbers = first.numbers ++ second.numbers := by
  cases first <;> rfl

/--
Whether the set with a number may be the first to read, and what it leaves then.
-/
inductive Reads : Residual → Nat → Residual → Prop where
  | chars {n : Nat} {set : CharSet} : Reads (.chars n set) n .empty
  | entity {body r : Residual} {n : Nat} : Reads body n r → Reads (.entity body) n (.inEntity r)
  | inEntity {body r : Residual} {n : Nat} : Reads body n r → Reads (.inEntity body) n (.inEntity r)
  | catFirst {first second r : Residual} {n : Nat} :
    Reads first n r → Reads (.cat first second) n (r.andThen second)
  | catSecond {first second r : Residual} {n : Nat} :
    Reads second n r → Reads (.cat first second) n r
  | altFirst {first second r : Residual} {n : Nat} :
    Reads first n r → Reads (.alt first second) n r
  | altSecond {first second r : Residual} {n : Nat} :
    Reads second n r → Reads (.alt first second) n r
  | plus {body r : Residual} {n : Nat} {greedy : Bool} :
    Reads body n r → Reads (.plus greedy body) n (r.andThen (.again greedy body))
  | again {body r : Residual} {n : Nat} {greedy : Bool} :
    Reads body n r → Reads (.again greedy body) n (r.andThen (.again greedy body))
  | once {body r : Residual} {n k : Nat} : Reads body n r → Reads (.once k body) n r

theorem reads_of_mem_map {place : Place} {body rest : Residual} {trail trail' : Trail}
    {number : Nat} {f : Outcome → Outcome} {g : Residual → Residual}
    (ih : ∀ {r : Residual} {inner : Trail}, .read number r inner ∈ body.outcomes place trail →
      body.Reads number r ∧ inner.passed = [])
    (hstop : ∀ inner, (f (.stop inner)).isRead = false)
    (hread : ∀ n r inner, f (.read n r inner) = .read n (g r) inner)
    (h : .read number rest trail' ∈ (body.outcomes place trail).map f) :
    ∃ r, body.Reads number r ∧ rest = g r ∧ trail'.passed = [] := by
  obtain ⟨inner, hinner, same⟩ := List.mem_map.mp h
  cases inner with
  | stop inner =>
    have := hstop inner
    rw [same] at this
    cases this
  | read n r inner =>
    rw [hread] at same
    cases same
    obtain ⟨reads, passed⟩ := ih hinner
    exact ⟨r, reads, rfl, passed⟩

theorem reads_of_mem_outcomes {place : Place} {residual rest : Residual} {trail trail' : Trail}
    {number : Nat} (h : .read number rest trail' ∈ residual.outcomes place trail) :
    residual.Reads number rest ∧ trail'.passed = [] := by
  induction residual generalizing rest trail trail' with
  | empty => simp [outcomes] at h
  | chars n set =>
    obtain ⟨c, cs, -, -, same⟩ := mem_outcomes_chars h
    cases same
    exact ⟨.chars, rfl⟩
  | look condition => cases (mem_outcomes_look h).2
  | entity body ih =>
    obtain ⟨r, reads, rfl, passed⟩ := reads_of_mem_map ih (fun _ => rfl) (fun _ _ _ => rfl) h
    exact ⟨reads.entity, passed⟩
  | inEntity body ih =>
    obtain ⟨r, reads, rfl, passed⟩ := reads_of_mem_map ih (fun _ => rfl) (fun _ _ _ => rfl) h
    exact ⟨reads.inEntity, passed⟩
  | cat first second ihFirst ihSecond =>
    cases mem_outcomes_cat h with
    | inl stops =>
      obtain ⟨inner, -, hmem⟩ := stops
      obtain ⟨reads, passed⟩ := ihSecond hmem
      exact ⟨reads.catSecond, passed⟩
    | inr first =>
      obtain ⟨n, r, inner, hinner, same⟩ := first
      cases same
      obtain ⟨reads, passed⟩ := ihFirst hinner
      exact ⟨reads.catFirst, passed⟩
  | alt first second ihFirst ihSecond =>
    cases mem_outcomes_alt h with
    | inl preferred =>
      obtain ⟨reads, passed⟩ := ihFirst preferred
      exact ⟨reads.altFirst, passed⟩
    | inr other =>
      obtain ⟨reads, passed⟩ := ihSecond other
      exact ⟨reads.altSecond, passed⟩
  | plus greedy body ih =>
    obtain ⟨r, reads, rfl, passed⟩ := reads_of_mem_map ih (fun _ => rfl) (fun _ _ _ => rfl) h
    exact ⟨reads.plus, passed⟩
  | again greedy body ih =>
    cases mem_outcomes_again h with
    | inl stops => cases stops
    | inr more =>
      obtain ⟨inner, hinner, same⟩ := more
      obtain ⟨r, reads, rfl, passed⟩ := reads_of_mem_map ih (fun _ => rfl) (fun _ _ _ => rfl)
        (List.mem_map.mpr ⟨inner, hinner, same.symm⟩)
      exact ⟨reads.again, passed⟩
  | once n body ih =>
    obtain ⟨reads, passed⟩ := ih (mem_outcomes_once h)
    exact ⟨reads.once, passed⟩

/--
What a read leaves is what follows the set that has read, and nothing else follows the sets of what
is left.
-/
theorem Reads.follows {residual rest : Residual} {number : Nat} (h : residual.Reads number rest)
    (whole : Residual → Residual) :
    (number, whole rest) ∈ residual.follows whole ∧
      rest.follows whole ⊆ residual.follows whole := by
  induction h generalizing whole with
  | chars => exact ⟨List.mem_singleton.mpr rfl, List.nil_subset _⟩
  | entity _ ih => exact ih _
  | inEntity _ ih => exact ih _
  | @catFirst first second r n _ ih =>
    -- seen from the whole, what is left of the first part is still followed by the second
    obtain ⟨mem, sub⟩ := ih fun r => whole (r.andThen second)
    constructor
    · exact List.mem_append_left _ mem
    · rw [follows_andThen]
      apply List.append_subset.mpr
      constructor
      · exact List.subset_append_of_subset_left _ sub
      · exact List.subset_append_right _ _
  | catSecond _ ih =>
    obtain ⟨mem, sub⟩ := ih whole
    constructor
    · exact List.mem_append_right _ mem
    · exact List.subset_append_of_subset_right _ sub
  | altFirst _ ih =>
    obtain ⟨mem, sub⟩ := ih whole
    constructor
    · exact List.mem_append_left _ mem
    · exact List.subset_append_of_subset_left _ sub
  | altSecond _ ih =>
    obtain ⟨mem, sub⟩ := ih whole
    constructor
    · exact List.mem_append_right _ mem
    · exact List.subset_append_of_subset_right _ sub
  | @plus body r n greedy _ ih =>
    obtain ⟨mem, sub⟩ := ih fun r => whole (r.andThen (.again greedy body))
    refine ⟨mem, ?_⟩
    rw [follows_andThen]
    exact List.append_subset.mpr ⟨sub, List.Subset.refl _⟩
  | @again body r n greedy _ ih =>
    obtain ⟨mem, sub⟩ := ih fun r => whole (r.andThen (.again greedy body))
    refine ⟨mem, ?_⟩
    rw [follows_andThen]
    exact List.append_subset.mpr ⟨sub, List.Subset.refl _⟩
  | once _ ih => exact ih whole

end Residual

namespace Pattern

/--
Whether the numbers of a residual ascend from `n` on and end before the next number.
-/
structure Ascends (n : Nat) (numbered : Residual × Nat) : Prop where
  le : n ≤ numbered.2
  sorted : numbered.1.numbers.Pairwise fun a b => a < b
  range : ∀ k ∈ numbered.1.numbers, n ≤ k ∧ k < numbered.2

namespace Ascends

variable {n m l : Nat} {first second residual : Residual}

theorem of_numbers_nil (h : residual.numbers = []) : Ascends n (residual, n) := by
  constructor
  · exact Nat.le_refl n
  · rw [h]
    exact List.Pairwise.nil
  · rw [h]
    simp

theorem append (hfirst : Ascends n (first, m)) (hsecond : Ascends m (second, l))
    (h : residual.numbers = first.numbers ++ second.numbers) : Ascends n (residual, l) := by
  have := hfirst.le
  have := hsecond.le
  constructor
  · dsimp only at *
    omega
  · rw [h, List.pairwise_append]
    refine ⟨hfirst.sorted, hsecond.sorted, ?_⟩
    intro a ha b hb
    have := hfirst.range a ha
    have := hsecond.range b hb
    dsimp only at *
    omega
  · rw [h]
    intro k hk
    dsimp only at *
    cases List.mem_append.mp hk with
    | inl left =>
      have := hfirst.range k left
      dsimp only at *
      omega
    | inr right =>
      have := hsecond.range k right
      dsimp only at *
      omega

theorem congr {residual' : Residual} (h : Ascends n (residual, m))
    (same : residual'.numbers = residual.numbers) : Ascends n (residual', m) := by
  constructor
  · exact h.le
  · rw [same]
    exact h.sorted
  · rw [same]
    exact h.range

theorem branch (h : Ascends n (residual, m)) (guarded : Bool) :
    Ascends n (branch guarded residual m) := by
  unfold Pattern.branch
  split
  · have := h.le
    constructor
    · dsimp only at *
      omega
    · exact h.sorted
    · intro k hk
      have := h.range k hk
      dsimp only at *
      omega
  · exact h

theorem copies {body tail : Nat → Residual × Nat} (hbody : ∀ n, Ascends n (body n))
    (htail : ∀ n, Ascends n (tail n)) (k n : Nat) : Ascends n (copies body tail k n) := by
  induction k generalizing n with
  | zero => exact htail n
  | succ k ih => exact append (hbody n) (ih (body n).2) (Residual.numbers_andThen _ _)

theorem numbers_optional (greedy : Bool) (residual : Residual) :
    (optional greedy residual).numbers = residual.numbers := by
  cases greedy with
  | true => exact List.append_nil _
  | false => rfl

theorem optionalCopies {body : Nat → Residual × Nat} (hbody : ∀ n, Ascends n (body n))
    (guarded greedy : Bool) (k n : Nat) :
    Ascends n (optionalCopies guarded greedy body k n) := by
  induction k generalizing n with
  | zero => exact of_numbers_nil rfl
  | succ k ih =>
    apply branch
    apply append (hbody n) (ih (body n).2)
    rw [numbers_optional]
    generalize (Pattern.optionalCopies guarded greedy body k (body n).2).1 = rest
    cases rest with
    | empty => exact (List.append_nil _).symm
    | _ => rfl

end Ascends

theorem number_ascends (pattern : Pattern) (guarded : Bool) (n : Nat) :
    Ascends n (pattern.number guarded n) := by
  -- the number that a part leaves for the next one is what carries the order across parts
  induction pattern generalizing guarded n with
  | empty => exact Ascends.of_numbers_nil rfl
  | chars set =>
    constructor
    · exact Nat.le_succ n
    · exact List.pairwise_singleton _ _
    · intro k hk
      cases List.mem_singleton.mp hk
      exact ⟨Nat.le_refl n, Nat.lt_succ_self n⟩
  | look condition => exact Ascends.of_numbers_nil rfl
  | capture index isEntity body ih =>
    cases isEntity with
    | false => exact ih guarded n
    | true => exact (ih guarded n).congr rfl
  | cat first second ihFirst ihSecond =>
    exact (ihFirst guarded n).append (ihSecond guarded _) (Residual.numbers_andThen _ _)
  | alt first second ihFirst ihSecond =>
    exact ((ihFirst guarded n).append (ihSecond guarded _) rfl).branch guarded
  | repetition least most greedy body ih =>
    cases most with
    | some most => exact Ascends.copies (ih guarded) (Ascends.optionalCopies (ih guarded) _ _ _) _ _
    | none =>
      have plus : ∀ n, Ascends n
          (.plus greedy (body.number (guarded || body.isNullable) n).1,
            (body.number (guarded || body.isNullable) n).2) := by
        intro n
        exact (ih _ n).congr rfl
      unfold number
      dsimp only
      split
      · apply Ascends.branch
        exact (plus n).congr (Ascends.numbers_optional _ _)
      · exact Ascends.copies (ih _) plus _ _

theorem numbers_residual_nodup (pattern : Pattern) : pattern.residual.numbers.Nodup := by
  apply List.Pairwise.imp _ (number_ascends pattern false 0).sorted
  intro a b lt
  exact Nat.ne_of_lt lt

end Pattern

namespace Residual

/--
Whether a residual is what some reads have left of a pattern, as far as one can tell by the numbers
of its sets.
-/
def IsLeftOf (residual : Residual) (pattern : Pattern) : Prop :=
  residual.follows id ⊆ pattern.residual.follows id

theorem isLeftOf_residual (pattern : Pattern) : pattern.residual.IsLeftOf pattern := by
  exact List.Subset.refl _

theorem IsLeftOf.rest {residual rest : Residual} {pattern : Pattern} {number : Nat}
    (h : residual.IsLeftOf pattern) (hread : residual.Reads number rest) :
    rest.IsLeftOf pattern := by
  exact List.Subset.trans (hread.follows id).2 h

theorem eq_of_mem_follows {pattern : Pattern} {number : Nat} {rest rest' : Residual}
    (h : (number, rest) ∈ pattern.residual.follows id)
    (h' : (number, rest') ∈ pattern.residual.follows id) : rest = rest' := by
  have nodup := pattern.numbers_residual_nodup
  rw [← map_fst_follows _ id] at nodup
  generalize pattern.residual.follows id = table at h h' nodup
  induction table with
  | nil => cases h
  | cons entry table ih =>
    obtain ⟨fresh, tail⟩ := List.nodup_cons.mp nodup
    cases List.mem_cons.mp h with
    | inl here =>
      cases List.mem_cons.mp h' with
      | inl here' =>
        rw [← here'] at here
        exact congrArg Prod.snd here
      | inr later' =>
        rw [← here] at fresh
        exact absurd (List.mem_map_of_mem later') fresh
    | inr later =>
      cases List.mem_cons.mp h' with
      | inl here' =>
        rw [← here'] at fresh
        exact absurd (List.mem_map_of_mem later) fresh
      | inr later' => exact ih later later' tail

theorem IsLeftOf.rest_eq {residual residual' rest rest' : Residual} {pattern : Pattern}
    {number : Nat} (h : residual.IsLeftOf pattern) (h' : residual'.IsLeftOf pattern)
    (hread : residual.Reads number rest) (hread' : residual'.Reads number rest') :
    rest = rest' := by
  apply eq_of_mem_follows
  · exact h (hread.follows id).1
  · exact h' (hread'.follows id).1

end Residual
end PiiScan
