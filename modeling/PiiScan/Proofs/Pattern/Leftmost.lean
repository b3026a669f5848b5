import PiiScan.Proofs.Pattern.Backtracking
import PiiScan.Proofs.Pattern.Numbering
import PiiScan.Proofs.Pattern.Range

/-!
This module contains the correctness of the search. Reading the text once with a list of threads
finds the same match as trying every place of the text from left to right, and at each of them one
way to match the pattern after the other. A thread may be dropped when another one before it has
read by the same set, because the same is left of the pattern for both and it depends on what is
left alone whether there is a match.
-/

namespace PiiScan

/--
A trail without what has been recorded for the match. The branches that have been taken are all that
what may happen depends on.
-/
def Trail.forget (trail : Trail) : Trail := { Trail.begin 0 with passed := trail.passed }

theorem Trail.forget_congr {trail trail' : Trail} (h : trail.passed = trail'.passed) :
    trail.forget = trail'.forget := by
  unfold Trail.forget
  simp only [h]

def Outcome.forget : Outcome → Outcome
  | .stop trail => .stop trail.forget
  | .read number rest trail => .read number rest trail.forget

namespace Outcome

variable {xs ys : List Outcome}

theorem map_forget_map {f : Outcome → Outcome} (hf : ∀ o, (f o).forget = (f o.forget).forget)
    (h : xs.map forget = ys.map forget) : (xs.map f).map forget = (ys.map f).map forget := by
  have through : ∀ zs : List Outcome,
      (zs.map f).map forget = ((zs.map forget).map f).map forget := by
    intro zs
    rw [List.map_map, List.map_map, List.map_map]
    apply List.map_congr_left
    intro o _
    exact hf o
  rw [through xs, through ys, h]

theorem map_forget_flatMap {f : Outcome → List Outcome}
    (hf : ∀ o, (f o).map forget = (f o.forget).map forget)
    (h : xs.map forget = ys.map forget) :
    (xs.flatMap f).map forget = (ys.flatMap f).map forget := by
  have through : ∀ zs : List Outcome,
      (zs.flatMap f).map forget = ((zs.map forget).flatMap f).map forget := by
    intro zs
    rw [List.map_flatMap, List.flatMap_map, List.map_flatMap]
    congr 1
    funext o
    exact hf o
  rw [through xs, through ys, h]

theorem isRead_forget (o : Outcome) : o.forget.isRead = o.isRead := by
  cases o <;> rfl

theorem all_isRead_congr (h : xs.map forget = ys.map forget) :
    xs.all isRead = ys.all isRead := by
  have through : ∀ zs : List Outcome, zs.all isRead = (zs.map forget).all isRead := by
    intro zs
    rw [List.all_map]
    congr 1
    funext o
    exact (isRead_forget o).symm
  rw [through xs, through ys, h]

theorem map_forget_filter (h : xs.map forget = ys.map forget) :
    (xs.filter isRead).map forget = (ys.filter isRead).map forget := by
  have through : ∀ zs : List Outcome,
      (zs.filter isRead).map forget = (zs.map forget).filter isRead := by
    intro zs
    rw [List.filter_map]
    congr 2
    funext o
    exact (isRead_forget o).symm
  rw [through xs, through ys, h]

theorem forget_mapRest (f : Residual → Residual) (o : Outcome) :
    (o.mapRest f).forget = (o.forget.mapRest f).forget := by
  cases o <;> rfl

theorem forget_leaveEntity (offset : Nat) (o : Outcome) :
    (o.leaveEntity offset).forget = (o.forget.leaveEntity offset).forget := by
  cases o <;> rfl

end Outcome

namespace Residual

variable {place : Place} {trail trail' : Trail}

theorem outcomes_forget (residual : Residual) (h : trail.passed = trail'.passed) :
    (residual.outcomes place trail).map Outcome.forget =
      (residual.outcomes place trail').map Outcome.forget := by
  -- only `once` looks at a trail, and only at the branches taken
  induction residual generalizing trail trail' with
  | empty =>
    simp only [outcomes, List.map_singleton, Outcome.forget]
    rw [Trail.forget_congr h]
  | chars number set =>
    unfold outcomes
    split
    · split <;> rfl
    · rfl
  | look condition =>
    unfold outcomes
    split
    · simp only [List.map_singleton, Outcome.forget]
      rw [Trail.forget_congr h]
    · rfl
  | entity body ih =>
    apply Outcome.map_forget_map (Outcome.forget_leaveEntity _)
    apply ih
    exact h
  | inEntity body ih =>
    apply Outcome.map_forget_map (Outcome.forget_leaveEntity _)
    exact ih h
  | cat first second ihFirst ihSecond =>
    rw [outcomes_cat, outcomes_cat]
    apply Outcome.map_forget_flatMap _ (ihFirst h)
    intro o
    cases o with
    | stop inner =>
      apply ihSecond
      rfl
    | read number rest inner => rfl
  | alt first second ihFirst ihSecond =>
    rw [outcomes_alt, outcomes_alt]
    rw [Outcome.all_isRead_congr (ihFirst h)]
    split
    · rw [List.map_append, List.map_append, ihFirst h, ihSecond h]
    · rw [List.map_append, List.map_append, ihFirst h]
      rw [Outcome.map_forget_filter (ihSecond h)]
  | plus greedy body ih =>
    apply Outcome.map_forget_map (Outcome.forget_mapRest _)
    exact ih h
  | again greedy body ih =>
    have more := Outcome.map_forget_map
      (Outcome.forget_mapRest (·.andThen (.again greedy body))) (Outcome.map_forget_filter (ih h))
    have stop : (Outcome.stop trail).forget = (Outcome.stop trail').forget := by
      unfold Outcome.forget
      dsimp only
      rw [Trail.forget_congr h]
    unfold outcomes
    dsimp only
    split
    · rw [List.map_append, List.map_append, more, List.map_singleton, List.map_singleton, stop]
    · rw [List.map_cons, List.map_cons, more, stop]
  | once number body ih =>
    unfold outcomes
    rw [h]
    split
    · rfl
    · apply ih
      rfl

/--
Whether a residual may stop at all does not depend on what has been recorded for the match.
-/
theorem endings_eq_nil_of_passed {residual : Residual} (h : trail.passed = trail'.passed)
    (none : residual.endings place trail = []) : residual.endings place trail' = [] := by
  induction place using Place.next_induction generalizing residual trail trail' with
  | step place ih =>
    rw [endings_eq, List.flatMap_eq_nil_iff] at none ⊢
    intro o' ho'
    have same : o'.forget ∈ (residual.outcomes place trail).map Outcome.forget := by
      rw [outcomes_forget residual h]
      exact List.mem_map_of_mem ho'
    obtain ⟨o, ho, forgotten⟩ := List.mem_map.mp same
    have nowhere := none o ho
    cases o with
    | stop inner => cases nowhere
    | read number rest inner =>
      cases o' with
      | stop inner' => cases forgotten
      | read number' rest' inner' =>
        unfold Outcome.forget Trail.forget at forgotten
        simp only [Outcome.read.injEq, Trail.mk.injEq] at forgotten
        obtain ⟨-, rfl, -, -, -, passed⟩ := forgotten
        unfold Outcome.endings at nowhere ⊢
        cases hnext : place.next? with
        | none => rfl
        | some next =>
          rw [hnext] at nowhere
          exact ih next hnext passed nowhere

end Residual

/--
The match that ends at a place with what has been recorded on the way.
-/
def Trail.matchAt (place : Place) (trail : Trail) : Match × Place :=
  (⟨trail.start, place.offset, trail.entity⟩, place)

def firstMatch (endings : List (Place × Trail)) : Option (Match × Place) :=
  endings.head?.map fun e => e.2.matchAt e.1

theorem firstMatch_append (a b : List (Place × Trail)) :
    firstMatch (a ++ b) = (firstMatch a).or (firstMatch b) := by
  unfold firstMatch
  rw [List.head?_append, Option.map_or]

theorem firstMatch_append_of_ne_nil {a : List (Place × Trail)} (h : a ≠ [])
    (b : List (Place × Trail)) : firstMatch (a ++ b) = firstMatch a := by
  cases a with
  | nil => exact absurd rfl h
  | cons e es => rfl

namespace Thread

def endings (place : Place) (thread : Thread) : List (Place × Trail) :=
  thread.residual.endings place thread.trail

def endingsAfter (place : Place) (thread : Thread) : List (Place × Trail) :=
  match place.next? with
  | some next => thread.endings next
  | none => []

variable {place : Place} {pattern : Pattern} {threads : List Thread}

theorem firstMatch_takeWhile_isRead (outcomes : List Outcome) :
    firstMatch (outcomes.flatMap (Outcome.endings place)) =
      (firstMatch ((outcomes.takeWhile Outcome.isRead).flatMap (Outcome.endings place))).or
        ((firstStop? outcomes).map (Trail.matchAt place)) := by
  induction outcomes with
  | nil => rfl
  | cons o rest ih =>
    cases o with
    | stop trail => rfl
    | read number residual trail =>
      rw [List.takeWhile_cons_of_pos rfl]
      rw [List.flatMap_cons, List.flatMap_cons]
      rw [firstMatch_append, firstMatch_append, ih, Option.or_assoc]
      rfl

theorem testBit_insert {seen number k : Nat} :
    (seen ||| 1 <<< number).testBit k = true ↔ seen.testBit k = true ∨ k = number := by
  rw [Nat.testBit_or, Nat.one_shiftLeft, Nat.testBit_two_pow, Bool.or_eq_true, decide_eq_true_eq]
  exact or_congr_right eq_comm

/--
Dropping reads by a set that has read before does not change the preferred match.
-/
theorem firstMatch_distinct {outcomes : List Outcome} (seen : Nat)
    (reads : ∀ o ∈ outcomes, o.isRead = true)
    (same : ∀ number rest rest' trail trail', .read number rest trail ∈ outcomes →
      .read number rest' trail' ∈ outcomes → rest = rest' ∧ trail.passed = trail'.passed)
    (nowhere : ∀ number rest trail, .read number rest trail ∈ outcomes →
      seen.testBit number = true → (Outcome.read number rest trail).endings place = []) :
    firstMatch (outcomes.flatMap (Outcome.endings place)) =
      firstMatch ((distinct seen outcomes).flatMap (endingsAfter place)) := by
  -- the invariant: a set that has been seen leads nowhere, or else the match would be settled
  induction outcomes generalizing seen with
  | nil => rfl
  | cons o others ih =>
    have sameOthers : ∀ number rest rest' trail trail', .read number rest trail ∈ others →
        .read number rest' trail' ∈ others → rest = rest' ∧ trail.passed = trail'.passed := by
      intro number rest rest' trail trail' h h'
      exact same number rest rest' trail trail' (List.mem_cons_of_mem _ h)
        (List.mem_cons_of_mem _ h')
    obtain ⟨first, readsOthers⟩ := List.forall_mem_cons.mp reads
    cases o with
    | stop trail => cases first
    | read number rest trail =>
      unfold distinct
      rw [List.flatMap_cons]
      split
      · next known =>
        rw [nowhere number rest trail List.mem_cons_self known, List.nil_append]
        apply ih seen readsOthers sameOthers
        intro number' rest' trail' h
        exact nowhere number' rest' trail' (List.mem_cons_of_mem _ h)
      · rw [List.flatMap_cons]
        change firstMatch ((Outcome.read number rest trail).endings place ++ _) =
          firstMatch ((Outcome.read number rest trail).endings place ++ _)
        by_cases none : (Outcome.read number rest trail).endings place = []
        · rw [none, List.nil_append, List.nil_append]
          apply ih _ readsOthers sameOthers
          intro number' rest' trail' h known
          cases testBit_insert.mp known with
          | inl before => exact nowhere number' rest' trail' (List.mem_cons_of_mem _ h) before
          | inr now =>
            -- the read that comes second leaves the same, so it leads nowhere either
            rw [now] at h ⊢
            obtain ⟨rfl, passed⟩ := same number rest rest' trail trail' List.mem_cons_self
              (List.mem_cons_of_mem _ h)
            unfold Outcome.endings at none ⊢
            cases hnext : place.next? with
            | none => rfl
            | some next =>
              rw [hnext] at none
              exact Residual.endings_eq_nil_of_passed passed none
        · rw [firstMatch_append_of_ne_nil none, firstMatch_append_of_ne_nil none]

theorem isLeftOf_of_mem_advance (h : ∀ t ∈ threads, t.residual.IsLeftOf pattern) :
    ∀ t ∈ (advance place threads).1, t.residual.IsLeftOf pattern := by
  intro t ht
  obtain ⟨number, hread⟩ := mem_distinct ht
  obtain ⟨thread, hthread, hmem⟩ := List.mem_flatMap.mp (List.takeWhile_subset _ hread)
  exact (h thread hthread).rest (Residual.reads_of_mem_outcomes hmem).1

theorem firstMatch_advance (place : Place) (h : ∀ t ∈ threads, t.residual.IsLeftOf pattern) :
    firstMatch (threads.flatMap (endings place)) =
      (firstMatch ((advance place threads).1.flatMap (endingsAfter place))).or
        ((advance place threads).2.map (·, place)) := by
  unfold advance
  dsimp only
  generalize houtcomes :
    (threads.flatMap fun t => t.residual.outcomes place t.trail) = outcomes
  have split : threads.flatMap (endings place) = outcomes.flatMap (Outcome.endings place) := by
    rw [← houtcomes, List.flatMap_assoc]
    congr 1
    funext t
    exact Residual.endings_eq t.residual place t.trail
  have left : ∀ number rest trail, .read number rest trail ∈ outcomes.takeWhile Outcome.isRead →
      ∃ residual : Residual, residual.IsLeftOf pattern ∧ residual.Reads number rest ∧
        trail.passed = [] := by
    intro number rest trail hread
    have hmem := List.takeWhile_subset _ hread
    rw [← houtcomes] at hmem
    obtain ⟨thread, hthread, hmem⟩ := List.mem_flatMap.mp hmem
    exact ⟨thread.residual, h thread hthread, Residual.reads_of_mem_outcomes hmem⟩
  rw [split, firstMatch_takeWhile_isRead]
  rw [firstMatch_distinct 0]
  · rw [Option.map_map]
    rfl
  · intro o ho
    exact List.all_eq_true.mp List.all_takeWhile o ho
  · intro number rest rest' trail trail' hread hread'
    obtain ⟨residual, hleft, reads, passed⟩ := left number rest trail hread
    obtain ⟨residual', hleft', reads', passed'⟩ := left number rest' trail' hread'
    rw [passed, passed']
    exact ⟨hleft.rest_eq hleft' reads reads', rfl⟩
  · intro number rest trail _ known
    rw [Nat.zero_testBit] at known
    cases known

end Thread

namespace Residual

/--
The match that a search has to find: the preferred one at the first place where there is one. The
place is given by its parts, as the recursion is on what follows it.
-/
def leftmost? (residual : Residual) (before : Option Char) (offset : Nat) :
    Text → Option (Match × Place)
  | [] => firstMatch (residual.endings ⟨before, offset, []⟩ (Trail.begin offset))
  | c :: cs =>
    (firstMatch (residual.endings ⟨before, offset, c :: cs⟩ (Trail.begin offset))).or
      (residual.leftmost? (some c) (offset + c.utf8Size) cs)

theorem leftmost?_cons (residual : Residual) (before : Option Char) (offset : Nat) (c : Char)
    (cs : Text) :
    residual.leftmost? before offset (c :: cs) =
      (firstMatch (residual.endings ⟨before, offset, c :: cs⟩ (Trail.begin offset))).or
        (residual.leftmost? (some c) (offset + c.utf8Size) cs) := by
  rfl

variable {pattern : Pattern} {before : Option Char} {offset : Nat} {threads : List Thread}
  {best : Option (Match × Place)}

theorem isLeftOf_of_mem_withStart (h : ∀ t ∈ threads, t.residual.IsLeftOf pattern) (offset : Nat)
    (best : Option (Match × Place)) :
    ∀ t ∈ pattern.residual.withStart offset threads best, t.residual.IsLeftOf pattern := by
  intro t ht
  unfold withStart at ht
  split at ht
  · cases List.mem_append.mp ht with
    | inl old => exact h t old
    | inr new =>
      cases List.mem_singleton.mp new
      exact isLeftOf_residual pattern
  · exact h t ht

theorem firstMatch_withStart (residual : Residual) (place : Place) (threads : List Thread)
    (best later : Option (Match × Place)) :
    (firstMatch ((residual.withStart place.offset threads best).flatMap
      (Thread.endings place))).or (best.or later) =
      (firstMatch (threads.flatMap (Thread.endings place))).or
        (best.or ((firstMatch (residual.endings place (Trail.begin place.offset))).or later)) := by
  cases best with
  | some found => rfl
  | none =>
    have : residual.withStart place.offset threads none =
        threads ++ [⟨residual, Trail.begin place.offset⟩] := rfl
    rw [this, List.flatMap_append, List.flatMap_singleton]
    rw [firstMatch_append, Option.or_assoc, Option.none_or, Option.none_or]
    rfl

/--
The search with threads gives their preferred match, or else the best match so far, or else the
leftmost match behind.
-/
theorem scan_eq {rest : Text} (h : ∀ t ∈ threads, t.residual.IsLeftOf pattern) :
    pattern.residual.scan before offset rest threads best =
      (firstMatch (threads.flatMap (Thread.endings ⟨before, offset, rest⟩))).or
        (best.or (pattern.residual.leftmost? before offset rest)) := by
  -- a thread that starts here is the least preferred one, and comes before all that start later
  induction rest generalizing before offset threads best with
  | nil =>
    have moved := Thread.firstMatch_advance ⟨before, offset, []⟩
      (isLeftOf_of_mem_withStart h offset best)
    have ended : ∀ ts : List Thread,
        firstMatch (ts.flatMap (Thread.endingsAfter ⟨before, offset, []⟩)) = none := by
      intro ts
      have : ts.flatMap (Thread.endingsAfter ⟨before, offset, []⟩) = [] := by
        rw [List.flatMap_eq_nil_iff]
        intro t _
        rfl
      rw [this]
      rfl
    rw [ended, Option.none_or] at moved
    have started := firstMatch_withStart pattern.residual ⟨before, offset, []⟩ threads best none
    rw [Option.or_none, Option.or_none] at started
    rw [scan_nil]
    unfold leftmost? better
    rw [← moved, started]
  | cons c cs ih =>
    have moved := Thread.firstMatch_advance ⟨before, offset, c :: cs⟩
      (isLeftOf_of_mem_withStart h offset best)
    have started := firstMatch_withStart pattern.residual ⟨before, offset, c :: cs⟩ threads best
      (pattern.residual.leftmost? (some c) (offset + c.utf8Size) cs)
    rw [scan_cons]
    rw [ih (Thread.isLeftOf_of_mem_advance (isLeftOf_of_mem_withStart h offset best))]
    rw [leftmost?_cons]
    unfold better
    rw [← started, moved, Option.or_assoc, Option.or_assoc]
    rfl

theorem find?_eq (pattern : Pattern) (place : Place) :
    pattern.residual.find? place =
      pattern.residual.leftmost? place.before place.offset place.rest := by
  unfold find?
  rw [scan_eq (by simp)]
  rfl

end Residual

/-! ### Matches in a text -/

/--
The place between the part of a text that has been read and the rest.
-/
def Place.between (read rest : Text) : Place :=
  ⟨read.getLast?, read.byteSize, rest⟩

theorem Place.isIn_iff {place : Place} {text : Text} :
    place.IsIn text ↔ ∃ read rest, text = read ++ rest ∧ place = between read rest := by
  constructor
  · rintro ⟨read, split, offset, before⟩
    refine ⟨read, place.rest, split, ?_⟩
    unfold between
    rw [← offset, ← before]
  · rintro ⟨read, rest, split, rfl⟩
    exact ⟨read, split, rfl, rfl⟩

theorem Place.between_read (read : Text) (c : Char) (cs : Text) :
    between (read ++ [c]) cs = ⟨some c, read.byteSize + c.utf8Size, cs⟩ := by
  unfold between
  simp

namespace Residual

variable {residual : Residual} {found : Match × Place}

def matchBetween? (residual : Residual) (read rest : Text) : Option (Match × Place) :=
  firstMatch (residual.endings (Place.between read rest) (Trail.begin read.byteSize))

theorem leftmost?_between (residual : Residual) (read rest : Text) (c : Char) :
    residual.leftmost? read.getLast? read.byteSize (c :: rest) =
      (residual.matchBetween? read (c :: rest)).or
        (residual.leftmost? (read ++ [c]).getLast? (read ++ [c]).byteSize rest) := by
  rw [leftmost?_cons]
  have := Place.between_read read c rest
  unfold Place.between at this
  rw [Place.mk.injEq] at this
  rw [this.1, this.2.1]
  rfl

theorem exists_between_of_leftmost? {read rest : Text}
    (h : residual.leftmost? read.getLast? read.byteSize rest = some found) :
    ∃ skipped rest', rest = skipped ++ rest' ∧
      residual.matchBetween? (read ++ skipped) rest' = some found := by
  induction rest generalizing read with
  | nil =>
    refine ⟨[], [], rfl, ?_⟩
    rw [List.append_nil]
    exact h
  | cons c cs ih =>
    rw [leftmost?_between] at h
    cases hhere : residual.matchBetween? read (c :: cs) with
    | some here =>
      rw [hhere] at h
      cases h
      refine ⟨[], c :: cs, rfl, ?_⟩
      rw [List.append_nil]
      exact hhere
    | none =>
      rw [hhere, Option.none_or] at h
      obtain ⟨skipped, rest', split, later⟩ := ih h
      refine ⟨c :: skipped, rest', ?_, ?_⟩
      · rw [split, List.cons_append]
      · rw [List.append_assoc] at later
        exact later

theorem leftmost?_of_between {read skipped rest : Text}
    (h : (residual.matchBetween? (read ++ skipped) rest).isSome = true) :
    ∃ front back found, skipped = front ++ back ∧
      residual.matchBetween? (read ++ front) (back ++ rest) = some found ∧
      residual.leftmost? read.getLast? read.byteSize (skipped ++ rest) = some found := by
  induction skipped generalizing read with
  | nil =>
    obtain ⟨found, hfound⟩ := Option.isSome_iff_exists.mp h
    refine ⟨[], [], found, rfl, hfound, ?_⟩
    rw [List.append_nil] at hfound
    cases rest with
    | nil => exact hfound
    | cons c cs =>
      rw [List.nil_append, leftmost?_between, hfound]
      rfl
  | cons c skipped ih =>
    rw [List.cons_append, leftmost?_between]
    cases hhere : residual.matchBetween? read (c :: (skipped ++ rest)) with
    | some here =>
      refine ⟨[], c :: skipped, here, rfl, ?_, rfl⟩
      rw [List.append_nil]
      exact hhere
    | none =>
      rw [← List.singleton_append, ← List.append_assoc] at h
      obtain ⟨front, back, found, split, later, first⟩ := ih h
      refine ⟨c :: front, back, found, ?_, ?_, ?_⟩
      · rw [split, List.cons_append]
      · rw [List.append_assoc] at later
        exact later
      · rw [first]
        rfl

variable {pattern : Pattern} {text : Text}

theorem exists_place_of_mem_matchesFrom {fuel : Nat} {place : Place} {last : Option Nat} {m : Match}
    (isIn : place.IsIn text) (h : m ∈ pattern.residual.matchesFrom fuel place last) :
    ∃ read rest stop, text = read ++ rest ∧
      pattern.residual.matchBetween? read rest = some (m, stop) ∧ stop.IsIn text := by
  induction fuel generalizing place last with
  | zero => cases h
  | succ fuel ih =>
    unfold matchesFrom at h
    cases hfound : pattern.residual.find? place with
    | none =>
      rw [hfound] at h
      cases h
    | some found =>
      obtain ⟨m', stop⟩ := found
      have stopIsIn := (find?_found isIn _ hfound).isIn
      rw [hfound] at h
      dsimp only at h
      split at h
      · cases hnext : place.next? with
        | none =>
          rw [hnext] at h
          cases h
        | some next =>
          rw [hnext] at h
          exact ih (isIn.next hnext).1 h
      · cases List.mem_cons.mp h with
        | inl here =>
          obtain ⟨read, rest, split, rfl⟩ := Place.isIn_iff.mp isIn
          rw [find?_eq] at hfound
          obtain ⟨skipped, rest', split', matched⟩ := exists_between_of_leftmost? hfound
          refine ⟨read ++ skipped, rest', stop, ?_, ?_, stopIsIn⟩
          · rw [split, List.append_assoc]
            exact congrArg (read ++ ·) split'
          · rw [here]
            exact matched
        | inr later => exact ih stopIsIn later

theorem exists_place_of_mem_allMatches {m : Match} (h : m ∈ pattern.residual.allMatches text) :
    ∃ read rest stop, text = read ++ rest ∧
      pattern.residual.matchBetween? read rest = some (m, stop) ∧ stop.IsIn text := by
  exact exists_place_of_mem_matchesFrom (Place.start_isIn text) h

end Residual
end PiiScan
