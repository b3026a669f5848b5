import PiiScan.Pattern.Search
import PiiScan.Proofs.Pattern.Outcomes
import PiiScan.Proofs.Sorting
import PiiScan.Proofs.Text

/-!
This module contains what is known about the ranges that a search reports, whatever the pattern is.
Matches and their entity groups begin and end between code points of the text, a group lies inside
of its match, and successive matches do not overlap. The invariant is that of a trail: all that a
path has recorded lies between the start of its match and the place that it has come to.
-/

namespace PiiScan
namespace Place

/--
Whether a place lies in a text: what has been read before it and what follows make up the text.
-/
def IsIn (place : Place) (text : Text) : Prop :=
  ∃ read : Text, text = read ++ place.rest ∧ place.offset = read.byteSize ∧
    place.before = read.getLast?

theorem start_isIn (text : Text) : (start text).IsIn text := by
  exact ⟨[], rfl, rfl, rfl⟩

theorem IsIn.isBoundary {place : Place} {text : Text} (h : place.IsIn text) :
    text.isBoundary place.offset = true := by
  obtain ⟨read, split, offset, -⟩ := h
  rw [split, offset]
  apply Text.isBoundary_append

theorem IsIn.read {before : Option Char} {offset : Nat} {c : Char} {cs text : Text}
    (h : IsIn ⟨before, offset, c :: cs⟩ text) : IsIn ⟨some c, offset + c.utf8Size, cs⟩ text := by
  obtain ⟨read, split, size, -⟩ := h
  refine ⟨read ++ [c], ?_, ?_, ?_⟩
  · rw [List.append_assoc]
    exact split
  · rw [Text.byteSize_append]
    exact congrArg (· + c.utf8Size) size
  · simp

theorem IsIn.next {place next : Place} {text : Text} (h : place.IsIn text)
    (hnext : place.next? = some next) : next.IsIn text ∧ place.offset ≤ next.offset := by
  obtain ⟨before, offset, rest⟩ := place
  cases rest with
  | nil => cases hnext
  | cons c cs =>
    cases hnext
    exact ⟨h.read, Nat.le_add_right offset c.utf8Size⟩

end Place

/--
A trail fits a text when all that it has recorded lies between `least` and the place that it has
come to.
-/
structure Trail.Fits (trail : Trail) (text : Text) (least offset : Nat) : Prop where
  least_le : least ≤ trail.start
  start_le : trail.start ≤ trail.entered
  start : text.isBoundary trail.start = true
  entered : text.CanCut trail.entered offset
  entity : ∀ range ∈ trail.entity,
    trail.start ≤ range.1 ∧ range.2 ≤ offset ∧ text.CanCut range.1 range.2

namespace Trail.Fits

variable {trail : Trail} {text : Text} {least offset : Nat}

theorem begin (h : text.isBoundary offset = true) (least_le : least ≤ offset) :
    (Trail.begin offset).Fits text least offset := by
  constructor
  · exact least_le
  · exact Nat.le_refl offset
  · exact h
  · exact ⟨Nat.le_refl offset, h, h⟩
  · intro range hrange
    cases hrange

theorem pass (h : trail.Fits text least offset) (passed : List Nat) :
    Trail.Fits { trail with passed := passed } text least offset := by
  exact ⟨h.least_le, h.start_le, h.start, h.entered, h.entity⟩

theorem enter (h : trail.Fits text least offset) :
    Trail.Fits { trail with entered := offset } text least offset := by
  constructor
  · exact h.least_le
  · exact Nat.le_trans h.start_le h.entered.1
  · exact h.start
  · exact ⟨Nat.le_refl offset, h.entered.2.2, h.entered.2.2⟩
  · exact h.entity

theorem leave (h : trail.Fits text least offset) :
    Trail.Fits { trail with entity := some (trail.entered, offset) } text least offset := by
  constructor
  · exact h.least_le
  · exact h.start_le
  · exact h.start
  · exact h.entered
  · intro range hrange
    cases hrange
    exact ⟨h.start_le, Nat.le_refl offset, h.entered⟩

theorem mono {later : Nat} (h : trail.Fits text least offset) (le : offset ≤ later)
    (boundary : text.isBoundary later = true) : trail.Fits text least later := by
  constructor
  · exact h.least_le
  · exact h.start_le
  · exact h.start
  · exact ⟨Nat.le_trans h.entered.1 le, h.entered.2.1, boundary⟩
  · intro range hrange
    obtain ⟨inside, before, cut⟩ := h.entity range hrange
    exact ⟨inside, Nat.le_trans before le, cut⟩

end Trail.Fits

theorem Outcome.leaveEntity_fits {outcome : Outcome} {text : Text} {least offset : Nat}
    (h : outcome.trail.Fits text least offset) :
    (outcome.leaveEntity offset).trail.Fits text least offset := by
  cases outcome with
  | stop trail => exact h.leave
  | read number rest trail => exact h

@[simp]
theorem Outcome.trail_mapRest (f : Residual → Residual) (outcome : Outcome) :
    (outcome.mapRest f).trail = outcome.trail := by
  cases outcome <;> rfl

theorem Residual.outcomes_fits {text : Text} {least : Nat} {place : Place} {residual : Residual}
    {trail : Trail} (h : trail.Fits text least place.offset) :
    ∀ o ∈ residual.outcomes place trail, o.trail.Fits text least place.offset := by
  induction residual generalizing trail with
  | empty =>
    intro o ho
    cases List.mem_singleton.mp ho
    exact h
  | chars number set =>
    intro o ho
    obtain ⟨c, cs, -, -, rfl⟩ := mem_outcomes_chars ho
    exact h.pass []
  | look condition =>
    intro o ho
    obtain ⟨-, rfl⟩ := mem_outcomes_look ho
    exact h
  | entity body ih =>
    -- the group is entered here, and every record of it begins here
    intro o ho
    obtain ⟨inner, hinner, rfl⟩ := List.mem_map.mp ho
    apply Outcome.leaveEntity_fits
    exact ih h.enter inner hinner
  | inEntity body ih =>
    intro o ho
    obtain ⟨inner, hinner, rfl⟩ := List.mem_map.mp ho
    apply Outcome.leaveEntity_fits
    exact ih h inner hinner
  | cat first second ihFirst ihSecond =>
    intro o ho
    cases mem_outcomes_cat ho with
    | inl stops =>
      obtain ⟨trail', hstop, hmem⟩ := stops
      exact ihSecond (ihFirst h _ hstop) o hmem
    | inr reads =>
      obtain ⟨number, rest, trail', hread, rfl⟩ := reads
      have fits := ihFirst h _ hread
      exact fits
  | alt first second ihFirst ihSecond =>
    intro o ho
    cases mem_outcomes_alt ho with
    | inl preferred => exact ihFirst h o preferred
    | inr other => exact ihSecond h o other
  | plus greedy body ih =>
    intro o ho
    obtain ⟨inner, hinner, rfl⟩ := List.mem_map.mp ho
    rw [Outcome.trail_mapRest]
    exact ih h inner hinner
  | again greedy body ih =>
    intro o ho
    cases mem_outcomes_again ho with
    | inl stops =>
      rw [stops]
      exact h
    | inr reads =>
      obtain ⟨inner, hinner, rfl⟩ := reads
      rw [Outcome.trail_mapRest]
      exact ih h inner hinner
  | once number body ih =>
    intro o ho
    exact ih (h.pass _) o (mem_outcomes_once ho)

namespace Thread

theorem mem_distinct {seen : Nat} {outcomes : List Outcome} {thread : Thread}
    (h : thread ∈ distinct seen outcomes) :
    ∃ number, .read number thread.residual thread.trail ∈ outcomes := by
  induction outcomes generalizing seen with
  | nil => cases h
  | cons o rest ih =>
    cases o with
    | stop trail =>
      obtain ⟨number, hmem⟩ := ih h
      exact ⟨number, List.mem_cons_of_mem _ hmem⟩
    | read number residual trail =>
      unfold distinct at h
      split at h
      · obtain ⟨other, hmem⟩ := ih h
        exact ⟨other, List.mem_cons_of_mem _ hmem⟩
      · cases List.mem_cons.mp h with
        | inl same =>
          rw [same]
          exact ⟨number, List.mem_cons_self⟩
        | inr later =>
          obtain ⟨other, hmem⟩ := ih later
          exact ⟨other, List.mem_cons_of_mem _ hmem⟩

theorem mem_of_firstStop? {outcomes : List Outcome} {trail : Trail}
    (h : firstStop? outcomes = some trail) : .stop trail ∈ outcomes := by
  induction outcomes with
  | nil => cases h
  | cons o rest ih =>
    cases o with
    | stop first =>
      cases h
      exact List.mem_cons_self
    | read number residual first => exact List.mem_cons_of_mem _ (ih h)

end Thread

/--
A match fits a text when it lies behind `least` and, like its entity group, between code points of
the text, and the group lies inside of the match.
-/
structure Match.Fits (m : Match) (text : Text) (least : Nat) : Prop where
  least_le : least ≤ m.start
  range : text.CanCut m.start m.stop
  entity : ∀ range ∈ m.entity,
    m.start ≤ range.1 ∧ range.2 ≤ m.stop ∧ text.CanCut range.1 range.2

theorem Match.Fits.mono {m : Match} {text : Text} {least less : Nat} (h : m.Fits text least)
    (le : less ≤ least) : m.Fits text less := by
  exact ⟨Nat.le_trans le h.least_le, h.range, h.entity⟩

theorem Match.Fits.reported {m : Match} {text : Text} {least : Nat} (h : m.Fits text least) :
    text.CanCut m.reported.1 m.reported.2 := by
  unfold Match.reported
  cases hentity : m.entity with
  | none => exact h.range
  | some range => exact (h.entity range hentity).2.2

theorem Trail.Fits.toMatch {trail : Trail} {text : Text} {least offset : Nat}
    (h : trail.Fits text least offset) :
    Match.Fits ⟨trail.start, offset, trail.entity⟩ text least := by
  constructor
  · exact h.least_le
  · exact ⟨Nat.le_trans h.start_le h.entered.1, h.start, h.entered.2.2⟩
  · exact h.entity

namespace Thread

variable {text : Text} {least : Nat} {place : Place} {threads : List Thread}

theorem trail_fits_of_mem_outcomes
    (h : ∀ t ∈ threads, t.trail.Fits text least place.offset) {o : Outcome}
    (ho : o ∈ threads.flatMap fun t => t.residual.outcomes place t.trail) :
    o.trail.Fits text least place.offset := by
  obtain ⟨thread, hthread, hmem⟩ := List.mem_flatMap.mp ho
  exact Residual.outcomes_fits (h thread hthread) o hmem

theorem advance_fits (place : Place) (h : ∀ t ∈ threads, t.trail.Fits text least place.offset) :
    (∀ t ∈ (advance place threads).1, t.trail.Fits text least place.offset) ∧
      ∀ m ∈ (advance place threads).2, m.stop = place.offset ∧ m.Fits text least := by
  unfold advance
  dsimp only
  constructor
  · intro t ht
    obtain ⟨number, hread⟩ := mem_distinct ht
    exact trail_fits_of_mem_outcomes h (List.takeWhile_subset _ hread)
  · intro m hm
    obtain ⟨trail, hstop, rfl⟩ := Option.map_eq_some_iff.mp hm
    refine ⟨rfl, ?_⟩
    have := trail_fits_of_mem_outcomes h (mem_of_firstStop? hstop)
    exact this.toMatch

end Thread

namespace Residual

/--
What a search for a pattern gives: a match that fits the text and the place where it ends.
-/
structure Found (text : Text) (least : Nat) (found : Match × Place) : Prop where
  fits : found.1.Fits text least
  isIn : found.2.IsIn text
  stop : found.1.stop = found.2.offset

/--
The threads at a place, with one that starts there as long as there is no match.
-/
def withStart (residual : Residual) (offset : Nat) (threads : List Thread)
    (best : Option (Match × Place)) : List Thread :=
  if best.isNone then threads ++ [⟨residual, Trail.begin offset⟩] else threads

def better (place : Place) (found : Option Match) (best : Option (Match × Place)) :
    Option (Match × Place) :=
  (found.map (·, place)).or best

theorem better_eq_match (place : Place) (found : Option Match) (best : Option (Match × Place)) :
    better place found best = match found with
      | some m => some (m, place)
      | none => best := by
  cases found <;> rfl

variable {residual : Residual} {before : Option Char} {offset : Nat} {threads : List Thread}
  {best : Option (Match × Place)}

theorem scan_nil :
    residual.scan before offset [] threads best =
      better ⟨before, offset, []⟩
        (Thread.advance ⟨before, offset, []⟩ (residual.withStart offset threads best)).2 best := by
  rw [better_eq_match]
  rfl

theorem scan_without_threads {rest : Text} {found : Match × Place} :
    residual.scan before offset rest [] (some found) = some found := by
  cases rest <;> rfl

theorem scan_cons {c : Char} {cs : Text} :
    residual.scan before offset (c :: cs) threads best =
      residual.scan (some c) (offset + c.utf8Size) cs
        (Thread.advance ⟨before, offset, c :: cs⟩ (residual.withStart offset threads best)).1
        (better ⟨before, offset, c :: cs⟩
          (Thread.advance ⟨before, offset, c :: cs⟩ (residual.withStart offset threads best)).2
          best) := by
  generalize hadvanced :
    Thread.advance ⟨before, offset, c :: cs⟩ (residual.withStart offset threads best) = advanced
  generalize hbest : better ⟨before, offset, c :: cs⟩ advanced.2 best = best'
  have unfolded : residual.scan before offset (c :: cs) threads best =
      if advanced.1.isEmpty && best'.isSome then best'
      else residual.scan (some c) (offset + c.utf8Size) cs advanced.1 best' := by
    rw [← hbest, better_eq_match, ← hadvanced]
    rfl
  rw [unfolded]
  split
  · next stop =>
    rw [Bool.and_eq_true, List.isEmpty_iff, Option.isSome_iff_exists] at stop
    obtain ⟨none, found, some⟩ := stop
    rw [none, some, scan_without_threads]
  · rfl

theorem withStart_fits (residual : Residual) (best : Option (Match × Place)) {text : Text}
    {least : Nat} (boundary : text.isBoundary offset = true)
    (least_le : least ≤ offset) (h : ∀ t ∈ threads, t.trail.Fits text least offset) :
    ∀ t ∈ residual.withStart offset threads best, t.trail.Fits text least offset := by
  intro t ht
  unfold withStart at ht
  split at ht
  · cases List.mem_append.mp ht with
    | inl old => exact h t old
    | inr new =>
      cases List.mem_singleton.mp new
      exact Trail.Fits.begin boundary least_le
  · exact h t ht

theorem better_found {text : Text} {least : Nat} {place : Place} {found : Option Match}
    (isIn : place.IsIn text)
    (hfound : ∀ m ∈ found, m.stop = place.offset ∧ m.Fits text least)
    (hbest : ∀ b ∈ best, Found text least b) :
    ∀ b ∈ better place found best, Found text least b := by
  intro b hb
  cases found with
  | none => exact hbest b hb
  | some m =>
    cases hb
    obtain ⟨stop, fits⟩ := hfound m rfl
    exact ⟨fits, isIn, stop⟩

theorem scan_found {text rest : Text} {least : Nat}
    (isIn : Place.IsIn ⟨before, offset, rest⟩ text) (least_le : least ≤ offset)
    (hthreads : ∀ t ∈ threads, t.trail.Fits text least offset)
    (hbest : ∀ found ∈ best, Found text least found) :
    ∀ found ∈ residual.scan before offset rest threads best, Found text least found := by
  -- the threads and the best match so far change with every code point, the bound on their starts
  -- does not
  induction rest generalizing before offset threads best with
  | nil =>
    rw [scan_nil]
    apply better_found isIn _ hbest
    apply (Thread.advance_fits _ _).2
    exact withStart_fits residual best isIn.isBoundary least_le hthreads
  | cons c cs ih =>
    have later : offset ≤ offset + c.utf8Size := Nat.le_add_right offset c.utf8Size
    obtain ⟨hnext, hmatch⟩ := Thread.advance_fits ⟨before, offset, c :: cs⟩
      (withStart_fits residual best isIn.isBoundary least_le hthreads)
    rw [scan_cons]
    apply ih isIn.read
    · exact Nat.le_trans least_le later
    · intro t ht
      exact (hnext t ht).mono later isIn.read.isBoundary
    · exact better_found isIn hmatch hbest

theorem find?_found {text : Text} {place : Place} (isIn : place.IsIn text) :
    ∀ found ∈ residual.find? place, Found text place.offset found := by
  apply scan_found isIn (Nat.le_refl place.offset)
  · simp
  · simp

/--
The successive matches fit the text, and each begins where the one before it ends or later.
-/
theorem matchesFrom_fits {text : Text} {fuel : Nat} {place : Place} (last : Option Nat)
    (isIn : place.IsIn text) :
    (∀ m ∈ residual.matchesFrom fuel place last, m.Fits text place.offset) ∧
      (residual.matchesFrom fuel place last).Pairwise fun a b => a.stop ≤ b.start := by
  induction fuel generalizing place last with
  | zero => simp [matchesFrom]
  | succ fuel ih =>
    unfold matchesFrom
    split
    · simp
    · next m stop hfound =>
      have found := find?_found isIn _ hfound
      split
      · split
        · simp
        · next next hnext =>
          obtain ⟨nextIsIn, le⟩ := isIn.next hnext
          obtain ⟨fits, pairwise⟩ := ih last nextIsIn
          exact ⟨fun m hm => (fits m hm).mono le, pairwise⟩
      · obtain ⟨fits, pairwise⟩ := ih (some m.stop) found.isIn
        have stopped : m.stop = stop.offset := found.stop
        -- the next search starts where this match stops
        have after : place.offset ≤ stop.offset := by
          rw [← stopped]
          exact Nat.le_trans found.fits.least_le found.fits.range.1
        constructor
        · intro other hother
          cases List.mem_cons.mp hother with
          | inl same =>
            rw [same]
            exact found.fits
          | inr later => exact (fits other later).mono after
        · apply List.pairwise_cons.mpr
          refine ⟨?_, pairwise⟩
          intro other hother
          rw [stopped]
          exact (fits other hother).least_le

theorem allMatches_fits (residual : Residual) {text : Text} :
    ∀ m ∈ residual.allMatches text, m.Fits text 0 := by
  exact (matchesFrom_fits none (Place.start_isIn text)).1

theorem allMatches_pairwise (residual : Residual) {text : Text} :
    (residual.allMatches text).Pairwise fun a b => a.stop ≤ b.start := by
  exact (matchesFrom_fits none (Place.start_isIn text)).2

end Residual
end PiiScan
