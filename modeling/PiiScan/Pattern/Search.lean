import PiiScan.Pattern.Residual

/-!
This module contains the search for a pattern in a text. The leftmost match is found, and of those
that start there the preferred one; the text is read once, with a list of the residuals that are
still possible in order of preference.
-/

namespace PiiScan

/--
A match of a pattern: its byte range, and that of its entity group.
-/
structure Match where
  start : Nat
  stop : Nat
  entity : Option (Nat × Nat)
  deriving DecidableEq

namespace Match

/--
The range that a finding reports: the entity group if it took part in the match.
-/
def reported (m : Match) : Nat × Nat := m.entity.getD (m.start, m.stop)

end Match

structure Thread where
  residual : Residual
  trail : Trail

namespace Thread

/--
Keep the first of several reads by the same set. The bits of `seen` are the numbers read so far.
-/
def distinct (seen : Nat) : List Outcome → List Thread
  | [] => []
  | .stop _ :: rest => distinct seen rest
  | .read number residual trail :: rest =>
    if seen.testBit number then distinct seen rest
    else ⟨residual, trail⟩ :: distinct (seen ||| 1 <<< number) rest

def firstStop? : List Outcome → Option Trail
  | [] => none
  | .stop trail :: _ => some trail
  | .read .. :: rest => firstStop? rest

/--
Move threads on by one code point. A thread that stops gives a match and ends those after it.
-/
def advance (place : Place) (threads : List Thread) : List Thread × Option Match :=
  let outcomes := threads.flatMap fun thread => thread.residual.outcomes place thread.trail
  (distinct 0 (outcomes.takeWhile Outcome.isRead),
    (firstStop? outcomes).map fun trail => ⟨trail.start, place.offset, trail.entity⟩)

end Thread

namespace Residual

/--
Read the rest of a text, with the threads that are possible here and the best match so far. As long
as there is none, a match may start at every place.
-/
def scan (residual : Residual) (before : Option Char) (offset : Nat) :
    Text → List Thread → Option (Match × Place) → Option (Match × Place)
  | rest, threads, best =>
    let place : Place := ⟨before, offset, rest⟩
    let threads := if best.isNone then threads ++ [⟨residual, Trail.begin offset⟩] else threads
    let (threads, found) := Thread.advance place threads
    let best := match found with
      | some m => some (m, place)
      | none => best
    match rest with
    | [] => best
    | c :: cs =>
      if threads.isEmpty && best.isSome then best
      else residual.scan (some c) (offset + c.utf8Size) cs threads best

def find? (residual : Residual) (place : Place) : Option (Match × Place) :=
  residual.scan place.before place.offset place.rest [] none

/--
The successive matches from a place on. An empty match right after the last match is passed over.
-/
def matchesFrom (residual : Residual) : Nat → Place → Option Nat → List Match
  | 0, _, _ => []
  | fuel + 1, place, last =>
    match residual.find? place with
    | none => []
    | some (m, stop) =>
      if m.start = m.stop ∧ last = some m.stop then
        match place.next? with
        | none => []
        | some next => residual.matchesFrom fuel next last
      else m :: residual.matchesFrom fuel stop (some m.stop)

def allMatches (residual : Residual) (text : Text) : List Match :=
  residual.matchesFrom (2 * text.length + 2) (Place.start text) none

end Residual
end PiiScan
