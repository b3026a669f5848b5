import PiiScan.Detection
import PiiScan.Sorting

/-!
This module contains the choice among overlapping candidates. The best candidate is taken first, and
one that overlaps a candidate already taken is dropped; what is taken is reported by start.
-/

namespace PiiScan

def preferred (a b : Detection) : Bool :=
  decide (b.score.rank < a.score.rank) ||
    (decide (a.score.rank = b.score.rank) && decide (a.start ≤ b.start))

def selectGreedy (taken : List Detection) : List Detection → List Detection
  | [] => taken
  | candidate :: rest =>
    if taken.any candidate.clashes then selectGreedy taken rest
    else selectGreedy (taken ++ [candidate]) rest

def resolveOverlaps (candidates : List Detection) : List Detection :=
  sortStable (fun a b => decide (a.start ≤ b.start))
    (selectGreedy [] (sortStable preferred candidates))

end PiiScan
