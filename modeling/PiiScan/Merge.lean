import PiiScan.Detection
import PiiScan.Sorting

/-!
This module contains the union of overlapping detections. Detections that share bytes become one
span with the highest score among them and the entity type that goes with it; detections that only
touch stay apart.
-/

namespace PiiScan

def mergeOrder (a b : Detection) : Bool :=
  decide (a.start < b.start) || (decide (a.start = b.start) && decide (b.stop ≤ a.stop))

/--
A span extended by one that overlaps it. The entity type changes only for a strictly higher score.
-/
def Detection.absorb (span next : Detection) : Detection :=
  let stop := max span.stop next.stop
  if span.score.lt next.score then ⟨next.entityType, span.start, stop, next.score⟩
  else ⟨span.entityType, span.start, stop, span.score⟩

def mergeFrom (span : Detection) : List Detection → List Detection
  | [] => [span]
  | next :: rest =>
    if next.start < span.stop then mergeFrom (span.absorb next) rest
    else span :: mergeFrom next rest

def mergeSpans (detections : List Detection) : List Detection :=
  match sortStable mergeOrder detections with
  | [] => []
  | span :: rest => mergeFrom span rest

end PiiScan
