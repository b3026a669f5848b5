import PiiScan.Sorting

/-!
This module contains sets of code points as ascending lists of disjoint ranges.
-/

namespace PiiScan

/--
A set of code points: the first and the last member of every range, in ascending order.
-/
abbrev CharSet := List (Nat × Nat)

namespace CharSet

def containsCode : CharSet → Nat → Bool
  | [], _ => false
  | (lo, hi) :: rest, n => if n < lo then false else if n ≤ hi then true else containsCode rest n

def contains (set : CharSet) (c : Char) : Bool := containsCode set c.toNat

def maxCode : Nat := 0x10FFFF

def full : CharSet := [(0, maxCode)]

def single (c : Char) : CharSet := [(c.toNat, c.toNat)]

/--
Join ranges that overlap or touch; they are sorted by their first members.
-/
def join : CharSet → CharSet
  | [] => []
  | (lo, hi) :: rest =>
    match join rest with
    | (lo', hi') :: more =>
      if lo' ≤ hi + 1 then (lo, max hi hi') :: more else (lo, hi) :: (lo', hi') :: more
    | [] => [(lo, hi)]

def ofRanges (ranges : List (Nat × Nat)) : CharSet :=
  join (sortStable (fun a b => decide (a.1 ≤ b.1)) ranges)

def union (a b : CharSet) : CharSet := ofRanges (a ++ b)

/--
The code points from `next` on that are not in the set.
-/
def gapsFrom (next : Nat) : CharSet → CharSet
  | [] => if next ≤ maxCode then [(next, maxCode)] else []
  | (lo, hi) :: rest =>
    if next < lo then (next, lo - 1) :: gapsFrom (hi + 1) rest else gapsFrom (hi + 1) rest

def complement (set : CharSet) : CharSet := gapsFrom 0 set

def inter (a b : CharSet) : CharSet := complement (union (complement a) (complement b))

def diff (a b : CharSet) : CharSet := inter a (complement b)

def symmDiff (a b : CharSet) : CharSet := union (diff a b) (diff b a)

def isAscii (set : CharSet) : Bool := set.all fun r => decide (r.2 < 128)

end CharSet
end PiiScan
