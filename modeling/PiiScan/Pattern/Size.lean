import PiiScan.Pattern.Basic

/-!
This module contains the size of patterns. A pattern is refused when one of the two automata for it
would take more than ten mebibytes. Both read the bytes of UTF-8: one forwards, which also records
where groups begin and end, the other backwards. A state takes 32 bytes, and more when it has
several branches.
-/

namespace PiiScan

/--
The ranges of digits of base 64, from the leading digit on, that together make up the numbers from
`lo` to `hi`. After the leading digit there are `n` more.
-/
def digitRanges : Nat → Nat → Nat → List (List (Nat × Nat))
  | 0, lo, hi => [[(lo, hi)]]
  | n + 1, lo, hi =>
    let unit := Nat.pow 64 (n + 1)
    let a := lo / unit
    let b := hi / unit
    if a = b then (digitRanges n (lo % unit) (hi % unit)).map ((a, a) :: ·)
    else
      let partialFirst := decide (lo % unit ≠ 0)
      let partialLast := decide (hi % unit ≠ unit - 1)
      let first := if partialFirst then a + 1 else a
      let last := if partialLast then b - 1 else b
      (if partialFirst then (digitRanges n (lo % unit) (unit - 1)).map ((a, a) :: ·) else []) ++
        (if first ≤ last then [(first, last) :: List.replicate (n + 1) (0, 63)] else []) ++
        (if partialLast then (digitRanges n 0 (hi % unit)).map ((b, b) :: ·) else [])

/--
The part of a range that lies between two bounds, cut into ranges of bytes.
-/
def byteRangesWithin (range : Nat × Nat) (bound : Nat × Nat × Nat) : List (List (Nat × Nat)) :=
  let lo := max range.1 bound.1
  let hi := min range.2 bound.2.1
  if lo ≤ hi then digitRanges bound.2.2 lo hi else []

def encodedLengths : List (Nat × Nat × Nat) :=
  [(0, 0x7F, 0), (0x80, 0x7FF, 1), (0x800, 0xD7FF, 2), (0xE000, 0xFFFF, 2), (0x10000, 0x10FFFF, 3)]

def byteRanges (set : CharSet) : List (List (Nat × Nat)) :=
  set.flatMap fun range => encodedLengths.flatMap (byteRangesWithin range)

/--
The number of states of a tree of the given paths, which are sorted. Paths share what they begin
with.
-/
def treeStates (previous : List (Nat × Nat)) : List (List (Nat × Nat)) → Nat
  | [] => 0
  | path :: rest =>
    path.length - (Pattern.commonStart previous path).length + treeStates path rest

def pathsByStep : List (List (Nat × Nat)) → List ((Nat × Nat) × List (List (Nat × Nat)))
  | [] => []
  | [] :: paths => pathsByStep paths
  | (step :: path) :: paths =>
    match pathsByStep paths with
    | (step', rests) :: groups =>
      if step = step' then (step, path :: rests) :: groups
      else (step, [path]) :: (step', rests) :: groups
    | [] => [(step, [path])]

/--
The states that lead along the given paths of at most `n` steps, each by the paths that go on from
it.
-/
def pathStates : Nat → List (List (Nat × Nat)) → List (List (List (Nat × Nat)))
  | 0, _ => []
  | n + 1, paths =>
    paths :: (pathsByStep paths).flatMap fun group =>
      if group.2 = [[]] then [] else pathStates n group.2

def stateSize (paths : List (List (Nat × Nat))) : Nat :=
  let steps := (pathsByStep paths).length
  if steps = 1 then 32 else 32 + 8 * steps

/--
The size of the states for the given paths when paths share what they end with.
-/
def mergedSize (paths : List (List (Nat × Nat))) : Nat :=
  (pathStates 4 paths).eraseDups.foldl (fun size state => size + stateSize state) 0

def CharSet.automatonSize (forwards : Bool) (set : CharSet) : Nat :=
  match set with
  | [(lo, hi)] =>
    if lo = hi then 32 * (Char.ofNat lo).utf8Size
    else if hi < 128 then 64
    else general
  | _ => if set.isAscii then 64 + 8 * set.length else general
where
  general : Nat :=
    let paths := byteRanges set
    if forwards then 32 + mergedSize paths
    else 32 * (2 + treeStates [] paths) + 4 * paths.length

namespace Pattern

def size (forwards : Bool) : Pattern → Nat
  | .empty | .look _ => 32
  | .chars set => set.automatonSize forwards
  | .capture _ _ body => body.size forwards + if forwards then 64 else 0
  | .cat first second => first.size forwards + second.size forwards
  | .alt first second =>
    first.size forwards + second.size forwards + if second.branches.length = 1 then 72 else 4
  | .repetition least none _ body =>
    max least 1 * body.size forwards + if least = 0 ∧ body.isNullable then 112 else 40
  | .repetition least (some most) _ body =>
    let copies := if least = 0 ∧ most ≠ 1 then 32 else least * body.size forwards
    if least = most then copies
    else copies + (most - least) * (body.size forwards + 40) + 32

def maxSize : Nat := 10 <<< 20

/--
Whether the automata for a pattern are small enough. To find a match that starts anywhere takes 136
bytes more, and to record its range 64.
-/
def isSmall (pattern : Pattern) : Bool :=
  decide (pattern.size true + 200 ≤ maxSize) && decide (pattern.size false + 136 ≤ maxSize)

end Pattern
end PiiScan
