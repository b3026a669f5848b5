import PiiScan.CharSet
import PiiScan.Unicode.Word

/-!
This module contains search patterns as trees. A pattern matches a stretch of a text; where several
stretches are possible, the order of alternatives and the greed of repetitions say which is
preferred. One group of a pattern may be the entity, which is what a finding reports. Patterns are
put together in a simplified form, and this is not only for looks: when the branches of a choice
begin with the same pattern it is matched before a branch is chosen, which may prefer another
stretch.
-/

namespace PiiScan

inductive WordKind where
  | unicode
  | ascii
  deriving DecidableEq

namespace WordKind

def asciiWord : CharSet := [(0x30, 0x39), (0x41, 0x5A), (0x5F, 0x5F), (0x61, 0x7A)]

def set : WordKind → CharSet
  | .unicode => Unicode.word
  | .ascii => asciiWord

def isWord (kind : WordKind) : Option Char → Bool
  | some c => kind.set.contains c
  | none => false

end WordKind

inductive Look where
  | textStart
  | textEnd
  | lineStart
  | lineEnd
  /--
  The start of a line where lines end with `\r`, `\n` or `\r\n`.
  -/
  | anyLineStart
  | anyLineEnd
  | wordBoundary (kind : WordKind)
  | noWordBoundary (kind : WordKind)
  | wordStart (kind : WordKind)
  | wordEnd (kind : WordKind)
  | noWordBefore (kind : WordKind)
  | noWordAfter (kind : WordKind)
  deriving DecidableEq

namespace Look

def holds (look : Look) (before after : Option Char) : Bool :=
  match look with
  | .textStart => before.isNone
  | .textEnd => after.isNone
  | .lineStart => before.isNone || before == some '\n'
  | .lineEnd => after.isNone || after == some '\n'
  | .anyLineStart =>
    before.isNone || before == some '\n' || (before == some '\r' && after != some '\n')
  | .anyLineEnd => after.isNone || after == some '\r' || (after == some '\n' && before != some '\r')
  | .wordBoundary kind => kind.isWord before != kind.isWord after
  | .noWordBoundary kind => kind.isWord before == kind.isWord after
  | .wordStart kind => !kind.isWord before && kind.isWord after
  | .wordEnd kind => kind.isWord before && !kind.isWord after
  | .noWordBefore kind => !kind.isWord before
  | .noWordAfter kind => !kind.isWord after

end Look

inductive Pattern where
  | empty
  | chars (set : CharSet)
  | look (condition : Look)
  /--
  A group, by its place among the groups of the whole pattern.
  -/
  | capture (index : Nat) (isEntity : Bool) (body : Pattern)
  | cat (first second : Pattern)
  | alt (first second : Pattern)
  /--
  A pattern at least `least` times and, if there is a bound, at most `most` times. A greedy
  repetition prefers more of them.
  -/
  | repetition (least : Nat) (most : Option Nat) (greedy : Bool) (body : Pattern)
  deriving DecidableEq

namespace Pattern

def isNullable : Pattern → Bool
  | .empty | .look _ => true
  | .chars _ => false
  | .capture _ _ body => body.isNullable
  | .cat first second => first.isNullable && second.isNullable
  | .alt first second => first.isNullable || second.isNullable
  | .repetition least _ _ body => least == 0 || body.isNullable

def isZeroWidth : Pattern → Bool
  | .empty | .look _ => true
  | .chars _ => false
  | .capture _ _ body => body.isZeroWidth
  | .cat first second => first.isZeroWidth && second.isZeroWidth
  | .alt first second => first.isZeroWidth && second.isZeroWidth
  | .repetition _ most _ body => most == some 0 || body.isZeroWidth

/--
The repetition of a pattern. What can only be empty is repeated once at most.
-/
def repeated (least : Nat) (most : Option Nat) (greedy : Bool) (body : Pattern) : Pattern :=
  let least' := if body.isZeroWidth then min least 1 else least
  let most' := if body.isZeroWidth then some (min (most.getD 1) 1) else most
  if most' = some 0 then .empty
  else if least' = 1 ∧ most' = some 1 then body
  else .repetition least' most' greedy body

def parts : Pattern → List Pattern
  | .empty => []
  | .cat first second => first.parts ++ second.parts
  | pattern => [pattern]

def sequence (patterns : List Pattern) : Pattern :=
  join (patterns.flatMap parts)
where
  join : List Pattern → Pattern
    | [] => .empty
    | [p] => p
    | p :: ps => .cat p (join ps)

def isCodePoint : Pattern → Bool
  | .chars [(lo, hi)] => lo == hi
  | _ => false

/--
The parts of a pattern, with successive code points taken together as one text.
-/
def units : List Pattern → List (List Pattern)
  | [] => []
  | p :: ps =>
    match units ps with
    | (q :: run) :: rest =>
      if p.isCodePoint && q.isCodePoint then (p :: q :: run) :: rest else [p] :: (q :: run) :: rest
    | rest => [p] :: rest

def branches : Pattern → List Pattern
  | .alt first second => first.branches ++ second.branches
  | pattern => [pattern]

/--
The set that a choice stands for when all branches are single code points or all are other sets.
-/
def union? (branches : List Pattern) : Option CharSet :=
  let sets := branches.filterMap fun
    | .chars set => some set
    | _ => none
  if sets.length = branches.length ∧
      (branches.all isCodePoint ∨ branches.all fun p => !p.isCodePoint) then
    some (CharSet.ofRanges sets.flatten)
  else none

def select (patterns : List Pattern) : Pattern :=
  let branches := patterns.flatMap branches
  match union? branches with
  | some set => .chars set
  | none => join branches
where
  join : List Pattern → Pattern
    | [] => .empty
    | [p] => p
    | p :: ps => .alt p (join ps)

def commonStart {α : Type} [DecidableEq α] : List α → List α → List α
  | a :: as, b :: bs => if a = b then a :: commonStart as bs else []
  | _, _ => []

/--
The units that all of several sequences begin with. There must be more than one in each of them.
-/
def sharedStart : List (List (List Pattern)) → List (List Pattern)
  | [] => []
  | first :: rest =>
    if (first :: rest).all fun units => decide (2 ≤ units.length) then rest.foldl commonStart first
    else []

/--
Patterns to choose from, the preferred ones first. What all branches begin with comes before the
choice.
-/
def choice (patterns : List Pattern) : Pattern :=
  let sequences := (patterns.flatMap branches).map fun branch => units branch.parts
  let start := sharedStart sequences
  if start.isEmpty then select patterns
  else
    let rests := sequences.map fun units => sequence (units.drop start.length).flatten
    sequence (start.flatten ++ [select rests])

end Pattern
end PiiScan
