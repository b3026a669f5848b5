import PiiScan.Pattern.Basic
import PiiScan.Text

/-!
This module contains what is left of a pattern while a text is read. `Residual.outcomes` says what
can happen to a residual at a place of the text, in order of preference: it may stop there, or it
may read the next code point and go on as another residual. Every set of code points of a pattern
has a number of its own, so that two residuals after the same read are told to be equal by that
number.
-/

namespace PiiScan

/--
A place in a text: the code point before it, its byte offset, and what follows.
-/
structure Place where
  before : Option Char
  offset : Nat
  rest : Text

namespace Place

def start (text : Text) : Place := ⟨none, 0, text⟩

def next? (place : Place) : Option Place :=
  match place.rest with
  | [] => none
  | c :: cs => some ⟨some c, place.offset + c.utf8Size, cs⟩

end Place

/--
What is left of a pattern to be matched.
-/
inductive Residual where
  | empty
  | chars (number : Nat) (set : CharSet)
  | look (condition : Look)
  | entity (body : Residual)
  /--
  A body whose entity group has been entered.
  -/
  | inEntity (body : Residual)
  | cat (first second : Residual)
  | alt (first second : Residual)
  | plus (greedy : Bool) (body : Residual)
  /--
  A body any number of times, after it has been matched before.
  -/
  | again (greedy : Bool) (body : Residual)
  /--
  A body that is not entered twice without reading in between.
  -/
  | once (number : Nat) (body : Residual)

structure Trail where
  start : Nat
  /--
  Where the entity group was entered last.
  -/
  entered : Nat
  entity : Option (Nat × Nat)
  /--
  The branches taken since the last read.
  -/
  passed : List Nat

namespace Trail

def begin (offset : Nat) : Trail := ⟨offset, offset, none, []⟩

end Trail

inductive Outcome where
  | stop (trail : Trail)
  /--
  The next code point is read by the set with a number, and a residual is left.
  -/
  | read (number : Nat) (rest : Residual) (trail : Trail)

namespace Outcome

def isRead : Outcome → Bool
  | .read .. => true
  | .stop _ => false

def trail : Outcome → Trail
  | .stop trail => trail
  | .read _ _ trail => trail

def mapRest (f : Residual → Residual) : Outcome → Outcome
  | .stop trail => .stop trail
  | .read number rest trail => .read number (f rest) trail

/--
The outcome of a body whose entity group ends with it.
-/
def leaveEntity (offset : Nat) : Outcome → Outcome
  | .stop trail => .stop { trail with entity := some (trail.entered, offset) }
  | .read number rest trail => .read number (.inEntity rest) trail

end Outcome

namespace Residual

def andThen : Residual → Residual → Residual
  | .empty, second => second
  | first, second => .cat first second

/--
The outcomes of a residual at a place, the preferred ones first. It stops in one way at most.
-/
def outcomes (place : Place) : Residual → Trail → List Outcome
  | .empty, trail => [.stop trail]
  | .chars number set, trail =>
    match place.rest with
    | c :: _ => if set.contains c then [.read number .empty { trail with passed := [] }] else []
    | [] => []
  | .look condition, trail =>
    if condition.holds place.before place.rest.head? then [.stop trail] else []
  | .entity body, trail =>
    (body.outcomes place { trail with entered := place.offset }).map
      (Outcome.leaveEntity place.offset)
  | .inEntity body, trail => (body.outcomes place trail).map (Outcome.leaveEntity place.offset)
  | .cat first second, trail =>
    (first.outcomes place trail).flatMap fun
      | .stop trail => second.outcomes place trail
      | .read number rest trail => [.read number (rest.andThen second) trail]
  | .alt first second, trail =>
    let preferred := first.outcomes place trail
    let others := second.outcomes place trail
    if preferred.all Outcome.isRead then preferred ++ others
    else preferred ++ others.filter Outcome.isRead
  | .plus greedy body, trail =>
    (body.outcomes place trail).map (Outcome.mapRest (·.andThen (.again greedy body)))
  | .again greedy body, trail =>
    let more := ((body.outcomes place trail).filter Outcome.isRead).map
      (Outcome.mapRest (·.andThen (.again greedy body)))
    if greedy then more ++ [.stop trail] else .stop trail :: more
  | .once number body, trail =>
    if trail.passed.contains number then []
    else body.outcomes place { trail with passed := number :: trail.passed }

end Residual

namespace Pattern

/--
A choice that may be taken once between two reads if it is guarded.
-/
def branch (guarded : Bool) (residual : Residual) (n : Nat) : Residual × Nat :=
  if guarded then (.once n residual, n + 1) else (residual, n)

def optional (greedy : Bool) (residual : Residual) : Residual :=
  if greedy then .alt residual .empty else .alt .empty residual

def copies (body tail : Nat → Residual × Nat) : Nat → Nat → Residual × Nat
  | 0, n => tail n
  | k + 1, n =>
    let (first, n) := body n
    let (rest, n) := copies body tail k n
    (first.andThen rest, n)

def optionalCopies (guarded greedy : Bool) (body : Nat → Residual × Nat) :
    Nat → Nat → Residual × Nat
  | 0, n => (.empty, n)
  | k + 1, n =>
    let (first, n) := body n
    let (rest, n) := optionalCopies guarded greedy body k n
    branch guarded (optional greedy (match rest with
      | .empty => first
      | rest => .cat first rest)) n

/--
The residual of a whole pattern, with its sets numbered from `n` on, and the next number. Inside of
a repetition whose body may match nothing, choices are guarded.
-/
def number (guarded : Bool) : Pattern → Nat → Residual × Nat
  | .empty, n => (.empty, n)
  | .chars set, n => (.chars n set, n + 1)
  | .look condition, n => (.look condition, n)
  | .capture _ isEntity body, n =>
    let (body, n) := body.number guarded n
    (if isEntity then .entity body else body, n)
  | .cat first second, n =>
    let (first, n) := first.number guarded n
    let (second, n) := second.number guarded n
    (first.andThen second, n)
  | .alt first second, n =>
    let (first, n) := first.number guarded n
    let (second, n) := second.number guarded n
    branch guarded (.alt first second) n
  | .repetition least (some most) greedy body, n =>
    copies (body.number guarded)
      (optionalCopies guarded greedy (body.number guarded) (most - least))
      least n
  | .repetition least none greedy body, n =>
    let inner := body.number (guarded || body.isNullable)
    let plus (n : Nat) : Residual × Nat :=
      let (body, n) := inner n
      (.plus greedy body, n)
    if least = 0 then
      let (residual, n) := plus n
      branch guarded (optional greedy residual) n
    else copies inner plus (least - 1) n

def residual (pattern : Pattern) : Residual := (pattern.number false 0).1

end Pattern
end PiiScan
