import PiiScan.Digits
import PiiScan.Pattern.Class
import PiiScan.Pattern.Size

/-!
This module contains the reader of patterns. A malformed pattern, one that is nested too deeply and
one whose automaton would be too large are refused; there is nothing to report about a refusal but
that.
-/

namespace PiiScan

/--
The state of reading: what is left of the text, the flags in force, the number of groups that have
begun, and their names.
-/
structure PatternCursor where
  rest : List Char
  flags : PatternFlags
  groups : Nat := 0
  names : List (List Char) := []

namespace PatternCursor

def dropComment : List Char → List Char
  | [] => []
  | '\n' :: cs => cs
  | _ :: cs => dropComment cs

/--
A text without the blanks and comments at its start. Each step of `fuel` skips one of them.
-/
def dropBlanks : Nat → List Char → List Char
  | 0, cs => cs
  | _, [] => []
  | fuel + 1, c :: cs =>
    if Unicode.isBlank c then dropBlanks fuel cs
    else if c == '#' then dropBlanks fuel (dropComment cs)
    else c :: cs

def skip (flags : PatternFlags) (text : List Char) : List Char :=
  if flags.verbose then dropBlanks text.length text else text

def skipBlanks (cursor : PatternCursor) : PatternCursor :=
  { cursor with rest := skip cursor.flags cursor.rest }

def move (cursor : PatternCursor) (rest : List Char) : PatternCursor := { cursor with rest := rest }

end PatternCursor

namespace Pattern

open PatternCursor (skip)

inductive Primitive where
  /--
  A code point; `byte` when it is written with exactly two hexadecimal digits.
  -/
  | char (c : Char) (byte : Bool)
  | set (set : CharSet)
  | look (condition : Look)

def bracedHex? (flags : PatternFlags) : Nat → List Char → Option (List Nat × List Char)
  | 0, _ => none
  | fuel + 1, text =>
    match skip flags text with
    | '}' :: rest => some ([], rest)
    | c :: rest =>
      match Digits.hexadecimal? c, bracedHex? flags fuel rest with
      | some d, some (digits, rest) => some (d :: digits, rest)
      | _, _ => none
    | [] => none

def fixedHex? (flags : PatternFlags) : Nat → List Char → Option (List Nat × List Char)
  | 0, text => some ([], text)
  | n + 1, text =>
    match skip flags text with
    | c :: rest =>
      match Digits.hexadecimal? c, fixedHex? flags n rest with
      | some d, some (digits, rest) => some (d :: digits, rest)
      | _, _ => none
    | [] => none

def hexEscape? (flags : PatternFlags) (letter : Char) (text : List Char) :
    Option (Primitive × List Char) :=
  match skip flags text with
  | '{' :: rest =>
    match bracedHex? flags (rest.length + 1) rest with
    | some (digits, rest) =>
      if digits.isEmpty then none
      else (Digits.char? (Digits.value 16 digits)).map fun c => (.char c false, skip flags rest)
    | none => none
  | rest =>
    let count := if letter == 'x' then 2 else if letter == 'u' then 4 else 8
    match fixedHex? flags count rest with
    | some (digits, rest) =>
      (Digits.char? (Digits.value 16 digits)).map fun c =>
        (.char c (letter == 'x'), skip flags rest)
    | none => none

def braced? (flags : PatternFlags) : Nat → List Char → Option (List Char × List Char)
  | 0, _ => none
  | fuel + 1, text =>
    match skip flags text with
    | '}' :: rest => some ([], rest)
    | c :: rest => (braced? flags fuel rest).map fun (name, rest) => (c :: name, rest)
    | [] => none

def propertyEscape? (flags : PatternFlags) (letter : Char) (text : List Char) :
    Option (Primitive × List Char) :=
  let finish (name rest : List Char) : Option (Primitive × List Char) :=
    if !flags.unicode then none
    else (CharSet.property? name).map fun set =>
      (.set (flags.foldAndNegate (letter == 'P') set), rest)
  match skip flags text with
  | '{' :: rest =>
    match braced? flags (rest.length + 1) rest with
    | some (name, rest) => finish name rest
    | none => none
  | '\\' :: _ => none
  | c :: rest => finish [c] (skip flags rest)
  | [] => none

def nameLetters (flags : PatternFlags) : Nat → List Char → List Char × List Char
  | 0, text => ([], text)
  | fuel + 1, text =>
    match text with
    | c :: rest =>
      if c.isAlpha || c == '-' then
        let (name, rest) := nameLetters flags fuel (skip flags rest)
        (c :: name, rest)
      else ([], text)
    | [] => ([], [])

def boundaryEscape? (flags : PatternFlags) (text : List Char) : Option (Primitive × List Char) :=
  let kind := flags.wordKind
  let plain : Option (Primitive × List Char) := some (.look (.wordBoundary kind), text)
  match text with
  | '{' :: rest =>
    match skip flags rest with
    | [] => none
    | c :: more =>
      if !(c.isAlpha || c == '-') then plain
      else
        let (name, rest) := nameLetters flags (more.length + 1) (c :: more)
        match rest with
        | '}' :: rest =>
          match String.ofList name with
          | "start" => some (.look (.wordStart kind), rest)
          | "end" => some (.look (.wordEnd kind), rest)
          | "start-half" => some (.look (.noWordBefore kind), rest)
          | "end-half" => some (.look (.noWordAfter kind), rest)
          | _ => none
        | _ => none
  | _ => plain

def isEscapable (c : Char) : Bool :=
  decide (c.toNat < 128) && !c.isAlphanum && c != '<' && c != '>'

def escape? (flags : PatternFlags) : List Char → Option (Primitive × List Char)
  | [] => none
  | c :: rest =>
    if c == 'x' || c == 'u' || c == 'U' then hexEscape? flags c rest
    else if c == 'p' || c == 'P' then propertyEscape? flags c rest
    else if ['d', 's', 'w', 'D', 'S', 'W'].contains c then
      (CharSet.shorthand? flags c).map fun set => (.set set, rest)
    else if isEscapable c then some (.char c false, rest)
    else match c with
      | 'a' => some (.char '\x07' false, rest)
      | 'f' => some (.char '\x0C' false, rest)
      | 't' => some (.char '\t' false, rest)
      | 'n' => some (.char '\n' false, rest)
      | 'r' => some (.char '\r' false, rest)
      | 'v' => some (.char '\x0B' false, rest)
      | 'A' => some (.look .textStart, rest)
      | 'z' => some (.look .textEnd, rest)
      | 'b' => boundaryEscape? flags rest
      | 'B' => some (.look (.noWordBoundary flags.wordKind), rest)
      | '<' => some (.look (.wordStart flags.wordKind), rest)
      | '>' => some (.look (.wordEnd flags.wordKind), rest)
      | _ => none

def literal? (flags : PatternFlags) (c : Char) (byte : Bool) : Option Char :=
  if !flags.unicode && byte && decide (128 ≤ c.toNat) then none else some c

structure SetPiece where
  set : CharSet
  nest : Nat

namespace SetPiece

def ofItems (items : List SetPiece) : SetPiece :=
  match items with
  | [item] => item
  | items =>
    ⟨CharSet.ofRanges (items.flatMap SetPiece.set),
      if items.isEmpty then 0 else (items.map SetPiece.nest).foldl max 0 + 1⟩

end SetPiece

inductive SetOperator where
  | inter
  | diff
  | symmDiff

namespace SetOperator

def apply (op : SetOperator) (flags : PatternFlags) (left right : SetPiece) : SetPiece :=
  let a := flags.fold left.set
  let b := flags.fold right.set
  let set := match op with
    | .inter => a.inter b
    | .diff => a.diff b
    | .symmDiff => a.symmDiff b
  ⟨set, max left.nest right.nest + 1⟩

end SetOperator

def applyPending (flags : PatternFlags) (pending : Option (SetOperator × SetPiece))
    (right : SetPiece) : SetPiece :=
  match pending with
  | some (op, left) => op.apply flags left right
  | none => right

def asciiClass? (flags : PatternFlags) (text : List Char) : Option (SetPiece × List Char) :=
  match text with
  | ':' :: rest =>
    let (negated, rest) := match rest with
      | '^' :: rest => (true, rest)
      | _ => (false, rest)
    match rest.dropWhile (· != ':') with
    | ':' :: ']' :: after =>
      (CharSet.asciiClass? (rest.takeWhile (· != ':'))).map fun set =>
        (⟨flags.foldAndNegate negated set, 0⟩, after)
    | _ => none
  | _ => none

def setItem? (flags : PatternFlags) (text : List Char) : Option (Primitive × List Char) :=
  match text with
  | '\\' :: rest => escape? flags rest
  | c :: rest => some (.char c false, rest)
  | [] => none

def itemSet? (flags : PatternFlags) : Primitive → Option CharSet
  | .char c byte => (literal? flags c byte).bind fun c => flags.allow? (CharSet.single c)
  | .set set => some set
  | .look _ => none

def setRange? (flags : PatternFlags) (text : List Char) : Option (SetPiece × List Char) :=
  match setItem? flags text with
  | none => none
  | some (first, rest) =>
    let rest := skip flags rest
    let alone : Option (SetPiece × List Char) :=
      (itemSet? flags first).map fun set => (⟨set, 0⟩, rest)
    match rest with
    | [] => none
    | '-' :: more =>
      match skip flags more with
      | ']' :: _ | '-' :: _ => alone
      | more =>
        match first, setItem? flags more with
        | .char a byteA, some (.char b byteB, rest) =>
          match literal? flags a byteA, literal? flags b byteB with
          | some a, some b =>
            if a ≤ b then
              (flags.allow? [(a.toNat, b.toNat)]).map fun set => (⟨set, 0⟩, rest)
            else none
          | _, _ => none
        | _, _ => none
    | _ => alone

def setOpening? (flags : PatternFlags) (text : List Char) :
    Option (Bool × List SetPiece × List Char) :=
  match skip flags text with
  | [] => none
  | c :: cs =>
    let (negated, rest) := if c == '^' then (true, skip flags cs) else (false, c :: cs)
    let (hyphens, rest) := leadingHyphens (rest.length + 1) rest
    match hyphens, rest with
    | _, [] => none
    | [], ']' :: rest =>
      let rest := skip flags rest
      if rest.isEmpty then none else some (negated, [⟨CharSet.single ']', 0⟩], rest)
    | hyphens, rest => some (negated, hyphens, rest)
where
  leadingHyphens : Nat → List Char → List SetPiece × List Char
    | 0, text => ([], text)
    | fuel + 1, text =>
      match text with
      | '-' :: rest =>
        let (hyphens, rest) := leadingHyphens fuel (skip flags rest)
        (⟨CharSet.single '-', 0⟩ :: hyphens, rest)
      | _ => ([], text)

/--
The rest of a set in brackets. The items since the last operator are kept in reverse.
-/
def setBody? (flags : PatternFlags) : Nat → Bool → List SetPiece → Option (SetOperator × SetPiece) →
    List Char → Option (SetPiece × List Char)
  | 0, _, _, _, _ => none
  | fuel + 1, negated, items, pending, text =>
    let operator (op : SetOperator) (rest : List Char) :=
      setBody? flags fuel negated []
        (some (op, applyPending flags pending (.ofItems items.reverse))) rest
    match skip flags text with
    | [] => none
    | '[' :: rest =>
      match asciiClass? flags rest with
      | some (item, rest) => setBody? flags fuel negated (item :: items) pending rest
      | none =>
        match setOpening? flags rest with
        | none => none
        | some (innerNegated, inner, rest) =>
          match setBody? flags fuel innerNegated inner.reverse none rest with
          | none => none
          | some (item, rest) => setBody? flags fuel negated (item :: items) pending rest
    | ']' :: rest =>
      let whole := applyPending flags pending (.ofItems items.reverse)
      (flags.allow? (flags.foldAndNegate negated whole.set)).map fun set =>
        (⟨set, whole.nest + 1⟩, rest)
    | '&' :: '&' :: rest => operator .inter rest
    | '-' :: '-' :: rest => operator .diff rest
    | '~' :: '~' :: rest => operator .symmDiff rest
    | text =>
      match setRange? flags text with
      | none => none
      | some (item, rest) => setBody? flags fuel negated (item :: items) pending rest

def bracketed? (flags : PatternFlags) (text : List Char) : Option (SetPiece × List Char) :=
  match setOpening? flags text with
  | none => none
  | some (negated, items, rest) => setBody? flags (rest.length + 1) negated items.reverse none rest

def count? (digits : List Char) : Option Nat :=
  let n := digits.foldl (fun n c => n * 10 + (c.toNat - 48)) 0
  if digits.isEmpty || decide (1 <<< 32 ≤ n) then none else some n

def takeDigits (flags : PatternFlags) : Nat → List Char → List Char × List Char
  | 0, text => ([], text)
  | fuel + 1, text =>
    match text with
    | c :: rest =>
      if c.isDigit then
        let (digits, rest) := takeDigits flags fuel (skip flags rest)
        (c :: digits, rest)
      else ([], text)
    | [] => ([], [])

def bound (flags : PatternFlags) (text : List Char) : Option Nat × List Char :=
  let (digits, rest) := takeDigits flags (text.length + 1) (text.dropWhile Unicode.isBlank)
  (count? digits, skip flags (rest.dropWhile Unicode.isBlank))

def bounds? (flags : PatternFlags) (text : List Char) : Option (Nat × Option Nat × List Char) :=
  match bound flags (skip flags text) with
  | (some least, ',' :: rest) =>
    match skip flags rest with
    | '}' :: rest => some (least, none, rest)
    | rest =>
      match bound flags rest with
      | (some most, '}' :: rest) => if least ≤ most then some (least, some most, rest) else none
      | _ => none
  | (some least, '}' :: rest) => some (least, some least, rest)
  | _ => none

def isNameChar (first : Bool) (c : Char) : Bool :=
  c == '_' || isAlphabetic c || (!first && (c == '.' || c == '[' || c == ']' || isNumeric c))
where
  isAlphabetic (c : Char) : Bool :=
    if c.toNat < 128 then c.isAlpha
    else ((Unicode.named? "alphabetic".toList).getD []).contains c
  isNumeric (c : Char) : Bool :=
    if c.toNat < 128 then c.isDigit
    else ((Unicode.named? "n".toList).getD []).contains c

def groupName? (text : List Char) : Option (List Char × List Char) :=
  let name := text.takeWhile (· != '>')
  match text.dropWhile (· != '>'), name with
  | '>' :: rest, c :: cs =>
    if isNameChar true c && cs.all (isNameChar false) then some (name, rest) else none
  | _, _ => none

/--
The flags up to a colon or a closing parenthesis, the character that ends them, and whether there
are none. Every letter may occur once, and so may the sign that turns flags off.
-/
def flagLetters? (flags : PatternFlags) : List Char → List Char → Bool →
    Option (PatternFlags × Char × Bool × List Char)
  | _, [], _ => none
  | seen, c :: rest, negated =>
    if c == ':' || c == ')' then
      if seen.head? == some '-' then none else some (flags, c, seen.isEmpty, rest)
    else if seen.contains c then none
    else if c == '-' then flagLetters? flags (c :: seen) rest true
    else match flags.set? c (!negated) with
      | some flags => flagLetters? flags (c :: seen) rest negated
      | none => none

inductive Opening where
  /--
  Flags for the rest of the surrounding group.
  -/
  | directive (flags : PatternFlags) (rest : List Char)
  /--
  Parentheses with their flags, which need not make a group.
  -/
  | plain (flags : PatternFlags) (rest : List Char)
  | group (name : Option (List Char)) (rest : List Char)

def opening? (flags : PatternFlags) (text : List Char) : Option Opening :=
  let named (rest : List Char) : Option Opening :=
    (groupName? rest).map fun (name, rest) => .group (some name) rest
  match skip flags text with
  | '?' :: '=' :: _ | '?' :: '!' :: _ | '?' :: '<' :: '=' :: _ | '?' :: '<' :: '!' :: _ => none
  | '?' :: 'P' :: '<' :: rest => named rest
  | '?' :: '<' :: rest => named rest
  | '?' :: rest =>
    match flagLetters? flags [] rest false with
    | some (flags, ')', isEmpty, rest) => if isEmpty then none else some (.directive flags rest)
    | some (flags, _, _, rest) => some (.plain flags rest)
    | none => none
  | rest => some (.group none rest)

structure Piece where
  pattern : Pattern
  nest : Nat
  repeatable : Bool := true

namespace Piece

def concat (reversed : List Piece) : Piece :=
  match reversed with
  | [] => ⟨.empty, 0, true⟩
  | [piece] => piece
  | pieces =>
    ⟨sequence (pieces.reverse.map Piece.pattern), (pieces.map Piece.nest).foldl max 0 + 1, true⟩

def alternatives (reversed : List Piece) : Piece :=
  match reversed with
  | [piece] => piece
  | pieces =>
    ⟨choice (pieces.reverse.map Piece.pattern), (pieces.map Piece.nest).foldl max 0 + 1, true⟩

end Piece

def charPattern? (flags : PatternFlags) (c : Char) (byte : Bool) : Option Pattern :=
  (literal? flags c byte).map fun c => .chars (flags.fold (CharSet.single c))

def primitivePattern? (flags : PatternFlags) : Primitive → Option Pattern
  | .char c byte => charPattern? flags c byte
  | .set set => some (.chars set)
  | .look condition => some (.look condition)

def simple? (flags : PatternFlags) (c : Char) (rest : List Char) : Option (Pattern × List Char) :=
  match c with
  | '\\' =>
    match escape? flags rest with
    | some (primitive, rest) => (primitivePattern? flags primitive).map (·, rest)
    | none => none
  | '.' => (CharSet.dot? flags).map fun set => (.chars set, rest)
  | '^' =>
    some (.look (if !flags.multiLine then .textStart
      else if flags.anyLineEnd then .anyLineStart else .lineStart), rest)
  | '$' =>
    some (.look (if !flags.multiLine then .textEnd
      else if flags.anyLineEnd then .anyLineEnd else .lineEnd), rest)
  | c => (charPattern? flags c false).map (·, rest)

def repeatLast? (flags : PatternFlags) (least : Nat) (most : Option Nat) (pieces : List Piece)
    (rest : List Char) : Option (List Piece × List Char) :=
  match pieces with
  | [] => none
  | piece :: pieces =>
    if !piece.repeatable then none
    else
      let (marked, rest) := match rest with
        | '?' :: rest => (true, rest)
        | _ => (false, rest)
      let greedy := if flags.swapGreed then marked else !marked
      some (⟨repeated least most greedy piece.pattern, piece.nest + 1, true⟩ :: pieces, rest)

/--
The rest of a group, up to its closing parenthesis or the end of the pattern. The pieces of the
current branch and the branches before it are kept in reverse.
-/
def group? : Nat → PatternCursor → List Piece → List Piece → Option (Piece × PatternCursor)
  | 0, _, _, _ => none
  | fuel + 1, cursor, pieces, branches =>
    let cursor := cursor.skipBlanks
    let flags := cursor.flags
    let continueWith (result : Option (List Piece × List Char)) :=
      match result with
      | some (pieces, rest) => group? fuel (cursor.move rest) pieces branches
      | none => none
    match cursor.rest with
    | [] | ')' :: _ => some (.alternatives (.concat pieces :: branches), cursor)
    | '|' :: rest => group? fuel (cursor.move rest) [] (.concat pieces :: branches)
    | '(' :: rest =>
      match opening? flags rest with
      | none => none
      | some (.directive flags rest) =>
        group? fuel { cursor with rest := rest, flags := flags }
          (⟨.empty, 0, false⟩ :: pieces) branches
      | some (.plain inner rest) =>
        match group? fuel { cursor with rest := rest, flags := inner } [] [] with
        | some (body, ⟨')' :: rest, _, groups, names⟩) =>
          group? fuel ⟨rest, flags, groups, names⟩
            (⟨body.pattern, body.nest + 1, true⟩ :: pieces) branches
        | _ => none
      | some (.group name rest) =>
        if name.any cursor.names.contains then none
        else
          let index := cursor.groups + 1
          match group? fuel ⟨rest, flags, index, name.toList ++ cursor.names⟩ [] [] with
          | some (body, ⟨')' :: rest, _, groups, names⟩) =>
            let pattern := .capture index (name == some "entity".toList) body.pattern
            group? fuel ⟨rest, flags, groups, names⟩
              (⟨pattern, body.nest + 1, true⟩ :: pieces) branches
          | _ => none
    | '[' :: rest =>
      continueWith <| (bracketed? flags rest).map fun (item, rest) =>
        (⟨.chars item.set, item.nest, true⟩ :: pieces, rest)
    | '*' :: rest => continueWith (repeatLast? flags 0 none pieces rest)
    | '+' :: rest => continueWith (repeatLast? flags 1 none pieces rest)
    | '?' :: rest => continueWith (repeatLast? flags 0 (some 1) pieces rest)
    | '{' :: rest =>
      continueWith <| (bounds? flags rest).bind fun (least, most, rest) =>
        repeatLast? flags least most pieces (skip flags rest)
    | c :: rest =>
      continueWith <| (simple? flags c rest).map fun (pattern, rest) =>
        (⟨pattern, 0, true⟩ :: pieces, rest)

def maxNest : Nat := 250

def ofText? (text : List Char) : Option Pattern :=
  match group? (text.length + 1) { rest := text, flags := {} } [] [] with
  | some (piece, ⟨[], _, _, _⟩) =>
    if piece.nest ≤ maxNest && piece.pattern.isSmall then some piece.pattern else none
  | _ => none

end Pattern
end PiiScan
