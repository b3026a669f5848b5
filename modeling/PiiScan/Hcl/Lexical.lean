import PiiScan.Digits
import PiiScan.Json.Basic
import PiiScan.Text
import PiiScan.Unicode.Property

/-!
This module contains the smallest parts of configuration files in HCL: blanks and comments, names,
numbers, and the characters that strings escape.
-/

namespace PiiScan.Hcl

/--
What is left of a text after the comment at its start, if there is one there. A comment on a line
ends before the end of the line; `lines` says whether such a comment may be skipped.
-/
def dropComment? (lines : Bool) : Text → Option Text
  | '/' :: '*' :: rest => (Text.splitAt? ['*', '/'] rest).map fun (_, rest) => rest
  | '/' :: '/' :: rest => if lines then some (rest.dropWhile (· != '\n')) else none
  | '#' :: rest => if lines then some (rest.dropWhile (· != '\n')) else none
  | _ => none

def isBlank (lines : Bool) (c : Char) : Bool :=
  c == ' ' || c == '\t' || (lines && (c == '\n' || c == '\r'))

/--
What is left of a text after blanks and comments; with `lines`, line ends are blank too. The fuel
bounds the number of comments.
-/
def skipWithin (lines : Bool) : Nat → Text → Text
  | 0, text => text
  | fuel + 1, text =>
    let rest := text.dropWhile (isBlank lines)
    match dropComment? lines rest with
    | some rest => skipWithin lines fuel rest
    | none => rest

def skip (lines : Bool) (text : Text) : Text := skipWithin lines (text.length + 1) text

def endLine? (text : Text) : Option Text :=
  let rest := skip false text
  match (dropComment? true rest).getD rest with
  | '\n' :: rest => some rest
  | '\r' :: '\n' :: rest => some rest
  | [] => some []
  | _ => none

def identifierStarts : CharSet := (Unicode.find? Unicode.binaryProperties "xidstart").getD []

def identifierContinues : CharSet := (Unicode.find? Unicode.binaryProperties "xidcontinue").getD []

def isIdentifierStart (c : Char) : Bool :=
  c == '_' || if c.toNat < 128 then c.isAlpha else identifierStarts.contains c

def isIdentifierPart (c : Char) : Bool :=
  c == '_' || c == '-' || if c.toNat < 128 then c.isAlphanum else identifierContinues.contains c

def takeIdentifier? : Text → Option (Text × Text)
  | c :: rest =>
    if isIdentifierStart c then
      some (c :: rest.takeWhile isIdentifierPart, rest.dropWhile isIdentifierPart)
    else none
  | [] => none

def takeDigits (text : Text) : List Nat × Text :=
  ((text.takeWhile Char.isDigit).filterMap Digits.decimal?, text.dropWhile Char.isDigit)

def takeExponent? : Text → Option (Int × Text)
  | 'e' :: rest | 'E' :: rest =>
    let (negative, rest) := match rest with
      | '-' :: rest => (true, rest)
      | '+' :: rest => (false, rest)
      | rest => (false, rest)
    match takeDigits rest with
    | ([], _) => none
    | (digits, rest) =>
      let n : Int := Digits.value 10 digits
      some (if negative then -n else n, rest)
  | _ => none

def maxWhole : Nat := (1 <<< 63) - 1

/--
A finite number that is not written as whole. Without a fractional part it counts as a whole number.
-/
def wholeOrReal (s : Score) : Json :=
  let (num, den) := s.ratio
  if num % den = 0 then .natural (min (num / den) maxWhole) else .real s

/--
The number at the start of a text, and the rest. A number without fraction and exponent must fit 64
bits; any other is rounded to double precision once.
-/
def takeNumber? (text : Text) : Option (Json × Text) :=
  let (whole, rest) := takeDigits text
  if whole.isEmpty then none
  else
    let (fraction, rest) := match rest with
      | '.' :: point =>
        match takeDigits point with
        | ([], _) => ([], rest)
        | (fraction, rest) => (fraction, rest)
      | _ => ([], rest)
    let real (exponent : Int) (rest : Text) : Option (Json × Text) :=
      let s :=
        Score.ofDecimal false (Digits.value 10 (whole ++ fraction)) (exponent - fraction.length)
      if s.isInfinite then none else some (wholeOrReal s, rest)
    match takeExponent? rest, fraction with
    | some (exponent, rest), _ => real exponent rest
    | none, _ :: _ => real 0 rest
    | none, [] =>
      let n := Digits.value 10 whole
      if n < 1 <<< 64 then some (.natural n, rest) else none

def negate : Json → Json
  | .natural 0 => .natural 0
  | .natural n => .negative n
  | .real s => .real (.ofMagnitude true s.magnitude)
  | value => value

def takeEscape? : Text → Option (Char × Text)
  | 'n' :: rest => some ('\n', rest)
  | 'r' :: rest => some ('\r', rest)
  | 't' :: rest => some ('\t', rest)
  | 'b' :: rest => some ('\x08', rest)
  | 'f' :: rest => some ('\x0C', rest)
  | '\\' :: rest => some ('\\', rest)
  | '"' :: rest => some ('"', rest)
  | '/' :: rest => some ('/', rest)
  | 'u' :: rest => numbered 4 rest
  | 'U' :: rest => numbered 8 rest
  | _ => none
where
  numbered (count : Nat) (text : Text) : Option (Char × Text) :=
    if text.length < count then none
    else
      ((Digits.ofHexadecimal? (text.take count)).bind Digits.char?).map fun c =>
        (c, text.drop count)

end PiiScan.Hcl
