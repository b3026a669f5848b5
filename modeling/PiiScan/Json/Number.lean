import PiiScan.Digits
import PiiScan.Json.Basic

/-!
This module contains the reading of JSON numbers. A whole number that fits 64 bits stays exact; any
other number becomes a real: its digits as far as they fit 64 bits, times or divided by a power of
ten, every step rounded to double precision.
-/

namespace PiiScan.Json

structure Numeral where
  isNegative : Bool
  whole : List Nat
  fraction : List Nat
  hasFraction : Bool
  exponent : Option Int

def takeDigits : List Char → List Nat × List Char
  | [] => ([], [])
  | c :: cs =>
    match Digits.decimal? c with
    | some d =>
      let (ds, rest) := takeDigits cs
      (d :: ds, rest)
    | none => ([], c :: cs)

def takeSign : List Char → Bool × List Char
  | '-' :: rest => (true, rest)
  | '+' :: rest => (false, rest)
  | rest => (false, rest)

def takeExponent? (text : List Char) : Option (Option Int × List Char) :=
  match text with
  | c :: rest =>
    if c == 'e' || c == 'E' then
      let (isNegative, rest) := takeSign rest
      match takeDigits rest with
      | ([], _) => none
      | (digits, rest) =>
        let n : Int := Digits.value 10 digits
        some (some (if isNegative then -n else n), rest)
    else some (none, text)
  | [] => some (none, [])

def takeFractionAndExponent? (isNegative : Bool) (whole : List Nat) :
    List Char → Option (Numeral × List Char)
  | '.' :: rest =>
    match takeDigits rest with
    | ([], _) => none
    | (fraction, rest) =>
      (takeExponent? rest).map fun (exponent, rest) =>
        (⟨isNegative, whole, fraction, true, exponent⟩, rest)
  | rest =>
    (takeExponent? rest).map fun (exponent, rest) =>
      (⟨isNegative, whole, [], false, exponent⟩, rest)

def takeUnsigned? (isNegative : Bool) (text : List Char) : Option (Numeral × List Char) :=
  match takeDigits text with
  | ([], _) | (0 :: _ :: _, _) => none
  | (whole, rest) => takeFractionAndExponent? isNegative whole rest

def takeNumeral? : List Char → Option (Numeral × List Char)
  | '-' :: rest => takeUnsigned? true rest
  | text => takeUnsigned? false text

namespace Numeral

def maxNatural : Nat := (1 <<< 64) - 1

/--
The whole digits that fit 64 bits and the number of those that do not. After the first that does not
fit, all others are counted only.
-/
def takeWhole (n : Nat) : List Nat → Nat × Nat
  | [] => (n, 0)
  | d :: ds => if 10 * n + d ≤ maxNatural then takeWhole (10 * n + d) ds else (n, ds.length + 1)

/--
The digits after the point that fit 64 bits too, and their number. After the first that does not
fit, all others are left out.
-/
def takeFraction (n : Nat) : List Nat → Nat × Nat
  | [] => (n, 0)
  | d :: ds =>
    if 10 * n + d ≤ maxNatural then
      let (n, count) := takeFraction (10 * n + d) ds
      (n, count + 1)
    else (n, 0)

def power (n : Nat) : Score := .ofDecimal false 1 n

/--
A number times a power of ten. Divisors beyond `10 ^ 308` are divided off in two steps or more.
-/
def scale (value : Score) (exponent : Int) : Option Score :=
  if exponent ≥ 0 then
    if exponent ≤ 308 then
      let scaled := value.mul (power exponent.toNat)
      if scaled.isInfinite then none else some scaled
    else if value.magnitude = 0 then some value
    else none
  else some (shrink 8 value (-exponent).toNat)
where
  shrink : Nat → Score → Nat → Score
    | 0, value, _ => value
    | fuel + 1, value, n =>
      if n ≤ 308 then value.div (power n)
      else if value.magnitude = 0 then value
      else shrink fuel (value.div (power 308)) (n - 308)

def toScore? (numeral : Numeral) : Option Score :=
  let (n, dropped) := takeWhole 0 numeral.whole
  let (n, added) := takeFraction n numeral.fraction
  let magnitude :=
    match numeral.exponent with
    | some e =>
      if e.natAbs ≤ 2147483647 then
        scale (.ofRatio false n 1) (clamp ((dropped : Int) - added + e))
      else if n ≠ 0 ∧ e > 0 then none
      else some .zero
    | none => scale (.ofRatio false n 1) ((dropped : Int) - added)
  magnitude.map fun s => if numeral.isNegative then ⟨s.bits ||| 0x8000000000000000⟩ else s
where
  clamp (e : Int) : Int := max (-2147483648) (min e 2147483647)

def toJson (numeral : Numeral) : Json :=
  let n := Digits.value 10 numeral.whole
  if !numeral.hasFraction && numeral.exponent.isNone && !numeral.isNegative &&
      decide (n ≤ maxNatural) then
    .natural n
  else if !numeral.hasFraction && numeral.exponent.isNone && numeral.isNegative && decide (0 < n) &&
      decide (n ≤ 1 <<< 63) then
    .negative n
  else
    match numeral.toScore? with
    | some s => .real s
    | none => .unusable

end Numeral
end PiiScan.Json
