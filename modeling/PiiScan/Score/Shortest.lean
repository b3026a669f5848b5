import PiiScan.Score.Basic

/-!
This module contains the decimal text of scores. A score is written with the fewest digits that read
back as the same score, and of those with the digits that are nearest to it. Two layouts use these
digits: `plain`, which never has an exponent, and `compact`, which writes very large and very small
numbers with one and always shows a fraction or an exponent.
-/

namespace PiiScan

/--
Decimal digits behind a decimal point: the number `0.d₁d₂… * 10 ^ point`.
-/
structure DecimalDigits where
  digits : List Char
  point : Int

def leadingZeros : Nat → Nat → Nat → Nat
  | 0, _, _ => 0
  | fuel + 1, num, den => if num * 10 ≥ den then 0 else leadingZeros fuel (num * 10) den + 1

def decimalPoint (num den : Nat) : Int :=
  if num ≥ den then (Nat.toDigits 10 (num / den)).length
  else -(leadingZeros 400 num den : Nat)

def significantDigits (n : Nat) : List Char :=
  ((Nat.toDigits 10 n).reverse.dropWhile (· == '0')).reverse

namespace Score

/--
A point of the grid of `n`-digit decimals that reads back as the number `value / den`, if there is
one. The numbers that read back lie between `low / den` and `high / den`, the ends included when
`closed` holds.
-/
def gridPoint? (low value high den : Nat) (closed : Bool) (exponent : Int) : Option Nat :=
  let scaleUp := Nat.pow 10 (-exponent).toNat
  let scaleDown := Nat.pow 10 exponent.toNat * den
  let inside (n : Nat) : Bool :=
    if closed then decide (low * scaleUp ≤ n * scaleDown) && decide (n * scaleDown ≤ high * scaleUp)
    else decide (low * scaleUp < n * scaleDown) && decide (n * scaleDown < high * scaleUp)
  let below := value * scaleUp / scaleDown
  let above := below + 1
  let nearest := roundDiv (value * scaleUp) scaleDown
  if inside nearest then some nearest
  else if inside below then some below
  else if inside above then some above
  else none

/--
The fewest digits that read back as a positive finite score.
-/
def shortest (s : Score) : DecimalDigits :=
  let (m, e) := s.decode
  let scale := 1 <<< (e - 2).toNat
  let den := 1 <<< (2 - e).toNat
  let value := 4 * m * scale
  let low := (4 * m - if m = 1 <<< 52 ∧ e ≠ -1074 then 1 else 2) * scale
  let high := (4 * m + 2) * scale
  let point := decimalPoint value den
  let attempt (n : Nat) : Option DecimalDigits :=
    (gridPoint? low value high den (m % 2 == 0) (point - n)).map fun digits =>
      ⟨significantDigits digits, point + ((Nat.toDigits 10 digits).length - n : Nat)⟩
  (((List.range 17).map (· + 1)).findSome? attempt).getD ⟨['0'], 0⟩

def zeros (n : Nat) : List Char := List.replicate n '0'

def positional (d : DecimalDigits) : List Char :=
  if d.point ≤ 0 then '0' :: '.' :: (zeros (-d.point).toNat ++ d.digits)
  else if d.digits.length ≤ d.point.toNat then d.digits ++ zeros (d.point.toNat - d.digits.length)
  else d.digits.take d.point.toNat ++ '.' :: d.digits.drop d.point.toNat

def signed (s : Score) (text : List Char) : List Char :=
  if s.isNegative then '-' :: text else text

def plain (s : Score) : String :=
  String.ofList <|
    if s.isNaN then "NaN".toList
    else if s.isInfinite then signed s "inf".toList
    else if s.magnitude = 0 then signed s ['0']
    else signed s (positional s.shortest)

def exponentText (e : Int) : List Char :=
  'e' :: (if e < 0 then '-' :: Nat.toDigits 10 e.natAbs else Nat.toDigits 10 e.natAbs)

def scientific (d : DecimalDigits) : List Char :=
  match d.digits with
  | [] => ['0']
  | [digit] => digit :: exponentText (d.point - 1)
  | digit :: rest => digit :: '.' :: rest ++ exponentText (d.point - 1)

/--
The text of a finite score that is positional from `0.00001` up to below `10 ^ 16` and always has a
fraction or an exponent.
-/
def compact (s : Score) : List Char :=
  if s.magnitude = 0 then signed s ['0', '.', '0']
  else
    let d := s.shortest
    signed s <|
      if -5 < d.point ∧ d.point ≤ 16 then
        if 0 < d.point ∧ d.digits.length ≤ d.point.toNat then positional d ++ ['.', '0']
        else positional d
      else scientific d

end Score
end PiiScan
