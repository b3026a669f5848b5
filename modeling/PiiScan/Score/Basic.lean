import PiiScan.Score.Rounding

/-!
This module contains confidence scores. A score is a double precision number, kept as its bit
pattern, with two orders on it: the order of the numbers, in which both zeros are equal and nothing
compares with a NaN, and the total order of the patterns, in which `-0.0` comes right before `0.0`.
-/

namespace PiiScan

structure Score where
  bits : UInt64
  deriving DecidableEq

namespace Score

def magnitude (s : Score) : Nat := s.bits.toNat % 0x8000000000000000

def isNegative (s : Score) : Bool := decide (0x8000000000000000 ≤ s.bits.toNat)

def isNaN (s : Score) : Bool := decide (BinaryFormat.double.infinity < s.magnitude)

def isInfinite (s : Score) : Bool := decide (s.magnitude = BinaryFormat.double.infinity)

/--
The place of a score in the order of the numbers. Both zeros are at the same place.
-/
def level (s : Score) : Int := if s.isNegative then -s.magnitude else s.magnitude

def rank (s : Score) : Int := if s.isNegative then -s.magnitude - 1 else s.magnitude

def le (a b : Score) : Bool := !a.isNaN && !b.isNaN && decide (a.level ≤ b.level)

def lt (a b : Score) : Bool := !a.isNaN && !b.isNaN && decide (a.level < b.level)

def zero : Score := ⟨0⟩

def one : Score := ⟨0x3FF0000000000000⟩

def isUnit (s : Score) : Bool := le zero s && le s one

def ofMagnitude (negative : Bool) (magnitude : Nat) : Score :=
  ⟨UInt64.ofNat (if negative then magnitude + 0x8000000000000000 else magnitude)⟩

def ofRatio (negative : Bool) (num den : Nat) : Score :=
  ofMagnitude negative (BinaryFormat.double.round num den)

def decode (s : Score) : Nat × Int :=
  let biased : Nat := s.magnitude / (1 <<< 52)
  let fraction : Nat := s.magnitude % (1 <<< 52)
  if biased = 0 then (fraction, -1074) else (fraction + (1 <<< 52), (biased : Int) - 1075)

def ratio (s : Score) : Nat × Nat :=
  let (m, e) := s.decode
  (m <<< e.toNat, 1 <<< (-e).toNat)

/--
The number `± mantissa * 10 ^ exponent`, rounded once. Exponents far out of range are decided
without computing the power.
-/
def ofDecimal (negative : Bool) (mantissa : Nat) (exponent : Int) : Score :=
  if mantissa = 0 then ofMagnitude negative 0
  else if exponent > 400 then ofMagnitude negative BinaryFormat.double.infinity
  else if exponent + mantissa.log2 < -1200 then ofMagnitude negative 0
  else ofRatio negative (mantissa * Nat.pow 10 exponent.toNat) (Nat.pow 10 (-exponent).toNat)

def mul (a b : Score) : Score :=
  ofRatio (a.isNegative != b.isNegative) (a.ratio.1 * b.ratio.1) (a.ratio.2 * b.ratio.2)

def div (a b : Score) : Score :=
  ofRatio (a.isNegative != b.isNegative) (a.ratio.1 * b.ratio.2) (a.ratio.2 * b.ratio.1)

def toSingle (s : Score) : UInt32 :=
  let magnitude :=
    if s.isNaN then 0x7FC00000
    else if s.isInfinite then BinaryFormat.single.infinity
    else BinaryFormat.single.round s.ratio.1 s.ratio.2
  UInt32.ofNat (if s.isNegative then magnitude + 0x80000000 else magnitude)

end Score
end PiiScan
