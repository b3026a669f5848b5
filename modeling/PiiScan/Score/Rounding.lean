/-!
This module contains the rounding of fractions to binary floating point. A format is given by its
precision and its least exponent; the rounded number is returned as the bit pattern of a
non-negative number, so that larger patterns stand for larger numbers and a carry out of the
significand lands in the exponent by itself.
-/

namespace PiiScan

def roundDiv (num den : Nat) : Nat :=
  let quotient := num / den
  let twice := 2 * (num % den)
  if twice < den then quotient
  else if twice > den then quotient + 1
  else quotient + quotient % 2

/--
The exponent of the greatest power of two that is at most `num / den`, for positive numbers.
-/
def log2Ratio (num den : Nat) : Int :=
  let guess : Int := (num.log2 : Int) - (den.log2 : Int)
  if num <<< (-guess).toNat ≥ den <<< guess.toNat then guess else guess - 1

structure BinaryFormat where
  /--
  The number of significand bits, the implied one included.
  -/
  precision : Nat
  minExponent : Int
  infinity : Nat

namespace BinaryFormat

def double : BinaryFormat := ⟨53, -1074, 0x7FF0000000000000⟩

def single : BinaryFormat := ⟨24, -149, 0x7F800000⟩

def round (format : BinaryFormat) (num den : Nat) : Nat :=
  if num = 0 then 0
  else
    let exponent := max format.minExponent (log2Ratio num den - (format.precision - 1))
    let significand := roundDiv (num <<< (-exponent).toNat) (den <<< exponent.toNat)
    let lifted := (exponent - format.minExponent).toNat <<< (format.precision - 1)
    min (lifted + significand) format.infinity

end BinaryFormat
end PiiScan
