/-!
This module contains the digits of written numbers, decimal and hexadecimal, in ASCII.
-/

namespace PiiScan.Digits

def decimal? (c : Char) : Option Nat :=
  if c.isDigit then some (c.toNat - 48) else none

def hexadecimal? (c : Char) : Option Nat :=
  if c.isDigit then some (c.toNat - 48)
  else if 'a' ≤ c ∧ c ≤ 'f' then some (c.toNat - 87)
  else if 'A' ≤ c ∧ c ≤ 'F' then some (c.toNat - 55)
  else none

/--
The number with the given digits, the most significant first.
-/
def value (base : Nat) (digits : List Nat) : Nat :=
  digits.foldl (fun n d => base * n + d) 0

def ofHexadecimal? (text : List Char) : Option Nat :=
  (text.mapM hexadecimal?).map (value 16)

def char? (n : Nat) : Option Char :=
  if n < 0xD800 ∨ (0xDFFF < n ∧ n ≤ 0x10FFFF) then some (Char.ofNat n) else none

end PiiScan.Digits
