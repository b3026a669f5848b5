/-!
This module contains the Luhn checksum. Only ASCII digits count; everything else in the text is a
separator and is skipped.
-/

namespace PiiScan.Luhn

def digit? (c : Char) : Option Nat :=
  if '0' ≤ c ∧ c ≤ '9' then some (c.toNat - 48) else none

def digits (text : List Char) : List Nat :=
  text.filterMap digit?

def double (d : Nat) : Nat :=
  if 2 * d > 9 then 2 * d - 9 else 2 * d

/--
The weighted sum of digits that are listed from the last one on: every second digit is doubled.
-/
def sum : List Nat → Nat
  | [] => 0
  | [d] => d
  | d :: e :: rest => d + double e + sum rest

def isValid (text : List Char) : Bool :=
  decide (2 ≤ (digits text).length) && decide (sum (digits text).reverse % 10 = 0)

end PiiScan.Luhn
