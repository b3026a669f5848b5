import PiiScan.CharSet

/-!
This module contains the compact text of large sets of code points: numbers in base 36, which are in
turn the distance to the next run of members and the length of that run less one.
-/

namespace PiiScan.Unicode

def digitValue (c : Char) : Nat :=
  if c.isDigit then c.toNat - 48 else c.toNat - 87

def readNumbers (current : Nat) : List Char → List Nat
  | [] => [current]
  | c :: cs =>
    if c == ' ' then current :: readNumbers 0 cs else readNumbers (current * 36 + digitValue c) cs

/--
The ranges of a list of distances and lengths, from the code point `next` on.
-/
def readRuns (next : Nat) : List Nat → CharSet
  | gap :: length :: rest =>
    (next + gap, next + gap + length) :: readRuns (next + gap + length + 1) rest
  | _ => []

def decodeRuns (lines : List String) : CharSet :=
  readRuns 0 (lines.flatMap fun line => readNumbers 0 line.toList)

end PiiScan.Unicode
