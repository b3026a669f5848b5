/-!
This module contains numbers in bytes of seven bits each, the least significant first; every byte
but the last has its high bit set. A number of 64 bits takes ten bytes at most.
-/

namespace PiiScan.Varint

def encode (n : Nat) : List UInt8 :=
  if n < 128 then [UInt8.ofNat n] else UInt8.ofNat (n % 128 + 128) :: encode (n / 128)
termination_by n
decreasing_by omega

/--
The number in the first bytes, of which there are `count` at most, and the bytes after it.
-/
def decodeUpTo : Nat → List UInt8 → Option (Nat × List UInt8)
  | 0, _ => none
  | _, [] => none
  | count + 1, byte :: rest =>
    if byte < 128 then some (byte.toNat, rest)
    else (decodeUpTo count rest).map fun (n, rest) => (byte.toNat - 128 + 128 * n, rest)

def decode (bytes : List UInt8) : Option (Nat × List UInt8) :=
  (decodeUpTo 10 bytes).filter fun (n, _) => decide (n < 1 <<< 64)

end PiiScan.Varint
