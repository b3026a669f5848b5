import PiiScan.Digits
import PiiScan.Text

/-!
This module contains internet addresses and their written forms. An address of version 4 is written
as four decimal bytes. An address of version 6 is written as eight groups of hexadecimal digits; two
colons stand for one or more groups of zeros, and the last two groups may be written as four decimal
bytes.
-/

namespace PiiScan

inductive IpAddress where
  | v4 (a b c d : UInt8)
  | v6 (groups : Vector UInt16 8)
  deriving DecidableEq

namespace IpAddress

def byte? (text : Text) : Option UInt8 :=
  match text.mapM Digits.decimal? with
  | some [] | some (0 :: _ :: _) => none
  | some digits =>
    let n := Digits.value 10 digits
    if digits.length ≤ 3 ∧ n < 256 then some (UInt8.ofNat n) else none
  | none => none

def dotted? (text : Text) : Option (UInt8 × UInt8 × UInt8 × UInt8) :=
  match (text.split '.').mapM byte? with
  | some [a, b, c, d] => some (a, b, c, d)
  | _ => none

def group? (text : Text) : Option UInt16 :=
  if text.length = 0 ∨ 4 < text.length then none
  else (Digits.ofHexadecimal? text).map UInt16.ofNat

def pair (high low : UInt8) : UInt16 := high.toUInt16 * 256 + low.toUInt16

def groups? : List Text → Option (List UInt16)
  | [] => some []
  | [part] =>
    match dotted? part with
    | some (a, b, c, d) => some [pair a b, pair c d]
    | none => (group? part).map fun group => [group]
  | part :: parts =>
    match group? part, groups? parts with
    | some group, some groups => some (group :: groups)
    | _, _ => none

def groupsOfText? (text : Text) : Option (List UInt16) :=
  if text.isEmpty then some [] else groups? (text.split ':')

def ofGroups? (groups : List UInt16) : Option IpAddress :=
  if h : groups.length = 8 then some (.v6 ⟨groups.toArray, by simpa using h⟩) else none

/--
An address of version 6. Only the last two groups may be written as decimal bytes, so there must be
no point before two colons.
-/
def v6OfText? (text : Text) : Option IpAddress :=
  match Text.splitAt? [':', ':'] text with
  | none => (groupsOfText? text).bind ofGroups?
  | some (head, tail) =>
    if head.contains '.' then none
    else
      match groupsOfText? head, groupsOfText? tail with
      | some head, some tail =>
        if head.length + tail.length ≤ 7 then
          ofGroups? (head ++ List.replicate (8 - head.length - tail.length) 0 ++ tail)
        else none
      | _, _ => none

def ofText? (text : Text) : Option IpAddress :=
  match dotted? text with
  | some (a, b, c, d) => some (.v4 a b c d)
  | none => v6OfText? text

def dotted (a b c d : UInt8) : String :=
  ".".intercalate ([a, b, c, d].map fun byte => toString byte.toNat)

def groupText (group : UInt16) : String := String.ofList (Nat.toDigits 16 group.toNat)

def groupsText (groups : List UInt16) : String := ":".intercalate (groups.map groupText)

def leadingZeros (groups : List UInt16) : Nat := (groups.takeWhile (· == 0)).length

def longestZeros (groups : List UInt16) : Nat × Nat :=
  (List.range groups.length).foldl
    (fun best start =>
      let length := leadingZeros (groups.drop start)
      if best.2 < length then (start, length) else best)
    (0, 0)

def compressed (groups : List UInt16) : String :=
  let (start, length) := longestZeros groups
  if 2 ≤ length then
    groupsText (groups.take start) ++ "::" ++ groupsText (groups.drop (start + length))
  else groupsText groups

def toText : IpAddress → String
  | .v4 a b c d => dotted a b c d
  | .v6 groups =>
    match groups.toList with
    | [0, 0, 0, 0, 0, 0xFFFF, high, low] =>
      "::ffff:" ++ dotted (high / 256).toUInt8 high.toUInt8 (low / 256).toUInt8 low.toUInt8
    | groups => compressed groups

end IpAddress

structure Endpoint where
  address : IpAddress
  port : UInt16
  deriving DecidableEq

def Endpoint.toText (endpoint : Endpoint) : String :=
  let port := toString endpoint.port.toNat
  match endpoint.address with
  | .v4 .. => endpoint.address.toText ++ ":" ++ port
  | .v6 _ => "[" ++ endpoint.address.toText ++ "]:" ++ port

end PiiScan
