import PiiScan.Service
import PiiScan.Wire.Varint

/-!
This module contains the requests and answers of the scan service as binary messages. A message is a
sequence of fields, each with a key that holds its number and its kind. Of a field that comes twice
the last value counts, and fields with other numbers are skipped. Fields that have their default are
not written.
-/

namespace PiiScan.Wire

inductive FieldKind where
  | varint
  | fixed64
  | bytes
  | groupStart
  | groupEnd
  | fixed32
  deriving DecidableEq

namespace FieldKind

def code : FieldKind → Nat
  | .varint => 0
  | .fixed64 => 1
  | .bytes => 2
  | .groupStart => 3
  | .groupEnd => 4
  | .fixed32 => 5

def ofCode? : Nat → Option FieldKind
  | 0 => some .varint
  | 1 => some .fixed64
  | 2 => some .bytes
  | 3 => some .groupStart
  | 4 => some .groupEnd
  | 5 => some .fixed32
  | _ => none

end FieldKind

structure FieldKey where
  number : Nat
  kind : FieldKind
  deriving DecidableEq

/--
The key at the start of bytes. It fits 32 bits, and field numbers start at one.
-/
def takeKey? (bytes : List UInt8) : Option (FieldKey × List UInt8) :=
  match Varint.decode bytes with
  | some (n, rest) =>
    match FieldKind.ofCode? (n % 8) with
    | some kind => if n < 1 <<< 32 ∧ 1 ≤ n / 8 then some (⟨n / 8, kind⟩, rest) else none
    | none => none
  | none => none

def drop? (n : Nat) (bytes : List UInt8) : Option (List UInt8) :=
  if n ≤ bytes.length then some (bytes.drop n) else none

mutual

/--
Skip the content of a field. Groups may be nested `depth` levels deep; the fuel bounds the number of
fields.
-/
def skipField (fuel depth : Nat) (key : FieldKey) (bytes : List UInt8) : Option (List UInt8) :=
  match fuel, depth with
  | 0, _ | _, 0 => none
  | fuel + 1, depth + 1 =>
    match key.kind with
    | .varint => (Varint.decode bytes).map fun (_, rest) => rest
    | .fixed64 => drop? 8 bytes
    | .fixed32 => drop? 4 bytes
    | .bytes => (Varint.decode bytes).bind fun (n, rest) => drop? n rest
    | .groupStart => skipGroup fuel depth key.number bytes
    | .groupEnd => none

def skipGroup (fuel depth number : Nat) (bytes : List UInt8) : Option (List UInt8) :=
  match fuel with
  | 0 => none
  | fuel + 1 =>
    match takeKey? bytes with
    | none => none
    | some (key, rest) =>
      if key.kind = .groupEnd then if key.number = number then some rest else none
      else
        match skipField fuel depth key rest with
        | some rest => skipGroup fuel depth number rest
        | none => none

end

def maxGroupDepth : Nat := 100

def takeText? (kind : FieldKind) (bytes : List UInt8) : Option (Text × List UInt8) :=
  match kind, Varint.decode bytes with
  | .bytes, some (n, rest) =>
    if n ≤ rest.length then (Text.ofUtf8? (rest.take n)).map fun text => (text, rest.drop n)
    else none
  | _, _ => none

def readRequest : Nat → ScanRequest → List UInt8 → Option ScanRequest
  | _, request, [] => some request
  | 0, _, _ => none
  | fuel + 1, request, bytes =>
    match takeKey? bytes with
    | none => none
    | some (key, rest) =>
      if key.number = 1 then
        match takeText? key.kind rest with
        | some (text, rest) => readRequest fuel { request with text := text } rest
        | none => none
      else if key.number = 2 then
        match takeText? key.kind rest with
        | some (label, rest) =>
          readRequest fuel { request with classification := String.ofList label } rest
        | none => none
      else
        match skipField (2 * rest.length + 2) maxGroupDepth key rest with
        | some rest => readRequest fuel request rest
        | none => none

def requestOfBytes? (bytes : List UInt8) : Option ScanRequest :=
  readRequest bytes.length ⟨[], ""⟩ bytes

def field (number : Nat) (kind : FieldKind) (content : List UInt8) : List UInt8 :=
  Varint.encode (8 * number + kind.code) ++ content

def sized (content : List UInt8) : List UInt8 := Varint.encode content.length ++ content

def textField (number : Nat) (text : Text) : List UInt8 :=
  if text.isEmpty then [] else field number .bytes (sized text.toUtf8)

def naturalField (number n : Nat) : List UInt8 :=
  if n = 0 then [] else field number .varint (Varint.encode n)

/--
A single precision number, the least significant byte first. Both zeros are left out.
-/
def singleField (number : Nat) (bits : UInt32) : List UInt8 :=
  if bits.toNat % 0x80000000 = 0 then []
  else field number .fixed32
    [bits.toUInt8, (bits >>> 8).toUInt8, (bits >>> 16).toUInt8, (bits >>> 24).toUInt8]

def detectionToBytes (d : ReportedDetection) : List UInt8 :=
  textField 1 d.entityType.toList ++ naturalField 2 d.start ++ naturalField 3 d.stop ++
    singleField 4 d.score

def responseToBytes (response : ScanResponse) : List UInt8 :=
  naturalField 1 response.detected.toNat ++
    response.detections.flatMap (fun d => field 2 .bytes (sized (detectionToBytes d))) ++
    textField 3 response.redactedText

end PiiScan.Wire
