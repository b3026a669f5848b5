import PiiScan.Wire.Message

/-!
This module contains remote calls. A call names a path and sends frames; a frame is a flag, the
length of a message in four bytes, and the message. The answer is a frame, or a status that says
what went wrong.
-/

namespace PiiScan.Wire

inductive StatusCode where
  | outOfRange
  | unimplemented
  | internal
  deriving DecidableEq

def StatusCode.number : StatusCode → Nat
  | .outOfRange => 11
  | .unimplemented => 12
  | .internal => 13

/--
The outcome of a failed call. There is a message when the service itself failed.
-/
structure Status where
  code : StatusCode
  message : Option String := none
  deriving DecidableEq

def Status.ofFault (fault : Fault) : Status := ⟨.internal, some fault.message⟩

abbrev SizeLimit := Option Nat

def SizeLimit.allows (limit : SizeLimit) (size : Nat) : Bool :=
  limit.all fun bound => decide (size ≤ bound)

/--
The message in the first frame, and the bytes after it; `none` when there are no bytes. Frames must
not be compressed. The size is checked before the message is there.
-/
def takeFrame (limit : SizeLimit) : List UInt8 → Except Status (Option (List UInt8 × List UInt8))
  | [] => .ok none
  | flag :: a :: b :: c :: d :: rest =>
    let size := ((a.toNat * 256 + b.toNat) * 256 + c.toNat) * 256 + d.toNat
    if flag ≠ 0 then .error ⟨.internal, none⟩
    else if !limit.allows size then .error ⟨.outOfRange, none⟩
    else if rest.length < size then .error ⟨.internal, none⟩
    else .ok (some (rest.take size, rest.drop size))
  | _ => .error ⟨.internal, none⟩

def takeRequests (limit : SizeLimit) : Nat → List UInt8 → Except Status (List ScanRequest)
  | 0, _ => .ok []
  | fuel + 1, bytes =>
    match takeFrame limit bytes with
    | .error status => .error status
    | .ok none => .ok []
    | .ok (some (message, rest)) =>
      match requestOfBytes? message with
      | none => .error ⟨.internal, none⟩
      | some request => (takeRequests limit fuel rest).map fun requests => request :: requests

/--
The request of a call: the first of those that it sends. The others must be well formed too.
-/
def requestOfCall (limit : SizeLimit) (body : List UInt8) : Except Status ScanRequest :=
  match takeRequests limit (body.length + 1) body with
  | .error status => .error status
  | .ok [] => .error ⟨.internal, none⟩
  | .ok (request :: _) => .ok request

def frame (message : List UInt8) : List UInt8 :=
  let size := message.length
  [0, UInt8.ofNat (size >>> 24), UInt8.ofNat (size >>> 16), UInt8.ofNat (size >>> 8),
    UInt8.ofNat size] ++ message

def scanPath : String := "/aegis.filter.v1.FilterService/ScanPII"

/--
Answer a call. The limit holds for the request and for the answer; a query after the path is
ignored.
-/
def answerCall (scanner : Scanner) (limit : SizeLimit) (path : String) (body : List UInt8) :
    Except Status (List UInt8) :=
  if path.toList.takeWhile (· != '?') ≠ scanPath.toList then .error ⟨.unimplemented, none⟩
  else
    match requestOfCall limit body with
    | .error status => .error status
    | .ok request =>
      match (scanner.respond request).answer with
      | .error fault => .error (Status.ofFault fault)
      | .ok response =>
        let message := responseToBytes response
        if limit.allows message.length then .ok (frame message) else .error ⟨.outOfRange, none⟩

end PiiScan.Wire
