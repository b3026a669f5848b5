import PiiScan.Scanner
import PiiScan.Sorting

/-!
This module contains the scan service as its callers see it. Detections are reported in code points
and with single precision scores; a fault is reported with its message and no result.
-/

namespace PiiScan

structure ScanRequest where
  text : Text
  classification : String
  deriving DecidableEq

/--
A detection with offsets in code points. The score is the bit pattern of a single precision number.
-/
structure ReportedDetection where
  entityType : String
  start : Nat
  stop : Nat
  score : UInt32
  deriving DecidableEq

structure ScanResponse where
  detected : Bool
  detections : List ReportedDetection
  redactedText : Text
  deriving DecidableEq

/--
Byte offsets and, for each, the number of code points before it.
-/
abbrev OffsetTable := List (Nat × Nat)

namespace OffsetTable

def boundaries (detections : List Detection) : List Nat :=
  distinct (sortStable (fun a b => decide (a ≤ b)) (detections.flatMap fun d => [d.start, d.stop]))
where
  distinct : List Nat → List Nat
    | a :: b :: rest => if a = b then distinct (b :: rest) else a :: distinct (b :: rest)
    | rest => rest

/--
The table for ascending offsets. `rest` is the text that starts `last` bytes and `count` code points
into the whole text. The first offset that cuts a code point or lies behind the text is a fault.
-/
def build (rest : Text) (last count : Nat) : List Nat → Except Fault OffsetTable
  | [] => .ok []
  | byte :: bytes =>
    if rest.isBoundary (byte - last) then
      let count := count + (rest.takeBytes (byte - last)).length
      match build (rest.dropBytes (byte - last)) byte count bytes with
      | .ok table => .ok ((byte, count) :: table)
      | .error fault => .error fault
    else .error (.internal ("Offset " ++ toString byte ++ " is not a character boundary"))

def ofDetections (text : Text) (detections : List Detection) : Except Fault OffsetTable :=
  build text 0 0 (boundaries detections)

def search (table : OffsetTable) (byte : Nat) : Option Nat :=
  match h : table.drop (table.length / 2) with
  | [] => none
  | (middle, count) :: later =>
    if byte = middle then some count
    else if byte < middle then search (table.take (table.length / 2)) byte
    else search later byte
termination_by table.length
decreasing_by
  all_goals
    have := congrArg List.length h
    simp only [List.length_drop, List.length_cons, List.length_take] at this ⊢
    omega

/--
The number of code points before an offset, which must be in the table and fit a signed number of 64
bits.
-/
def count (table : OffsetTable) (byte : Nat) : Except Fault Nat :=
  match table.search byte with
  | none => .error (.internal ("Offset " ++ toString byte ++ " was not indexed"))
  | some count =>
    if count < 1 <<< 63 then .ok count
    else .error (.internal ("Offset " ++ toString count ++ " does not fit the wire format"))

end OffsetTable

namespace ScanResponse

def report (table : OffsetTable) (d : Detection) : Except Fault ReportedDetection := do
  let start ← table.count d.start
  let stop ← table.count d.stop
  return ⟨d.entityType, start, stop, d.score.toSingle⟩

def ofResult (result : ScanResult) (text : Text) : Except Fault ScanResponse := do
  let table ← OffsetTable.ofDetections text result.detections
  let detections ← result.detections.mapM (report table)
  return ⟨result.detected, detections, result.redactedText⟩

end ScanResponse

/--
Answer a request. A request waits for one of the workers to be free, which is not part of this:
waiting could only fail if the workers were dismissed, and nothing ever does that.
-/
def Scanner.respond (scanner : Scanner) (request : ScanRequest) : Run ScanResponse :=
  (scanner.scan request.text request.classification).andThen fun result =>
    ⟨[], ScanResponse.ofResult result request.text⟩

end PiiScan
