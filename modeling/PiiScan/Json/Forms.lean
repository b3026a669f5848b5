import PiiScan.Classification
import PiiScan.Json.Record
import PiiScan.Operator
import PiiScan.Rule

/-!
This module contains the JSON forms of classifications, detections, scan results, rules and
operators: what they are written as, and which values are read as them. The names of fields are in
camel case where they are part of an answer and in snake case where they are part of a
configuration.
-/

namespace PiiScan

open Json (Dialect)

namespace Classification

def toJson (c : Classification) : Json := .ofString c.label

def ofJson? (value : Json) : Option Classification :=
  value.variant?.bind fun name => ofLabel? (String.ofList name)

end Classification

namespace Detection

def toJson (d : Detection) : Json := .object [
  Json.member "entityType" (.ofString d.entityType),
  Json.member "start" (.natural d.start),
  Json.member "end" (.natural d.stop),
  Json.member "score" (.real d.score)]

def ofJson? (value : Json) : Option Detection := do
  let field ← value.fields? ["entityType", "start", "end", "score"]
  return {
    entityType := ← Json.required? Dialect.json.string? (field "entityType")
    start := ← Json.required? (Json.natural? 64) (field "start")
    stop := ← Json.required? (Json.natural? 64) (field "end")
    score := ← Json.required? Json.score? (field "score") }

end Detection

namespace ScanResult

def toJson (r : ScanResult) : Json := .object [
  Json.member "detected" (.bool r.detected),
  Json.member "detections" (.array (r.detections.map Detection.toJson)),
  Json.member "redactedText" (.string r.redactedText)]

def ofJson? (value : Json) : Option ScanResult := do
  let field ← value.fields? ["detected", "detections", "redactedText"]
  return {
    detected := ← Json.required? Json.bool? (field "detected")
    detections := ← Json.required? (Json.list? Detection.ofJson?) (field "detections")
    redactedText := ← Json.required? Json.text? (field "redactedText") }

end ScanResult

namespace Validator

def label : Validator → String
  | .luhn => "luhn"

def toJson (v : Validator) : Json := .ofString v.label

def ofJson? (value : Json) : Option Validator :=
  value.variant?.bind fun name => if name = "luhn".toList then some .luhn else none

end Validator

namespace Rule

def toJson (r : Rule) : Json := .object [
  Json.member "entity_type" (.ofString r.entityType),
  Json.member "pattern" (.ofString r.pattern),
  Json.member "score" (.real r.score),
  Json.member "validator" (.ofOption Validator.toJson r.validator)]

def ofJson? (dialect : Dialect) (value : Json) : Option Rule := do
  let field ← value.fields? ["entity_type", "pattern", "score", "validator"]
  return {
    entityType := ← Json.required? dialect.string? (field "entity_type")
    pattern := ← Json.required? dialect.string? (field "pattern")
    score := ← Json.required? Json.score? (field "score")
    validator := ← Json.optional? none (Json.nullable? Validator.ofJson?) (field "validator") }

end Rule

namespace Operator

inductive Kind where
  | replace
  | mask
  | redact
  | hash
  deriving DecidableEq

namespace Kind

def all : List Kind := [.replace, .mask, .redact, .hash]

def label : Kind → String
  | .replace => "replace"
  | .mask => "mask"
  | .redact => "redact"
  | .hash => "hash"

def ofJson? (dialect : Dialect) : Json → Option Kind
  | .string name => all.find? fun kind => kind.label.toList == name
  | .natural n => if dialect.numbersVariants then all[n]? else none
  | _ => none

end Kind

def toJson : Operator → Json
  | .replace newValue => .object [
    Json.member "type" (.ofString "replace"),
    Json.member "new_value" (.ofOption .ofString newValue)]
  | .mask maskingChar charsToMask fromEnd => .object [
    Json.member "type" (.ofString "mask"),
    Json.member "masking_char" (.ofString maskingChar),
    Json.member "chars_to_mask" (.ofOption .natural charsToMask),
    Json.member "from_end" (.bool fromEnd)]
  | .redact => .object [Json.member "type" (.ofString "redact")]
  | .hash => .object [Json.member "type" (.ofString "hash")]

/--
An operator of some kind from the value that holds its settings. An operator without settings skips
the members of an object.
-/
def ofSettings? (kind : Kind) (settings : Json) : Option Operator :=
  let string? := Dialect.json.string?
  match kind with
  | .replace => do
    let field ← settings.fields? ["new_value"]
    return .replace (← Json.optional? none (Json.nullable? string?) (field "new_value"))
  | .mask => do
    let field ← settings.fields? ["masking_char", "chars_to_mask", "from_end"]
    return .mask
      (← Json.optional? "*" string? (field "masking_char"))
      (← Json.optional? none (Json.nullable? (Json.natural? 64)) (field "chars_to_mask"))
      (← Json.optional? false Json.bool? (field "from_end"))
  | .redact => (settings.fields? []).map fun _ => .redact
  | .hash => (settings.fields? []).map fun _ => .hash

/--
An operator is an object with exactly one member `type`, or an array that starts with the type.
Since the type may come last, all of it is kept until it is known: every part must be usable, and
the operator, which lies `level` levels deep in its document, must not be nested too deeply.
-/
def ofJson? (dialect : Dialect) (level : Nat) (value : Json) : Option Operator :=
  if dialect.maxDepth.any fun bound => bound < level + value.depth then none
  else
    match value with
    | .object members =>
      match Json.membersNamed "type" members with
      | [tag] => do
        let kind ← Kind.ofJson? dialect tag
        let settings : Json := .object (members.filter fun m => m.1 != some "type".toList)
        if settings.isUsable then ofSettings? kind settings else none
      | _ => none
    | .array (tag :: items) => do
      let kind ← Kind.ofJson? dialect tag
      if (Json.array items).isUsable then ofSettings? kind (.array items) else none
    | _ => none

end Operator
end PiiScan
