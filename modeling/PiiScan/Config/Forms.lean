import PiiScan.Config.Basic
import PiiScan.Json.Forms

/-!
This module contains the form of a configuration as a structured value. Every section and every
field may be left out and then has its default.
-/

namespace PiiScan

open Json (Dialect)

namespace ServerConfig

def toJson (config : ServerConfig) : Json := .object [
  Json.member "host" (.ofString config.host),
  Json.member "port" (.natural config.port.toNat),
  Json.member "workers" (.natural config.workers),
  Json.member "max_message_bytes" (.ofOption .natural config.maxMessageBytes),
  Json.member "shutdown_grace_secs" (.natural config.shutdownGraceSecs)]

def ofJson? (dialect : Dialect) (value : Json) : Option ServerConfig := do
  let field ← value.fields? ["host", "port", "workers", "max_message_bytes", "shutdown_grace_secs"]
  let default : ServerConfig := {}
  return {
    host := ← Json.optional? default.host dialect.string? (field "host")
    port := ← Json.optional? default.port (fun v => (v.natural? 16).map UInt16.ofNat) (field "port")
    workers := ← Json.optional? default.workers (Json.natural? 64) (field "workers")
    maxMessageBytes := ← Json.optional? default.maxMessageBytes (Json.nullable? (Json.natural? 64))
      (field "max_message_bytes")
    shutdownGraceSecs := ← Json.optional? default.shutdownGraceSecs (Json.natural? 64)
      (field "shutdown_grace_secs") }

end ServerConfig

namespace RecognizerConfig

def toJson (config : RecognizerConfig) : Json := .object [
  Json.member "language" (.ofString config.language),
  Json.member "rules" (.array (config.rules.map Rule.toJson))]

def ofJson? (dialect : Dialect) (value : Json) : Option RecognizerConfig := do
  let field ← value.fields? ["language", "rules"]
  let default : RecognizerConfig := {}
  return {
    language := ← Json.optional? default.language dialect.string? (field "language")
    rules := ← Json.optional? default.rules (Json.list? (Rule.ofJson? dialect)) (field "rules") }

end RecognizerConfig

namespace OperatorTable

def toJson (table : OperatorTable) : Json := .object [
  Json.member "default_operator" table.defaultOperator.toJson,
  Json.member "operators"
    (.object (table.overrides.map fun (entityType, operator) =>
      Json.member entityType operator.toJson))]

/--
The entries of a list without those that a later one replaces.
-/
def lastEntries {α : Type} : List (String × α) → List (String × α)
  | [] => []
  | entry :: entries =>
    if entries.any fun e => e.1 == entry.1 then lastEntries entries
    else entry :: lastEntries entries

/--
Overrides, one member for each entity type. The last of several members with one name counts.
-/
def overridesOfJson? (dialect : Dialect) (level : Nat) : Json → Option (List (String × Operator))
  | .object members =>
    (members.mapM fun (name, value) => do
      return (String.ofList (← name), ← Operator.ofJson? dialect level value)).map lastEntries
  | _ => none

def ofJson? (dialect : Dialect) (value : Json) : Option OperatorTable := do
  let field ← value.fields? ["default_operator", "operators"]
  return {
    defaultOperator :=
      ← Json.optional? default (Operator.ofJson? dialect 2) (field "default_operator")
    overrides := ← Json.optional? [] (overridesOfJson? dialect 3) (field "operators") }

end OperatorTable

namespace Config

def toJson (config : Config) : Json := .object [
  Json.member "server" config.server.toJson,
  Json.member "recognizer" config.recognizer.toJson,
  Json.member "anonymizer" config.anonymizer.toJson]

def ofJson? (dialect : Dialect) (value : Json) : Option Config := do
  let field ← value.fields? ["server", "recognizer", "anonymizer"]
  return {
    server := ← Json.optional? {} (ServerConfig.ofJson? dialect) (field "server")
    recognizer := ← Json.optional? {} (RecognizerConfig.ofJson? dialect) (field "recognizer")
    anonymizer := ← Json.optional? {} (OperatorTable.ofJson? dialect) (field "anonymizer") }

end Config
end PiiScan
