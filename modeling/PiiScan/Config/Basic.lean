import PiiScan.Address
import PiiScan.Anonymizer
import PiiScan.Recognizer
import PiiScan.Scanner

/-!
This module contains the configuration of the filter: its defaults, what makes it acceptable, and
the scanner that it describes.
-/

namespace PiiScan

structure ServerConfig where
  host : String := "::"
  port : UInt16 := 50051
  workers : Nat := 4
  maxMessageBytes : Option Nat := none
  shutdownGraceSecs : Nat := 5
  deriving DecidableEq

structure RecognizerConfig where
  language : String := "en"
  rules : List Rule := Rule.defaults
  deriving DecidableEq

structure Config where
  server : ServerConfig := {}
  recognizer : RecognizerConfig := {}
  anonymizer : OperatorTable := {}
  deriving DecidableEq

namespace ServerConfig

def bareHost (config : ServerConfig) : Text :=
  ((config.host.toList.dropWhile (· == '[')).reverse.dropWhile (· == ']')).reverse

def endpoint (config : ServerConfig) : Except Fault Endpoint :=
  match IpAddress.ofText? config.bareHost with
  | some address => .ok ⟨address, config.port⟩
  | none => .error (.config ("Invalid host '" ++ config.host ++ "': invalid IP address syntax"))

end ServerConfig

namespace Config

def validate (config : Config) : Except Fault Unit :=
  if config.server.workers = 0 then .error (.config "server.workers must be at least 1")
  else if config.recognizer.language = "" then
    .error (.config "recognizer.language must not be empty")
  else
    match config.recognizer.rules.find? fun rule => !rule.score.isUnit with
    | some rule => .error <| .config <|
      "Score " ++ rule.score.plain ++ " for entity '" ++ rule.entityType ++ "' is outside [0, 1]"
    | none => config.server.endpoint.map fun _ => ()

end Config

def PatternRecognizer.toRecognizer (recognizer : PatternRecognizer) : Recognizer :=
  ⟨"pattern", recognizer.analyze⟩

def OperatorTable.toAnonymizer (table : OperatorTable) : Anonymizer :=
  ⟨"operator", table.anonymize⟩

def Scanner.ofConfig (config : Config) (engine : PatternEngine := .standard) :
    Except Fault Scanner := do
  let recognizer ←
    PatternRecognizer.ofRules config.recognizer.rules config.recognizer.language engine
  return ⟨⟨recognizer.toRecognizer, config.recognizer.language⟩, config.anonymizer.toAnonymizer⟩

end PiiScan
