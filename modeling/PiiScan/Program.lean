import PiiScan.CommandLine
import PiiScan.Config.Load
import PiiScan.Json.Printer
import PiiScan.Server

/-!
This module contains the program as a whole: what it prints and how it exits for given arguments,
environment and files, on any platform. A server is taken to run until it is told to stop.
-/

namespace PiiScan

structure Exit where
  code : Nat
  printed : Text
  reported : String := ""
  deriving DecidableEq

namespace Exit

def success (line : Text) : Exit := ⟨0, line ++ ['\n'], ""⟩

def failure (reason : String) : Exit := ⟨1, [], "Error: " ++ reason⟩

/--
The program ends because of its arguments. The texts about its use are not part of this.
-/
def ofStop : Stop → Exit
  | .usage => ⟨2, [], ""⟩
  | .version => success "aegis-filter 0.1.0".toList
  | .help => ⟨0, [], ""⟩

end Exit

/--
What the program is given by the machine and the libraries that it runs with.
-/
structure Platform where
  engine : PatternEngine := .standard
  diagnosis : Config.Diagnosis := .silent
  network : Network := .isolated

namespace Program

def withOverrides (config : Config) (invocation : Invocation) : Config :=
  { config with server := { config.server with
      host := invocation.host.getD config.server.host
      port := invocation.port.getD config.server.port
      workers := invocation.workers.getD config.server.workers } }

def servedConfig (files : Files) (invocation : Invocation) (platform : Platform := {}) :
    Except Fault Config := do
  let (config, _) ← Config.load files invocation.configFile platform.diagnosis
  let config := withOverrides config invocation
  config.validate
  return config

/--
The configuration that is shown. The defaults are shown without a look at any file.
-/
def shownConfig (files : Files) (invocation : Invocation) (default : Bool)
    (platform : Platform := {}) : Except Fault Config :=
  if default then .ok {}
  else (Config.load files invocation.configFile platform.diagnosis).map Prod.fst

def serve (files : Files) (invocation : Invocation) (platform : Platform := {}) : Exit :=
  match servedConfig files invocation platform with
  | .error fault => .failure fault.message
  | .ok config =>
    match Scanner.ofConfig config platform.engine with
    | .error _ => .failure "Failed to build scanner"
    | .ok _ =>
      match Server.serve config.server platform.network with
      | .error _ => .failure "PII filter service failed"
      | .ok () => ⟨0, [], ""⟩

def scan (files : Files) (invocation : Invocation) (text classification : String)
    (platform : Platform := {}) : Exit :=
  match Config.load files invocation.configFile platform.diagnosis with
  | .error fault => .failure fault.message
  | .ok (config, _) =>
    match Scanner.ofConfig config platform.engine with
    | .error _ => .failure "Failed to build scanner"
    | .ok scanner =>
      match (scanner.scan text.toList classification).answer with
      | .error fault => .failure fault.message
      | .ok result => .success result.toJson.pretty

def showConfig (files : Files) (invocation : Invocation) (default : Bool)
    (platform : Platform := {}) : Exit :=
  match shownConfig files invocation default platform with
  | .error fault => .failure fault.message
  | .ok config => .success config.toJson.pretty

def run (files : Files) (environment : Environment) (arguments : List String)
    (platform : Platform := {}) : Exit :=
  match Invocation.ofArguments arguments environment with
  | .error stop => .ofStop stop
  | .ok invocation =>
    match invocation.command with
    | .serve => serve files invocation platform
    | .scan text classification => scan files invocation text classification platform
    | .showConfig default => showConfig files invocation default platform

end Program
end PiiScan
