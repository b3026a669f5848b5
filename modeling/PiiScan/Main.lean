import PiiScan.Program

/-!
This module contains the command line program. It reads the arguments, the environment and the
configuration file, and prints what the program prints for them.
-/

namespace PiiScan

def readEnvironment : IO Environment := do
  let names := (Invocation.topFlags ++ Invocation.globalFlags).filterMap Flag.environmentName?
  let values ← names.mapM fun name => return (← IO.getEnv name).map fun value => (name, value)
  return values.filterMap id

/--
The file or the directory at a path, as the only one there is.
-/
def readFile (path : String) : IO Files := do
  let name := Files.partsOf path
  match ← (IO.FS.readBinFile path).toBaseIO with
  | .ok bytes => return [(name, .file bytes.toList)]
  | .error (.inappropriateType ..) => return [(name, .directory)]
  | .error _ => return []

def readFiles (arguments : List String) (environment : Environment) : IO Files :=
  match Invocation.ofArguments arguments environment with
  | .ok invocation => readFile (invocation.configFile.getD Config.defaultFile)
  | .error _ => return []

end PiiScan

open PiiScan in
def main (arguments : List String) : IO UInt32 := do
  let environment ← readEnvironment
  let files ← readFiles arguments environment
  let exit := Program.run files environment arguments
  IO.print (String.ofList exit.printed)
  if exit.reported != "" then
    IO.eprintln exit.reported
  return UInt32.ofNat exit.code
