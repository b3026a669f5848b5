import PiiScan.Config.Document
import PiiScan.Files

/-!
This module contains the choice of the configuration: from the file that is asked for, else from the
default file in the working directory if there is one, else the defaults.
-/

namespace PiiScan.Config

def defaultFile : String := "aegis-filter.hcl"

def chooseFile (files : Files) : Option String → Option String
  | some path => some path
  | none => if files.exists? defaultFile then some defaultFile else none

def load (files : Files) (path : Option String) (diagnosis : Diagnosis := .silent) :
    Except Fault (Config × Option String) :=
  match chooseFile files path with
  | none => .ok ({}, none)
  | some path => do
    let config ← ofText (← files.readText path) diagnosis
    return (config, some path)

end PiiScan.Config
