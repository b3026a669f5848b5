import PiiScan.Fault
import PiiScan.Text

/-!
This module contains the files that the program may read. Paths start in the working directory, or
at the root when they start with a slash.
-/

namespace PiiScan

inductive Entry where
  | file (bytes : List UInt8)
  | directory
  deriving DecidableEq

/--
The files, by the parts of their paths.
-/
abbrev Files := List (List Text × Entry)

inductive FileError where
  | notFound
  | notADirectory
  | isADirectory
  | nameTooLong
  | badName
  | notText
  deriving DecidableEq

namespace FileError

def message : FileError → String
  | .notFound => "No such file or directory (os error 2)"
  | .notADirectory => "Not a directory (os error 20)"
  | .isADirectory => "Is a directory (os error 21)"
  | .nameTooLong => "File name too long (os error 36)"
  | .badName => "file name contained an unexpected NUL byte"
  | .notText => "stream did not contain valid UTF-8"

end FileError

namespace Files

def root : Text := ['/']

def partsOf (path : String) : List Text :=
  let parts := (Text.split '/' path.toList).filter fun part => !part.isEmpty
  if path.toList.head? = some '/' then root :: parts else parts

def ofNames (entries : List (String × Entry)) : Files :=
  entries.map fun (name, entry) => (partsOf name, entry)

/--
What the parts of a path lead to. A directory is there when something is in it.
-/
def find? (files : Files) (parts : List Text) : Option Entry :=
  if parts = [] ∨ parts = [root] then some .directory
  else
    match files.lookup parts with
    | some entry => some entry
    | none => if files.any fun f => parts.isPrefixOf f.1 then some .directory else none

/--
The directory above another one. Nothing is known of what lies above the working directory.
-/
def parent? (place : List Text) : Option (List Text) :=
  if place = [] then none
  else if place = [root] then some place
  else some place.dropLast

/--
Follow the parts of a path from a directory, of which `place` is the path.
-/
def follow (files : Files) (place : List Text) : List Text → Except FileError Entry
  | [] =>
    match files.find? place with
    | some entry => .ok entry
    | none => .error .notFound
  | part :: parts =>
    match files.find? place with
    | none => .error .notFound
    | some (.file _) => .error .notADirectory
    | some .directory =>
      if part = ['.'] then follow files place parts
      else if part = ['.', '.'] then
        match parent? place with
        | some place => follow files place parts
        | none => .error .notFound
      else if 255 < Text.byteSize part then .error .nameTooLong
      else follow files (place ++ [part]) parts

/--
What a path leads to. A path that ends in a slash leads to a directory.
-/
def resolve (files : Files) (path : String) : Except FileError Entry :=
  if path.toList.contains '\x00' then .error .badName
  else if path = "" then .error .notFound
  else
    match follow files [] (partsOf path) with
    | .ok (.file bytes) =>
      if path.toList.getLast? = some '/' then .error .notADirectory else .ok (.file bytes)
    | other => other

def readText (files : Files) (path : String) : Except Fault Text :=
  match files.resolve path with
  | .error error => .error (.io error.message)
  | .ok .directory => .error (.io FileError.isADirectory.message)
  | .ok (.file bytes) =>
    match Text.ofUtf8? bytes with
    | some text => .ok text
    | none => .error (.io FileError.notText.message)

def exists? (files : Files) (path : String) : Bool :=
  match files.resolve path with
  | .ok _ => true
  | .error _ => false

end Files
end PiiScan
