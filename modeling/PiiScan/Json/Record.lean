import PiiScan.Json.Basic

/-!
This module contains the reading of typed parts out of structured values: numbers of some width,
texts, lists, variants, and records. A record is an object, in which members of other names are
skipped, or an array of its fields in their order.
-/

namespace PiiScan.Json

structure Dialect where
  text? : Json → Option Text
  /--
  How deeply a document may be nested down to a value that is kept as it is.
  -/
  maxDepth : Option Nat
  numbersVariants : Bool

def text? : Json → Option Text
  | .string value => some value
  | _ => none

def Dialect.json : Dialect where
  text? := Json.text?
  maxDepth := some 127
  numbersVariants := false

def natural? (bits : Nat) : Json → Option Nat
  | .natural n => if n < Nat.pow 2 bits then some n else none
  | _ => none

def score? : Json → Option Score
  | .natural n => some (.ofRatio false n 1)
  | .negative n => some (.ofRatio true n 1)
  | .real s => some s
  | _ => none

def bool? : Json → Option Bool
  | .bool value => some value
  | _ => none

def nullable? {α : Type} (f : Json → Option α) : Json → Option (Option α)
  | .null => some none
  | value => (f value).map some

def list? {α : Type} (f : Json → Option α) : Json → Option (List α)
  | .array items => items.mapM f
  | _ => none

/--
A variant without content: its name, or an object whose only member has that name and is null.
-/
def variant? : Json → Option Text
  | .string name => some name
  | .object [(some name, .null)] => some name
  | _ => none

def membersNamed (name : String) (members : List (Option Text × Json)) : List Json :=
  members.filterMap fun m => if m.1 = some name.toList then some m.2 else none

/--
The fields of a record with the given names, as a function that looks them up. Every name in an
object must be usable and no field may be given twice; an array must not have more items than there
are fields.
-/
def fields? (names : List String) : Json → Option (String → Option Json)
  | .object members =>
    if members.all (fun m => m.1.isSome) &&
        names.all (fun name => decide ((membersNamed name members).length ≤ 1)) then
      some fun name => (membersNamed name members).head?
    else none
  | .array items =>
    if items.length ≤ names.length then some fun name => items[names.idxOf name]? else none
  | _ => none

def required? {α : Type} (f : Json → Option α) (field : Option Json) : Option α :=
  field.bind f

def optional? {α : Type} (default : α) (f : Json → Option α) : Option Json → Option α
  | some value => f value
  | none => some default

def Dialect.string? (dialect : Dialect) (value : Json) : Option String :=
  (dialect.text? value).map String.ofList

end PiiScan.Json
