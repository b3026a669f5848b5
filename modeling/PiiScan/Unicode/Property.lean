import PiiScan.Unicode.Age
import PiiScan.Unicode.Binary
import PiiScan.Unicode.Break
import PiiScan.Unicode.Category
import PiiScan.Unicode.Digit
import PiiScan.Unicode.Script

/-!
This module contains the look-up of sets of code points by the names of their properties. Names are
matched loosely: case, blanks, underscores and hyphens do not count, nor does a leading `is`.
-/

namespace PiiScan.Unicode

def looseName (name : List Char) : List Char :=
  let bare := match name with
    | i :: s :: rest => if i.toLower == 'i' && s.toLower == 's' then rest else name
    | _ => name
  let kept := bare.filterMap fun c =>
    if c == ' ' || c == '_' || c == '-' || decide (128 ≤ c.toNat) then none else some c.toLower
  if kept == ['c'] && bare.length != name.length then ['i', 's', 'c'] else kept

def find? (table : List (List String × List String)) (name : String) : Option CharSet :=
  (table.find? fun entry => entry.1.contains name).map fun entry => decodeRuns entry.2

def categoryGroup (names : List String) : CharSet :=
  CharSet.ofRanges (names.flatMap fun name => (find? categories name).getD [])

def categoryGroups : List (List String × List String) := [
  (["l", "letter"], ["lu", "ll", "lt", "lm", "lo"]),
  (["lc", "casedletter"], ["lu", "ll", "lt"]),
  (["m", "mark", "combiningmark"], ["mn", "mc", "me"]),
  (["n", "number"], ["nd", "nl", "no"]),
  (["p", "punctuation", "punct"], ["pc", "pd", "ps", "pe", "pi", "pf", "po"]),
  (["s", "symbol"], ["sm", "sc", "sk", "so"]),
  (["z", "separator"], ["zs", "zl", "zp"])]

/--
The code points that are not surrogates and have no category.
-/
def unassigned : CharSet :=
  CharSet.complement (CharSet.union [(0xD800, 0xDFFF)]
    (CharSet.ofRanges (categories.flatMap fun entry => decodeRuns entry.2)))

def category? (name : String) : Option CharSet :=
  if name == "any" then some CharSet.full
  else if name == "ascii" then some [(0, 127)]
  else if name == "assigned" then some unassigned.complement
  else if ["cn", "unassigned"].contains name then some unassigned
  else if ["c", "other"].contains name then
    some (unassigned.union (categoryGroup ["cc", "cf", "co"]))
  else if ["nd", "decimalnumber", "digit"].contains name then some digit
  else match categoryGroups.find? fun entry => entry.1.contains name with
    | some entry => some (categoryGroup entry.2)
    | none => find? categories name

def script? (name : String) : Option CharSet := find? scripts name

def scriptExtension? (name : String) : Option CharSet :=
  match find? scriptExtensions name with
  | some set => some set
  | none => script? name

/--
The set with a single name: a property that code points have or lack, else a category, else a
script. The names `cf`, `sc` and `lc` are categories only.
-/
def named? (name : List Char) : Option CharSet :=
  let name := String.ofList (looseName name)
  let binary := if ["cf", "sc", "lc"].contains name then none else find? binaryProperties name
  match binary with
  | some set => some set
  | none =>
    match category? name with
    | some set => some set
    | none => script? name

/--
The code points that had been assigned by a version of the standard.
-/
def age? (name : String) : Option CharSet :=
  (ages.findIdx? fun entry => entry.1.contains name).map fun i =>
    CharSet.ofRanges ((ages.take (i + 1)).flatMap fun entry => decodeRuns entry.2)

def valued? (property value : List Char) : Option CharSet :=
  let property := String.ofList (looseName property)
  let value := String.ofList (looseName value)
  if ["gc", "generalcategory"].contains property then category? value
  else if ["sc", "script"].contains property then script? value
  else if ["scx", "scriptextensions"].contains property then scriptExtension? value
  else if property == "age" then age? value
  else if ["gcb", "graphemeclusterbreak"].contains property then find? graphemeBreaks value
  else if ["wb", "wordbreak"].contains property then find? wordBreaks value
  else if ["sb", "sentencebreak"].contains property then find? sentenceBreaks value
  else none

end PiiScan.Unicode
