import PiiScan.Json.Record
import PiiScan.Score.Shortest

/-!
This module contains what an expression in HCL stands for. Expressions are not evaluated: a literal
is its value, and any other expression is a text that holds its source in `${…}`. The source is kept
with uniform spacing.
-/

namespace PiiScan.Hcl

def openInterpolation : Text := ['$', '{']

def openDirective : Text := ['%', '{']

def escapeMarkers : Text → Text
  | '$' :: '{' :: rest => '$' :: '$' :: '{' :: escapeMarkers rest
  | '%' :: '{' :: rest => '%' :: '%' :: '{' :: escapeMarkers rest
  | c :: rest => c :: escapeMarkers rest
  | [] => []

def escapeChar : Char → Text
  | '"' => ['\\', '"']
  | '\\' => ['\\', '\\']
  | '\n' => ['\\', 'n']
  | '\r' => ['\\', 'r']
  | '\t' => ['\\', 't']
  | '\x08' => ['\\', 'b']
  | '\x0C' => ['\\', 'f']
  | c => [c]

def quote (text : Text) : Text := '"' :: (text.flatMap escapeChar ++ ['"'])

def join (separator : Text) (texts : List Text) : Text := separator.intercalate texts

def sourceOfScalar : Json → Text
  | .bool true => "true".toList
  | .bool false => "false".toList
  | .natural n => Nat.toDigits 10 n
  | .negative n => '-' :: Nat.toDigits 10 n
  | .real s => s.compact
  | .string value => quote (escapeMarkers value)
  | _ => "null".toList

mutual

def sourceOf : Json → Text
  | .array items => '[' :: (sourceOfItems items ++ [']'])
  | .object [] => ['{', '}']
  | .object members => '{' :: ' ' :: (sourceOfMembers members ++ [' ', '}'])
  | value => sourceOfScalar value

def sourceOfItems : List Json → Text
  | [] => []
  | [item] => sourceOf item
  | item :: items => sourceOf item ++ ',' :: ' ' :: sourceOfItems items

def sourceOfMembers : List (Option Text × Json) → Text
  | [] => []
  | [(name, value)] => quote (name.getD []) ++ " = ".toList ++ sourceOf value
  | (name, value) :: members =>
    quote (name.getD []) ++ " = ".toList ++ sourceOf value ++ ',' :: ' ' :: sourceOfMembers members

end

/--
An expression: the value that it stands for, and its source.
-/
structure Term where
  value : Json
  source : Text

namespace Term

def literal (value : Json) : Term := ⟨value, sourceOf value⟩

def unevaluated (source : Text) : Term := ⟨.string (openInterpolation ++ source ++ ['}']), source⟩

def template (text : Text) : Term := ⟨.string text, quote text⟩

def array (items : List Term) : Term :=
  ⟨.array (items.map Term.value), '[' :: (join [',', ' '] (items.map Term.source) ++ [']'])⟩

end Term

/--
A member of an object: the source of its name, the name if it can be used, and the term.
-/
structure Member where
  nameSource : Text
  name : Option Text
  term : Term

namespace Member

/--
Members of a structured value. The last of several members with names that are written alike counts;
a name in quotes and the same one without are two.
-/
def toMembers : List Member → List (Option Text × Json)
  | [] => []
  | m :: ms =>
    if ms.any (fun other => other.nameSource == m.nameSource) then toMembers ms
    else (m.name, m.term.value) :: toMembers ms

def source (m : Member) : Text := m.nameSource ++ " = ".toList ++ m.term.source

end Member

def Term.object (members : List Member) : Term :=
  ⟨.object (Member.toMembers members),
    if members.isEmpty then ['{', '}']
    else '{' :: ' ' :: (join [',', ' '] (members.map Member.source) ++ [' ', '}'])⟩

/--
The choices of HCL: where a text is wanted, any value counts as one.
-/
def dialect : Json.Dialect where
  text?
    | .string value => some value
    | value => some (openInterpolation ++ sourceOf value ++ ['}'])
  maxDepth := none
  numbersVariants := true

end PiiScan.Hcl
