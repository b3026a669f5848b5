import PiiScan.Json.Basic
import PiiScan.Score.Shortest

/-!
This module contains the printer of JSON documents, on a single line or with every member and item
on a line of its own.
-/

namespace PiiScan.Json

def escapeChar (c : Char) : List Char :=
  match c with
  | '"' => ['\\', '"']
  | '\\' => ['\\', '\\']
  | '\x08' => ['\\', 'b']
  | '\x0C' => ['\\', 'f']
  | '\n' => ['\\', 'n']
  | '\r' => ['\\', 'r']
  | '\t' => ['\\', 't']
  | c =>
    if c.toNat < 0x20 then
      ['\\', 'u', '0', '0', Nat.digitChar (c.toNat / 16), Nat.digitChar (c.toNat % 16)]
    else [c]

def quote (text : Text) : List Char := '"' :: (text.flatMap escapeChar ++ ['"'])

def printScalar : Json → List Char
  | .bool true => "true".toList
  | .bool false => "false".toList
  | .natural n => Nat.toDigits 10 n
  | .negative n => '-' :: Nat.toDigits 10 n
  | .real s => if s.isNaN || s.isInfinite then "null".toList else s.compact
  | .string value => quote value
  | _ => "null".toList

mutual

def printCompact : Json → List Char
  | .array items => '[' :: (printItemsCompact items ++ [']'])
  | .object members => '{' :: (printMembersCompact members ++ ['}'])
  | value => printScalar value

def printItemsCompact : List Json → List Char
  | [] => []
  | [item] => item.printCompact
  | item :: items => item.printCompact ++ ',' :: printItemsCompact items

def printMembersCompact : List (Option Text × Json) → List Char
  | [] => []
  | [(name, value)] => quote (name.getD []) ++ ':' :: value.printCompact
  | (name, value) :: members =>
    quote (name.getD []) ++ ':' :: (value.printCompact ++ ',' :: printMembersCompact members)

end

def newLine (level : Nat) : List Char := '\n' :: List.replicate (2 * level) ' '

mutual

def printPretty (level : Nat) : Json → List Char
  | .array [] => ['[', ']']
  | .array (item :: items) =>
    '[' :: (newLine (level + 1) ++ item.printPretty (level + 1) ++
      printItemsPretty level items ++ newLine level ++ [']'])
  | .object [] => ['{', '}']
  | .object ((name, value) :: members) =>
    '{' :: (newLine (level + 1) ++ quote (name.getD []) ++ ':' :: ' ' ::
      (value.printPretty (level + 1) ++ printMembersPretty level members ++ newLine level ++ ['}']))
  | value => printScalar value

def printItemsPretty (level : Nat) : List Json → List Char
  | [] => []
  | item :: items =>
    ',' :: (newLine (level + 1) ++ item.printPretty (level + 1) ++ printItemsPretty level items)

def printMembersPretty (level : Nat) : List (Option Text × Json) → List Char
  | [] => []
  | (name, value) :: members =>
    ',' :: (newLine (level + 1) ++ quote (name.getD []) ++ ':' :: ' ' ::
      (value.printPretty (level + 1) ++ printMembersPretty level members))

end

def pretty (value : Json) : List Char := value.printPretty 0

def compact (value : Json) : List Char := value.printCompact

end PiiScan.Json
