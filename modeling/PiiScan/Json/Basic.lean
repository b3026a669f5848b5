import PiiScan.Score.Basic
import PiiScan.Text

/-!
This module contains structured values: what JSON documents and configuration files hold.
-/

namespace PiiScan

/--
A structured value. The members of an object keep their order and may repeat a name. A name that
cannot be used, for instance because it has half of a surrogate pair, is `none`.
-/
inductive Json where
  | null
  | bool (value : Bool)
  | natural (value : Nat)
  | negative (value : Nat)
  | real (value : Score)
  | string (value : Text)
  | array (items : List Json)
  | object (members : List (Option Text × Json))
  /--
  A value that can be skipped but not used: a number out of range or a text that is no text.
  -/
  | unusable

namespace Json

mutual

def depth : Json → Nat
  | .array items => itemsDepth items + 1
  | .object members => membersDepth members + 1
  | _ => 0

def itemsDepth : List Json → Nat
  | [] => 0
  | item :: items => max item.depth (itemsDepth items)

def membersDepth : List (Option Text × Json) → Nat
  | [] => 0
  | (_, value) :: members => max value.depth (membersDepth members)

end

mutual

def isUsable : Json → Bool
  | .array items => itemsUsable items
  | .object members => membersUsable members
  | .unusable => false
  | _ => true

def itemsUsable : List Json → Bool
  | [] => true
  | item :: items => item.isUsable && itemsUsable items

def membersUsable : List (Option Text × Json) → Bool
  | [] => true
  | (name, value) :: members => name.isSome && value.isUsable && membersUsable members

end

def member (name : String) (value : Json) : Option Text × Json := (some name.toList, value)

def ofString (s : String) : Json := .string s.toList

def ofOption {α : Type} (f : α → Json) : Option α → Json
  | some a => f a
  | none => .null

end Json
end PiiScan
