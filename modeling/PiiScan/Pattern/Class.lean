import PiiScan.Pattern.Basic
import PiiScan.Text
import PiiScan.Unicode.Blank
import PiiScan.Unicode.CaseFold
import PiiScan.Unicode.Digit
import PiiScan.Unicode.Property

/-!
This module contains the named sets of code points that patterns can use, and the flags that change
what a pattern means.
-/

namespace PiiScan

structure PatternFlags where
  ignoreCase : Bool := false
  multiLine : Bool := false
  dotMatchesLineEnd : Bool := false
  swapGreed : Bool := false
  unicode : Bool := true
  anyLineEnd : Bool := false
  verbose : Bool := false

namespace PatternFlags

def set? (flags : PatternFlags) (letter : Char) (value : Bool) : Option PatternFlags :=
  match letter with
  | 'i' => some { flags with ignoreCase := value }
  | 'm' => some { flags with multiLine := value }
  | 's' => some { flags with dotMatchesLineEnd := value }
  | 'U' => some { flags with swapGreed := value }
  | 'u' => some { flags with unicode := value }
  | 'R' => some { flags with anyLineEnd := value }
  | 'x' => some { flags with verbose := value }
  | _ => none

def fold (flags : PatternFlags) (set : CharSet) : CharSet :=
  if !flags.ignoreCase then set
  else if flags.unicode then Unicode.foldCase set
  else Unicode.foldAsciiCase set

def foldAndNegate (flags : PatternFlags) (negated : Bool) (set : CharSet) : CharSet :=
  if negated then (flags.fold set).complement else flags.fold set

/--
A set that a pattern may use: without Unicode only ASCII may be matched.
-/
def allow? (flags : PatternFlags) (set : CharSet) : Option CharSet :=
  if flags.unicode || set.isAscii then some set else none

def wordKind (flags : PatternFlags) : WordKind :=
  if flags.unicode then .unicode else .ascii

end PatternFlags

namespace CharSet

def asciiDigit : CharSet := [(0x30, 0x39)]

def asciiBlank : CharSet := [(0x09, 0x0D), (0x20, 0x20)]

def shorthand? (flags : PatternFlags) (letter : Char) : Option CharSet :=
  let set? := match letter with
    | 'd' | 'D' => some (if flags.unicode then Unicode.digit else asciiDigit)
    | 's' | 'S' => some (if flags.unicode then Unicode.blank else asciiBlank)
    | 'w' | 'W' => some flags.wordKind.set
    | _ => none
  set?.bind fun set => flags.allow? (if letter.isUpper then set.complement else set)

def asciiClass? (name : List Char) : Option CharSet :=
  match String.ofList name with
  | "alnum" => some [(0x30, 0x39), (0x41, 0x5A), (0x61, 0x7A)]
  | "alpha" => some [(0x41, 0x5A), (0x61, 0x7A)]
  | "ascii" => some [(0, 0x7F)]
  | "blank" => some [(0x09, 0x09), (0x20, 0x20)]
  | "cntrl" => some [(0, 0x1F), (0x7F, 0x7F)]
  | "digit" => some asciiDigit
  | "graph" => some [(0x21, 0x7E)]
  | "lower" => some [(0x61, 0x7A)]
  | "print" => some [(0x20, 0x7E)]
  | "punct" => some [(0x21, 0x2F), (0x3A, 0x40), (0x5B, 0x60), (0x7B, 0x7E)]
  | "space" => some asciiBlank
  | "upper" => some [(0x41, 0x5A)]
  | "word" => some WordKind.asciiWord
  | "xdigit" => some [(0x30, 0x39), (0x41, 0x46), (0x61, 0x66)]
  | _ => none

def property? (name : List Char) : Option CharSet :=
  match Text.splitAt? ['!', '='] name, Text.splitAt? [':'] name, Text.splitAt? ['='] name with
  | some (property, value), _, _ => Unicode.valued? property value
  | none, some (property, value), _ => Unicode.valued? property value
  | none, none, some (property, value) => Unicode.valued? property value
  | none, none, none => Unicode.named? name

def dot? (flags : PatternFlags) : Option CharSet :=
  if !flags.unicode then none
  else if flags.dotMatchesLineEnd then some full
  else if flags.anyLineEnd then some (complement [(0x0A, 0x0A), (0x0D, 0x0D)])
  else some (complement [(0x0A, 0x0A)])

end CharSet
end PiiScan
