import PiiScan.Hcl.Expression

/-!
This module contains the reader of configuration files in HCL and the structured value that a file
stands for. A body is a sequence of attributes and blocks, with each attribute given once. A block
is a member that is an object, its labels are the names of nested objects, and blocks of one name
are gathered in a list.
-/

namespace PiiScan.Hcl

inductive Node where
  | value (json : Json)
  | blocks (bodies : List Json)
  | labelled (members : List (Text × Node))

namespace Node

mutual

/--
The structured value of a node. A single block is an object and not a list.
-/
def toJson : Node → Json
  | .value json => json
  | .blocks [body] => body
  | .blocks bodies => .array bodies
  | .labelled members => .object (membersToJson members)

def membersToJson : List (Text × Node) → List (Option Text × Json)
  | [] => []
  | (name, node) :: members => (some name, node.toJson) :: membersToJson members

end

mutual

/--
A node with what its name stands for later on. Labels are merged and blocks are gathered; else the
later one counts alone.
-/
def merge (old : Node) : Node → Node
  | .labelled members =>
    match old with
    | .labelled before => .labelled (mergeMembers before members)
    | _ => .labelled members
  | .blocks bodies =>
    match old with
    | .blocks before => .blocks (before ++ bodies)
    | _ => .blocks bodies
  | .value json => .value json

def mergeMembers (before : List (Text × Node)) : List (Text × Node) → List (Text × Node)
  | [] => before
  | (name, node) :: members =>
    match before.lookup name with
    | some old =>
      let merged := old.merge node
      mergeMembers (before.map fun m => if m.1 = name then (name, merged) else m) members
    | none => mergeMembers (before ++ [(name, node)]) members

end

def ofBlock (body : Json) : List Text → Node
  | [] => .blocks [body]
  | label :: labels => .labelled [(label, ofBlock body labels)]

end Node

def attributeNames (members : List (Text × Node)) : List Text :=
  members.filterMap fun
    | (name, .value _) => some name
    | _ => none

/--
The structured value of a body, in which no attribute may be given twice.
-/
def bodyToJson? (members : List (Text × Node)) : Option Json :=
  if (attributeNames members).Nodup then
    some (.object (Node.membersToJson (Node.mergeMembers [] members)))
  else none

def readLabels : Nat → Text → Option (List Text × Text)
  | 0, _ => none
  | fuel + 1, text =>
    match skip false text with
    | '{' :: rest => some ([], rest)
    | '"' :: rest =>
      match readQuoted (rest.length + 1) rest with
      | some (pieces, rest) =>
        match Piece.plain? pieces, readLabels fuel rest with
        | some label, some (labels, rest) => some (label :: labels, rest)
        | _, _ => none
      | none => none
    | rest =>
      match takeIdentifier? rest with
      | some (label, rest) =>
        (readLabels fuel rest).map fun (labels, rest) => (label :: labels, rest)
      | none => none

def readAttribute (text : Text) : Option (Node × Text) :=
  (readExpression (4 * text.length + 4) false text).map fun (term, rest) =>
    (.value term.value, rest)

def readInlineBody (text : Text) : Option (Json × Text) :=
  match skip false text with
  | '}' :: rest => some (.object [], rest)
  | text =>
    match takeIdentifier? text with
    | none => none
    | some (name, rest) =>
      match skip false rest with
      | '=' :: rest =>
        match readAttribute rest with
        | none => none
        | some (node, rest) =>
          match skip false rest with
          | '}' :: rest => (bodyToJson? [(name, node)]).map fun body => (body, rest)
          | _ => none
      | _ => none

mutual

/--
The attributes and blocks up to the end of a body, and the rest. A nested body ends with a closing
brace, the outer one with the text. The fuel bounds the number of attributes and blocks.
-/
def readBody (fuel : Nat) (nested : Bool) (text : Text) : Option (List (Text × Node) × Text) :=
  match fuel with
  | 0 => none
  | fuel + 1 =>
    match skip true text with
    | [] => if nested then none else some ([], [])
    | '}' :: rest => if nested then some ([], rest) else none
    | text =>
      match readStructure fuel text with
      | none => none
      | some (member, rest) =>
        match endLine? rest with
        | none => none
        | some rest =>
          (readBody fuel nested rest).map fun (members, rest) => (member :: members, rest)

def readStructure (fuel : Nat) (text : Text) : Option ((Text × Node) × Text) :=
  match fuel with
  | 0 => none
  | fuel + 1 =>
    match takeIdentifier? text with
    | none => none
    | some (name, rest) =>
      match skip false rest with
      | '=' :: rest => (readAttribute rest).map fun (node, rest) => ((name, node), rest)
      | rest =>
        match readLabels (rest.length + 1) rest with
        | none => none
        | some (labels, rest) =>
          match endLine? rest with
          | some _ =>
            match readBody fuel true rest with
            | none => none
            | some (members, rest) =>
              (bodyToJson? members).map fun body => ((name, .ofBlock body labels), rest)
          | none =>
            (readInlineBody rest).map fun (body, rest) => ((name, .ofBlock body labels), rest)

end

def ofText? (text : Text) : Option Json :=
  (readBody (2 * text.length + 2) false text).bind fun (members, _) => bodyToJson? members

end PiiScan.Hcl
