import PiiScan.Hcl.Lexical
import PiiScan.Hcl.Term
import PiiScan.Unicode.Blank

/-!
This module contains the reader of expressions in HCL.
-/

namespace PiiScan.Hcl

inductive Piece where
  | char (c : Char)
  | code (source : Text)

namespace Piece

def plain? (pieces : List Piece) : Option Text :=
  pieces.mapM fun
    | .char c => some c
    | .code _ => none

/--
The text of pieces that have code between them: markers in the characters are escaped.
-/
def textOf (pieces : List Piece) : Text := go [] pieces
where
  /--
  `run` is the run of characters before, in reverse.
  -/
  go (run : Text) : List Piece → Text
    | [] => escapeMarkers run.reverse
    | .char c :: rest => go (c :: run) rest
    | .code source :: rest => escapeMarkers run.reverse ++ source ++ go [] rest

def toTerm (pieces : List Piece) : Term :=
  match plain? pieces with
  | some text => .literal (.string text)
  | none => .template (textOf pieces)

end Piece

def linesOf (text : Text) : List Text := go [] text
where
  go (line : Text) : Text → List Text
    | [] => if line.isEmpty then [] else [line.reverse]
    | '\n' :: rest => ('\n' :: line).reverse :: go [] rest
    | c :: rest => go (c :: line) rest

def withoutLineEnd (line : Text) : Text :=
  match line.reverse with
  | '\n' :: '\r' :: rest => rest.reverse
  | '\n' :: rest => rest.reverse
  | _ => line

/--
The lines with the white space at their starts that all of them have in common left out. Empty lines
do not count.
-/
def dedent (lines : List Text) : List Text :=
  let widths := (lines.filter fun line => !(withoutLineEnd line).isEmpty).map fun line =>
    ((withoutLineEnd line).takeWhile Unicode.isBlank).length
  match widths.min? with
  | none => lines
  | some width => lines.map fun line =>
    if (withoutLineEnd line).isEmpty then line else line.drop width

def takeHeredocLines? (delimiter : Text) : List Text → Option (List Text × Text)
  | [] => none
  | line :: lines =>
    let bare := line.dropWhile (isBlank false)
    if delimiter.isPrefixOf bare && withoutLineEnd bare == delimiter then
      some ([], bare.drop delimiter.length ++ lines.flatten)
    else (takeHeredocLines? delimiter lines).map fun (content, rest) => (line :: content, rest)

def binaryOperators : List Text := [
  ['=', '='], ['!', '='], ['<', '='], ['>', '='], ['&', '&'], ['|', '|'],
  ['<'], ['>'], ['+'], ['-'], ['*'], ['/'], ['%']]

def takeOperator? (text : Text) : Option (Text × Text) :=
  if (dropComment? true text).isSome then none
  else (binaryOperators.find? fun op => op.isPrefixOf text).map fun op => (op, text.drop op.length)

def dropWord? (word : String) (text : Text) : Option Text :=
  match takeIdentifier? text with
  | some (name, rest) => if name = word.toList then some rest else none
  | none => none

def takeStrip : Text → Text × Text
  | '~' :: rest => (['~'], rest)
  | rest => ([], rest)

def takeClose? : Text → Option (Text × Text)
  | '}' :: rest => some (['}'], rest)
  | '~' :: '}' :: rest => some (['~', '}'], rest)
  | _ => none

mutual

/--
The expression at the start of a text, and the rest. With `lines`, the expression may go on after a
line end. The fuel bounds the number of parts and their nesting.
-/
def readExpression (fuel : Nat) (lines : Bool) (text : Text) : Option (Term × Text) :=
  match fuel with
  | 0 => none
  | fuel + 1 =>
    match readOperand fuel lines (skip lines text) with
    | none => none
    | some (left, rest) =>
      let next := skip lines rest
      match takeOperator? next with
      | some (operator, next) =>
        (readExpression fuel lines next).map fun (right, rest) =>
          (.unevaluated (left.source ++ ' ' :: (operator ++ ' ' :: right.source)), rest)
      | none =>
        match next with
        | '?' :: next =>
          match readExpression fuel lines next with
          | none => none
          | some (yes, rest) =>
            match skip lines rest with
            | ':' :: rest =>
              (readExpression fuel lines rest).map fun (no, rest) =>
                (.unevaluated
                  (left.source ++ " ? ".toList ++ yes.source ++ " : ".toList ++ no.source), rest)
            | _ => none
        | _ => some (left, rest)

def readOperand (fuel : Nat) (lines : Bool) (text : Text) : Option (Term × Text) :=
  match fuel with
  | 0 => none
  | fuel + 1 =>
    match text with
    | '-' :: rest =>
      match takeNumber? (skip lines rest) with
      | some (number, rest) => readAccess fuel lines (.literal (negate number)) rest
      | none =>
        (readOperand fuel lines (skip lines rest)).map fun (term, rest) =>
          (.unevaluated ('-' :: term.source), rest)
    | '!' :: rest =>
      (readOperand fuel lines (skip lines rest)).map fun (term, rest) =>
        (.unevaluated ('!' :: term.source), rest)
    | _ =>
      match readPrimary fuel text with
      | some (term, rest) => readAccess fuel lines term rest
      | none => none

def readAccess (fuel : Nat) (lines : Bool) (term : Term) (text : Text) : Option (Term × Text) :=
  match fuel with
  | 0 => none
  | fuel + 1 =>
    match text with
    | '.' :: '*' :: rest => readAccess fuel lines (.unevaluated (term.source ++ ['.', '*'])) rest
    | '.' :: rest =>
      match takeIdentifier? rest with
      | some (name, rest) => readAccess fuel lines (.unevaluated (term.source ++ '.' :: name)) rest
      | none =>
        let digits := rest.takeWhile Char.isDigit
        if digits.isEmpty then some (term, text)
        else
          readAccess fuel lines (.unevaluated (term.source ++ '.' :: digits))
            (rest.dropWhile Char.isDigit)
    | '[' :: '*' :: ']' :: rest =>
      readAccess fuel lines (.unevaluated (term.source ++ ['[', '*', ']'])) rest
    | '[' :: rest =>
      match readExpression fuel true rest with
      | none => none
      | some (index, rest) =>
        match skip true rest with
        | ']' :: rest =>
          readAccess fuel lines (.unevaluated (term.source ++ '[' :: (index.source ++ [']']))) rest
        | _ => none
    | _ => some (term, text)

def readPrimary (fuel : Nat) (text : Text) : Option (Term × Text) :=
  match fuel with
  | 0 => none
  | fuel + 1 =>
    match text with
    | '"' :: rest => (readQuoted fuel rest).map fun (pieces, rest) => (Piece.toTerm pieces, rest)
    | '<' :: '<' :: '-' :: rest => readHeredoc fuel true rest
    | '<' :: '<' :: rest => readHeredoc fuel false rest
    | '[' :: rest =>
      match dropWord? "for" (skip true rest) with
      | some rest => readFor fuel false rest
      | none => (readItems fuel ']' rest).map fun (items, _, rest) => (.array items, rest)
    | '{' :: rest =>
      match dropWord? "for" (skip true rest) with
      | some rest => readFor fuel true rest
      | none => (readMembers fuel rest).map fun (members, rest) => (.object members, rest)
    | '(' :: rest =>
      match readExpression fuel true rest with
      | none => none
      | some (inner, rest) =>
        match skip true rest with
        | ')' :: rest => some (⟨inner.value, '(' :: (inner.source ++ [')'])⟩, rest)
        | _ => none
    | _ =>
      match takeNumber? text with
      | some (number, rest) => some (.literal number, rest)
      | none =>
        match takeIdentifier? text with
        | none => none
        | some (name, rest) =>
          if name = "null".toList then some (.literal .null, rest)
          else if name = "true".toList then some (.literal (.bool true), rest)
          else if name = "false".toList then some (.literal (.bool false), rest)
          else readCall fuel name rest

def readCall (fuel : Nat) (name : Text) (text : Text) : Option (Term × Text) :=
  match fuel with
  | 0 => none
  | fuel + 1 =>
    match skip false text with
    | ':' :: ':' :: rest =>
      match takeIdentifier? (skip false rest) with
      | some (part, rest) => readCall fuel (name ++ ':' :: ':' :: part) rest
      | none => none
    | '(' :: rest =>
      (readItems fuel ')' rest).map fun (arguments, spread, rest) =>
        let dots := if spread then ['.', '.', '.'] else []
        (.unevaluated
          (name ++ '(' :: (join [',', ' '] (arguments.map Term.source) ++ dots ++ [')'])), rest)
    | _ => some (.unevaluated name, text)

/--
Expressions with commas between them, and perhaps after the last, up to a closing bracket. Three
dots before a closing parenthesis spread the last argument of a call.
-/
def readItems (fuel : Nat) (close : Char) (text : Text) : Option (List Term × Bool × Text) :=
  match fuel with
  | 0 => none
  | fuel + 1 =>
    let next := skip true text
    if next.head? = some close then some ([], false, next.drop 1)
    else
      match readExpression fuel true next with
      | none => none
      | some (item, rest) =>
        match skip true rest with
        | ',' :: rest =>
          (readItems fuel close rest).map fun (items, spread, rest) => (item :: items, spread, rest)
        | '.' :: '.' :: '.' :: rest =>
          match skip true rest with
          | ')' :: rest => if close = ')' then some ([item], true, rest) else none
          | _ => none
        | c :: rest => if c = close then some ([item], false, rest) else none
        | [] => none

def readMembers (fuel : Nat) (text : Text) : Option (List Member × Text) :=
  match fuel with
  | 0 => none
  | fuel + 1 =>
    match skip true text with
    | '}' :: rest => some ([], rest)
    | next =>
      match readMember fuel next with
      | none => none
      | some (member, rest) =>
        match skip false rest with
        | '}' :: rest => some ([member], rest)
        | ',' :: rest =>
          (readMembers fuel rest).map fun (members, rest) => (member :: members, rest)
        | rest =>
          match endLine? rest with
          | some rest =>
            (readMembers fuel rest).map fun (members, rest) => (member :: members, rest)
          | none => none

def readMember (fuel : Nat) (text : Text) : Option (Member × Text) :=
  match fuel with
  | 0 => none
  | fuel + 1 =>
    let name : Option (Text × Option Text × Text) :=
      match takeIdentifier? text with
      | some (name, rest) =>
        match skip false rest with
        | '=' :: _ | ':' :: _ => some (name, some name, rest)
        | _ =>
          (readExpression fuel false text).map fun (term, rest) =>
            (term.source, term.value.text?, rest)
      | none =>
        (readExpression fuel false text).map fun (term, rest) =>
          (term.source, term.value.text?, rest)
    match name with
    | none => none
    | some (nameSource, name, rest) =>
      match skip false rest with
      | '=' :: rest | ':' :: rest =>
        (readExpression fuel false (skip true rest)).map fun (term, rest) =>
          (⟨nameSource, name, term⟩, rest)
      | _ => none

def readFor (fuel : Nat) (isObject : Bool) (text : Text) : Option (Term × Text) :=
  match fuel with
  | 0 => none
  | fuel + 1 =>
    match readForHead fuel text with
    | none => none
    | some (head, rest) =>
      match skip true rest with
      | ':' :: rest =>
        match readExpression fuel true rest with
        | none => none
        | some (first, rest) =>
          let body : Option (Text × Text) :=
            if isObject then
              match skip true rest with
              | '=' :: '>' :: rest =>
                (readExpression fuel true rest).map fun (value, rest) =>
                  let (dots, rest) := match skip true rest with
                    | '.' :: '.' :: '.' :: rest => (['.', '.', '.'], rest)
                    | _ => ([], rest)
                  (first.source ++ " => ".toList ++ value.source ++ dots, rest)
              | _ => none
            else some (first.source, rest)
          match body with
          | none => none
          | some (body, rest) =>
            let condition : Option (Text × Text) :=
              match dropWord? "if" (skip true rest) with
              | some rest =>
                (readExpression fuel true rest).map fun (term, rest) =>
                  (" if ".toList ++ term.source, rest)
              | none => some ([], rest)
            match condition with
            | none => none
            | some (condition, rest) =>
              let source := "for ".toList ++ head ++ " : ".toList ++ body ++ condition
              match skip true rest, isObject with
              | '}' :: rest, true => some (.unevaluated ('{' :: (source ++ ['}'])), rest)
              | ']' :: rest, false => some (.unevaluated ('[' :: (source ++ [']'])), rest)
              | _, _ => none
      | _ => none

def readForHead (fuel : Nat) (text : Text) : Option (Text × Text) :=
  match fuel with
  | 0 => none
  | fuel + 1 =>
    match takeIdentifier? (skip true text) with
    | none => none
    | some (name, rest) =>
      let names : Option (Text × Text) :=
        match skip true rest with
        | ',' :: rest =>
          (takeIdentifier? (skip true rest)).map fun (value, rest) =>
            (name ++ ',' :: ' ' :: value, rest)
        | rest => some (name, rest)
      match names with
      | none => none
      | some (names, rest) =>
        match dropWord? "in" (skip true rest) with
        | none => none
        | some rest =>
          (readExpression fuel true rest).map fun (source, rest) =>
            (names ++ " in ".toList ++ source.source, rest)

def readQuoted (fuel : Nat) (text : Text) : Option (List Piece × Text) :=
  match fuel with
  | 0 => none
  | fuel + 1 =>
    match text with
    | [] => none
    | '"' :: rest => some ([], rest)
    | '\\' :: rest =>
      match takeEscape? rest with
      | some (c, rest) => (readQuoted fuel rest).map fun (pieces, rest) => (.char c :: pieces, rest)
      | none => none
    | _ =>
      match readPiece fuel text with
      | some (first, rest) =>
        (readQuoted fuel rest).map fun (pieces, rest) => (first ++ pieces, rest)
      | none => none

def readAll (fuel : Nat) (text : Text) : Option (List Piece) :=
  match fuel with
  | 0 => none
  | fuel + 1 =>
    if text.isEmpty then some []
    else
      match readPiece fuel text with
      | some (first, rest) => (readAll fuel rest).map fun pieces => first ++ pieces
      | none => none

def readPiece (fuel : Nat) (text : Text) : Option (List Piece × Text) :=
  match fuel with
  | 0 => none
  | fuel + 1 =>
    match text with
    | '$' :: '$' :: '{' :: rest => some ([.char '$', .char '{'], rest)
    | '%' :: '%' :: '{' :: rest => some ([.char '%', .char '{'], rest)
    | '$' :: '{' :: rest =>
      let (strip, rest) := takeStrip rest
      match readExpression fuel true rest with
      | none => none
      | some (term, rest) =>
        (takeClose? (skip true rest)).map fun (close, rest) =>
          ([.code (openInterpolation ++ strip ++ term.source ++ close)], rest)
    | '%' :: '{' :: rest =>
      let (strip, rest) := takeStrip rest
      match readDirective fuel (skip true rest) with
      | none => none
      | some (source, rest) =>
        (takeClose? (skip true rest)).map fun (close, rest) =>
          ([.code (openDirective ++ strip ++ ' ' :: (source ++ ' ' :: close))], rest)
    | c :: rest => some ([.char c], rest)
    | [] => none

def readDirective (fuel : Nat) (text : Text) : Option (Text × Text) :=
  match fuel with
  | 0 => none
  | fuel + 1 =>
    match takeIdentifier? text with
    | none => none
    | some (word, rest) =>
      if word = "if".toList then
        (readExpression fuel true rest).map fun (term, rest) => ("if ".toList ++ term.source, rest)
      else if word = "for".toList then
        (readForHead fuel rest).map fun (head, rest) => ("for ".toList ++ head, rest)
      else if ["else".toList, "endif".toList, "endfor".toList].contains word then some (word, rest)
      else none

def readHeredoc (fuel : Nat) (isIndented : Bool) (text : Text) : Option (Term × Text) :=
  match fuel with
  | 0 => none
  | fuel + 1 =>
    match takeIdentifier? text with
    | none => none
    | some (delimiter, rest) =>
      let body : Option Text := match rest with
        | '\n' :: rest => some rest
        | '\r' :: '\n' :: rest => some rest
        | _ => none
      match body.bind fun body => takeHeredocLines? delimiter (linesOf body) with
      | none => none
      | some (lines, rest) =>
        match readAll fuel (if isIndented then dedent lines else lines).flatten with
        | none => none
        | some pieces => some (.template (Piece.textOf pieces), rest)

end
end PiiScan.Hcl
