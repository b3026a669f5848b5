/-!
This module contains the texts that are scanned: sequences of code points that are addressed by the
byte offsets of their UTF-8 form. An offset is usable when it is a boundary between two code points;
`takeBytes`, `dropBytes` and `slice` cut a text at such offsets.
-/

namespace PiiScan

abbrev Text := List Char

namespace Text

def byteSize : Text → Nat
  | [] => 0
  | c :: cs => c.utf8Size + byteSize cs

/--
An offset is a boundary when a code point starts there or the text ends there.
-/
def isBoundary : Text → Nat → Bool
  | _, 0 => true
  | [], _ + 1 => false
  | c :: cs, n + 1 => decide (c.utf8Size ≤ n + 1) && isBoundary cs (n + 1 - c.utf8Size)

/--
The code points that lie within the first `n` bytes.
-/
def takeBytes (n : Nat) : Text → Text
  | [] => []
  | c :: cs => if c.utf8Size ≤ n then c :: takeBytes (n - c.utf8Size) cs else []

def dropBytes (n : Nat) : Text → Text
  | [] => []
  | c :: cs => if c.utf8Size ≤ n then dropBytes (n - c.utf8Size) cs else c :: cs

def slice (text : Text) (start stop : Nat) : Text :=
  takeBytes (stop - start) (dropBytes start text)

def splice (text : Text) (start stop : Nat) (new : Text) : Text :=
  match text with
  | [] => new
  | c :: cs =>
    if c.utf8Size ≤ start then c :: splice cs (start - c.utf8Size) (stop - c.utf8Size) new
    else new ++ dropBytes stop (c :: cs)

def splitAt? (separator : Text) : Text → Option (Text × Text)
  | [] => none
  | c :: cs =>
    if separator.isPrefixOf (c :: cs) then some ([], (c :: cs).drop separator.length)
    else (splitAt? separator cs).map fun (left, right) => (c :: left, right)

def split (separator : Char) : Text → List Text
  | [] => [[]]
  | c :: cs =>
    match split separator cs with
    | [] => []
    | part :: parts => if c = separator then [] :: part :: parts else (c :: part) :: parts

@[simp]
theorem byteSize_nil : byteSize [] = 0 := rfl

@[simp]
theorem byteSize_cons (c : Char) (cs : Text) : byteSize (c :: cs) = c.utf8Size + byteSize cs := rfl

@[simp]
theorem byteSize_append (a b : Text) : byteSize (a ++ b) = byteSize a + byteSize b := by
  induction a with
  | nil => simp
  | cons c cs ih => simp [ih, Nat.add_assoc]

@[simp]
theorem isBoundary_zero (text : Text) : isBoundary text 0 = true := by
  cases text <;> rfl

theorem takeBytes_append_dropBytes (n : Nat) (text : Text) :
    takeBytes n text ++ dropBytes n text = text := by
  induction text generalizing n with
  | nil => rfl
  | cons c cs ih =>
    by_cases h : c.utf8Size ≤ n
    · simp [takeBytes, dropBytes, h, ih]
    · simp [takeBytes, dropBytes, h]

theorem splice_eq (text new : Text) {start stop : Nat} (h : start ≤ stop) :
    splice text start stop new = takeBytes start text ++ (new ++ dropBytes stop text) := by
  induction text generalizing start stop with
  | nil => simp [splice, takeBytes, dropBytes]
  | cons c cs ih =>
    by_cases fits : c.utf8Size ≤ start
    · have := @ih (start - c.utf8Size) (stop - c.utf8Size) (by omega)
      simp [splice, takeBytes, dropBytes, fits, Nat.le_trans fits h, this]
    · simp [splice, takeBytes, fits]

/--
Reads bytes as UTF-8; `none` when they are not well formed.
-/
def ofUtf8? (bytes : List UInt8) : Option Text :=
  (String.fromUTF8? ⟨bytes.toArray⟩).map String.toList

def toUtf8 (text : Text) : List UInt8 :=
  (String.ofList text).toUTF8.toList

end Text
end PiiScan
