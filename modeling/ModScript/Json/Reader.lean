import ModScript.Binary64.Decimal
import ModScript.Tree

/-!
# Reading data text

Reads JSON text into a document tree. The grammar is strict: no comments, no comma after the last
element, nothing after the value but blanks. A value that cannot be represented does not end the
reading; it is left as a damaged part of the tree: a number too large, a lone surrogate, and arrays
and objects nested more than 127 deep.
-/

namespace ModScript.Json

def isSpace (c : Char) : Bool := c == ' ' || c == '\n' || c == '\t' || c == '\r'

def skipSpaces (cs : List Char) : List Char := cs.dropWhile isSpace

def isDigit (c : Char) : Bool := '0' ≤ c && c ≤ '9'

/-- The number that decimal digits stand for. -/
def digitsValue (digits : List Char) : Nat :=
  digits.foldl (fun n c => 10 * n + (c.toNat - '0'.toNat)) 0

/-- The value of a hexadecimal digit of either case. -/
def hexValue? (c : Char) : Option Nat :=
  if '0' ≤ c ∧ c ≤ '9' then some (c.toNat - '0'.toNat)
  else if 'a' ≤ c ∧ c ≤ 'f' then some (c.toNat - 'a'.toNat + 10)
  else if 'A' ≤ c ∧ c ≤ 'F' then some (c.toNat - 'A'.toNat + 10)
  else none

/-! ## Strings -/

/-- The number of a four-digit escape. -/
def fourHex? (a b c d : Char) : Option Nat :=
  match hexValue? a, hexValue? b, hexValue? c, hexValue? d with
  | some a, some b, some c, some d => some (4096 * a + 256 * b + 16 * c + d)
  | _, _, _, _ => none

/-- The character of a one-letter escape. -/
def shortEscape? : Char → Option Char
  | '"' => some '"'
  | '\\' => some '\\'
  | '/' => some '/'
  | 'b' => some '\x08'
  | 'f' => some '\x0c'
  | 'n' => some '\n'
  | 'r' => some '\r'
  | 't' => some '\t'
  | _ => none

def isHighSurrogate (n : Nat) : Bool := 0xD800 ≤ n && n < 0xDC00

def isLowSurrogate (n : Nat) : Bool := 0xDC00 ≤ n && n < 0xE000

/-- The character of a surrogate pair. -/
def pairChar (high low : Nat) : Char :=
  Char.ofNat (0x10000 + 0x400 * (high - 0xD800) + (low - 0xDC00))

/-- The part of a string read so far: its characters, the last one first, and a high surrogate that
waits for its partner. A surrogate without partner makes the string unsound. -/
structure PartialString where
  chars : List Char
  high : Option Nat
  sound : Bool
deriving DecidableEq, Repr

namespace PartialString

def empty : PartialString := ⟨[], none, true⟩

/-- Adds a character. -/
def add (p : PartialString) (c : Char) : PartialString :=
  ⟨c :: p.chars, none, p.sound && p.high.isNone⟩

/-- Adds the number of an escape, which may be one half of a surrogate pair. -/
def addUnit (p : PartialString) (n : Nat) : PartialString :=
  if isHighSurrogate n then ⟨p.chars, some n, p.sound && p.high.isNone⟩
  else if isLowSurrogate n then
    match p.high with
    | some high => ⟨pairChar high n :: p.chars, none, p.sound⟩
    | none => ⟨p.chars, none, false⟩
  else p.add (Char.ofNat n)

/-- The string, unless it is unsound. -/
def finish? (p : PartialString) : Option String :=
  if p.sound && p.high.isNone then some (String.ofList p.chars.reverse) else none

end PartialString

/-- A string from behind its opening quote on, and what follows it; the string itself is missing when
it is unsound. -/
def stringRest? (read : PartialString) : List Char → Option (Option String × List Char)
  | [] => none
  | '"' :: rest => some (read.finish?, rest)
  | '\\' :: 'u' :: a :: b :: c :: d :: rest =>
    match fourHex? a b c d with
    | none => none
    | some n => stringRest? (read.addUnit n) rest
  | '\\' :: c :: rest =>
    match shortEscape? c with
    | none => none
    | some e => stringRest? (read.add e) rest
  | c :: rest => if c.toNat < 0x20 ∨ c = '\\' then none else stringRest? (read.add c) rest

def stringTree : Option String → Tree
  | some s => .text s
  | none => .damaged

/-! ## Numbers -/

/-- A number as it is written. -/
structure NumberText where
  negative : Bool
  whole : List Char
  fraction : List Char
  exponent : Option Int
deriving DecidableEq, Repr

/-- Digits at the front, at least one. -/
def digits? (cs : List Char) : Option (List Char × List Char) :=
  match cs.takeWhile isDigit with
  | [] => none
  | digits => some (digits, cs.dropWhile isDigit)

/-- The digits before the point: a zero alone, or digits that start with no zero. -/
def wholeDigits? (cs : List Char) : Option (List Char × List Char) :=
  match digits? cs with
  | some ('0' :: _ :: _, _) => none
  | found => found

/-- The digits behind a point, if there is a point. -/
def fractionDigits? : List Char → Option (List Char × List Char)
  | '.' :: rest => digits? rest
  | rest => some ([], rest)

/-- The exponent, if there is one. -/
def exponentPart? : List Char → Option (Option Int × List Char)
  | c :: rest =>
    if c = 'e' ∨ c = 'E' then
      let (negative, rest) : Bool × List Char :=
        match rest with
        | '-' :: rest => (true, rest)
        | '+' :: rest => (false, rest)
        | rest => (false, rest)
      (digits? rest).map fun (digits, rest) =>
        let n : Int := digitsValue digits
        (some (if negative then -n else n), rest)
    else some (none, c :: rest)
  | [] => some (none, [])

/-- A number at the front. -/
def numberText? (cs : List Char) : Option (NumberText × List Char) :=
  let (negative, cs) : Bool × List Char :=
    match cs with
    | '-' :: rest => (true, rest)
    | cs => (false, cs)
  match wholeDigits? cs with
  | none => none
  | some (whole, cs) =>
    match fractionDigits? cs with
    | none => none
    | some (fraction, cs) =>
      match exponentPart? cs with
      | none => none
      | some (exponent, cs) => some (⟨negative, whole, fraction, exponent⟩, cs)

/-- The floating point number that is meant. -/
def NumberText.real (n : NumberText) : Binary64 :=
  .ofDecimal n.negative
    ⟨digitsValue (n.whole ++ n.fraction), n.exponent.getD 0 - n.fraction.length⟩

/-- The number that is meant: a whole number without fraction and exponent stays one if 64 bits hold
it, but a negative zero is a floating point number. -/
def NumberText.number? (n : NumberText) : Option Number :=
  let real := Number.real? n.real
  if n.fraction = [] ∧ n.exponent = none then
    let magnitude := digitsValue n.whole
    if n.negative ∧ magnitude = 0 then real
    else (Number.whole? (if n.negative then -magnitude else magnitude)).or real
  else real

def numberTree (n : NumberText) : Tree :=
  match n.number? with
  | some value => .number value
  | none => .damaged

/-! ## Values -/

/-- An array or object when `room` levels of nesting are left. -/
def nested (room : Nat) (t : Tree) : Tree := if room = 0 then .damaged else t

mutual

/-- A value at the front, behind blanks. Every step takes one from `fuel`. -/
def value? (fuel room : Nat) (cs : List Char) : Option (Tree × List Char) :=
  match fuel with
  | 0 => none
  | fuel + 1 =>
    match skipSpaces cs with
    | 'n' :: 'u' :: 'l' :: 'l' :: rest => some (.null, rest)
    | 't' :: 'r' :: 'u' :: 'e' :: rest => some (.bool true, rest)
    | 'f' :: 'a' :: 'l' :: 's' :: 'e' :: rest => some (.bool false, rest)
    | '"' :: rest => (stringRest? .empty rest).map fun (s, rest) => (stringTree s, rest)
    | '[' :: rest =>
      match skipSpaces rest with
      | ']' :: rest => some (nested room (.list []), rest)
      | rest => (items? fuel (room - 1) [] rest).map fun (items, rest) =>
          (nested room (.list items), rest)
    | '\x7b' :: rest =>
      match skipSpaces rest with
      | '\x7d' :: rest => some (nested room (.table []), rest)
      | rest => (members? fuel (room - 1) (some []) rest).map fun (members, rest) =>
          match members with
          | some members => (nested room (.table members), rest)
          | none => (.damaged, rest)
    | cs => (numberText? cs).map fun (n, rest) => (numberTree n, rest)

/-- The items of an array up to its end; `read` holds those before, the last one first. -/
def items? (fuel room : Nat) (read : List Tree) (cs : List Char) :
    Option (List Tree × List Char) :=
  match fuel with
  | 0 => none
  | fuel + 1 =>
    match value? fuel room cs with
    | none => none
    | some (item, rest) =>
      match skipSpaces rest with
      | ',' :: rest => items? fuel room (item :: read) rest
      | ']' :: rest => some ((item :: read).reverse, rest)
      | _ => none

/-- The members of an object up to its end, or nothing if one of the names is damaged. -/
def members? (fuel room : Nat) (read : Option (List (String × Tree))) (cs : List Char) :
    Option (Option (List (String × Tree)) × List Char) :=
  match fuel with
  | 0 => none
  | fuel + 1 =>
    match skipSpaces cs with
    | '"' :: rest =>
      match stringRest? .empty rest with
      | none => none
      | some (key, rest) =>
        match skipSpaces rest with
        | ':' :: rest =>
          match value? fuel room rest with
          | none => none
          | some (value, rest) =>
            let read :=
              match read, key with
              | some read, some key => some ((key, value) :: read)
              | _, _ => none
            match skipSpaces rest with
            | ',' :: rest => members? fuel room read rest
            | '\x7d' :: rest => some (read.map List.reverse, rest)
            | _ => none
        | _ => none
    | _ => none

end

/-- How deep arrays and objects may be nested. -/
def depthLimit : Nat := 127

/-- The tree of a text that holds one value and nothing else. -/
def readChars? (cs : List Char) : Option Tree :=
  match value? (2 * cs.length + 2) depthLimit cs with
  | some (t, rest) => if (skipSpaces rest).isEmpty then some t else none
  | none => none

/-- The tree of a text that holds one value and nothing else. -/
def read? (s : String) : Option Tree := readChars? s.toList

/-- The data value of a text. -/
def parse? (s : String) : Option Json := (read? s).bind Tree.toJson?

end ModScript.Json
