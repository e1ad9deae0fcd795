import ModScript.Toml.Scalar
import ModScript.Toml.Table

/-!
# Reading configuration text

Reads the lines of TOML text: keys with values, headers of tables and of lists of tables. Strings are
basic or literal, on one line or on several. Arrays may run over lines, tables in place may not.
-/

namespace ModScript.Toml

/-! ## Blanks and line ends -/

def isBlank (c : Char) : Bool := c == ' ' || c == '\t'

def skipBlanks (cs : List Char) : List Char := cs.dropWhile isBlank

/-- Behind a line break at the front. -/
def lineBreak? : List Char → Option (List Char)
  | '\n' :: rest => some rest
  | '\r' :: '\n' :: rest => some rest
  | _ => none

/-- A character that may stand on a line: tabs, but no other control characters. -/
def isLineChar (c : Char) : Bool := c == '\t' || (0x20 ≤ c.toNat && c.toNat != 0x7F)

/-- Behind a comment at the front, if there is one. -/
def skipComment : List Char → List Char
  | '#' :: rest => rest.dropWhile isLineChar
  | cs => cs

/-- Behind the end of a line: blanks, a comment, and the line break or the end of the text. -/
def lineEnd? (cs : List Char) : Option (List Char) :=
  match skipComment (skipBlanks cs) with
  | [] => some []
  | rest => lineBreak? rest

/-- Behind blanks, comments and line breaks; `fuel` bounds the number of lines. -/
def skipLines : Nat → List Char → List Char
  | 0, cs => cs
  | fuel + 1, cs =>
    let rest := skipBlanks cs
    match lineBreak? (skipComment rest) with
    | some later => skipLines fuel later
    | none => rest

/-! ## Strings -/

/-- The character of hexadecimal digits. -/
def charOf? (digits : List Char) : Option Char :=
  let n := valueIn 16 digits
  if digits.all (isDigitIn 16) ∧ n.isValidChar then some (Char.ofNat n) else none

/-- The character of an escape behind its backslash. -/
def escape? : List Char → Option (Char × List Char)
  | 'u' :: a :: b :: c :: d :: rest => (charOf? [a, b, c, d]).map fun e => (e, rest)
  | 'U' :: a :: b :: c :: d :: e :: f :: g :: h :: rest =>
    (charOf? [a, b, c, d, e, f, g, h]).map fun x => (x, rest)
  | 'b' :: rest => some ('\x08', rest)
  | 'f' :: rest => some ('\x0c', rest)
  | 'n' :: rest => some ('\n', rest)
  | 'r' :: rest => some ('\r', rest)
  | 't' :: rest => some ('\t', rest)
  | '"' :: rest => some ('"', rest)
  | '\\' :: rest => some ('\\', rest)
  | _ => none

/-- What kind of string is read: the quote tells whether it has escapes, and it stands on one line or on
several. -/
structure StringKind where
  quote : Char
  several : Bool
deriving DecidableEq, Repr

namespace StringKind

def hasEscapes (kind : StringKind) : Bool := kind.quote == '"'

/-- The quotes at the front, and the rest. -/
def quotes (kind : StringKind) (cs : List Char) : List Char × List Char :=
  cs.span (· == kind.quote)

/-- A string of the kind from behind its opening on. `read` holds the characters before, the last one
first. A string on several lines ends with three quotes, before which there may be one or two more. -/
def rest? (kind : StringKind) : Nat → List Char → List Char → Option (List Char × List Char)
  | 0, _, _ => none
  | _, _, [] => none
  | fuel + 1, read, c :: rest =>
    if c = kind.quote then
      if kind.several then
        let (more, later) := kind.quotes rest
        let count := more.length + 1
        if count < 3 then kind.rest? fuel (List.replicate count c ++ read) later
        else if count ≤ 5 then some ((List.replicate (count - 3) c ++ read).reverse, later)
        else none
      else some (read.reverse, rest)
    else if kind.hasEscapes ∧ c = '\\' then
      match escape? rest with
      | some (e, later) => kind.rest? fuel (e :: read) later
      | none =>
        if kind.several then
          match lineBreak? (skipBlanks rest) with
          | some later => kind.rest? fuel read (afterBreak fuel later)
          | none => none
        else none
    else if isLineChar c then kind.rest? fuel (c :: read) rest
    else if kind.several then
      match lineBreak? (c :: rest) with
      | some later => kind.rest? fuel ('\n' :: read) later
      | none => none
    else none
where
  /-- Behind more blanks and line breaks. -/
  afterBreak : Nat → List Char → List Char
    | 0, cs => cs
    | fuel + 1, cs =>
      match lineBreak? (skipBlanks cs) with
      | some later => afterBreak fuel later
      | none => skipBlanks cs

end StringKind

/-- A string on one line, from behind its quote on. -/
def lineString? (quote : Char) (cs : List Char) : Option (String × List Char) :=
  (StringKind.rest? ⟨quote, false⟩ (cs.length + 1) [] cs).map fun (s, rest) =>
    (String.ofList s, rest)

/-- A string on several lines, from behind its quotes on. A line break directly behind them does not
count. -/
def longString? (quote : Char) (cs : List Char) : Option (String × List Char) :=
  let body := (lineBreak? cs).getD cs
  (StringKind.rest? ⟨quote, true⟩ (body.length + 1) [] body).map fun (s, rest) =>
    (String.ofList s, rest)

/-! ## Keys -/

def isBareChar (c : Char) : Bool := c.isAlphanum || c == '_' || c == '-'

/-- One part of a key: bare, or a string on one line. -/
def keyPart? : List Char → Option (String × List Char)
  | '"' :: rest => lineString? '"' rest
  | '\'' :: rest => lineString? '\'' rest
  | cs =>
    match cs.takeWhile isBareChar with
    | [] => none
    | part => some (String.ofList part, cs.dropWhile isBareChar)

/-- The most parts that a key may have. -/
def keyLimit : Nat := 79

/-- A key of at most `room` parts with points between them; blanks do not count. -/
def key? : Nat → List Char → Option (List String × List Char)
  | 0, _ => none
  | room + 1, cs =>
    match keyPart? (skipBlanks cs) with
    | none => none
    | some (part, rest) =>
      match skipBlanks rest with
      | '.' :: rest => (key? room rest).map fun (parts, rest) => (part :: parts, rest)
      | rest => some ([part], rest)

/-! ## Values -/

/-- How deep arrays and tables in place may be nested. -/
def depthLimit : Nat := 79

mutual

/-- A value at the front when `room` levels of nesting are left. Every step takes one from `fuel`. -/
def value? (fuel room : Nat) (cs : List Char) : Option (Tree × List Char) :=
  match fuel with
  | 0 => none
  | fuel + 1 =>
    match cs with
    | '"' :: '"' :: '"' :: rest => (longString? '"' rest).map fun (s, rest) => (.text s, rest)
    | '"' :: rest => (lineString? '"' rest).map fun (s, rest) => (.text s, rest)
    | '\'' :: '\'' :: '\'' :: rest => (longString? '\'' rest).map fun (s, rest) => (.text s, rest)
    | '\'' :: rest => (lineString? '\'' rest).map fun (s, rest) => (.text s, rest)
    | '[' :: rest =>
      match room with
      | 0 => none
      | room + 1 => (items? fuel room [] rest).map fun (items, rest) => (.list items, rest)
    | '\x7b' :: rest =>
      match room with
      | 0 => none
      | room + 1 =>
        match skipBlanks rest with
        | '\x7d' :: rest => some (.table [], rest)
        | rest =>
          match pairs? fuel room [] rest with
          | none => none
          | some (pairs, rest) => (Table.inPlace? pairs).map fun members => (.table members, rest)
    | cs => scalarAt? cs

/-- The items of an array up to its end; `read` holds those before, the last one first. -/
def items? (fuel room : Nat) (read : List Tree) (cs : List Char) :
    Option (List Tree × List Char) :=
  match fuel with
  | 0 => none
  | fuel + 1 =>
    match skipLines cs.length cs with
    | ']' :: rest => some (read.reverse, rest)
    | cs =>
      match value? fuel room cs with
      | none => none
      | some (item, rest) =>
        match skipLines rest.length rest with
        | ',' :: rest => items? fuel room (item :: read) rest
        | ']' :: rest => some ((item :: read).reverse, rest)
        | _ => none

/-- The keys and values of a table in place up to its end. -/
def pairs? (fuel room : Nat) (read : List (List String × Tree)) (cs : List Char) :
    Option (List (List String × Tree) × List Char) :=
  match fuel with
  | 0 => none
  | fuel + 1 =>
    match key? keyLimit cs with
    | some (key, '=' :: rest) =>
      match value? fuel room (skipBlanks rest) with
      | none => none
      | some (value, rest) =>
        match skipBlanks rest with
        | ',' :: rest => pairs? fuel room ((key, value) :: read) rest
        | '\x7d' :: rest => some (((key, value) :: read).reverse, rest)
        | _ => none
    | _ => none

end

/-! ## Lines -/

/-- A key with its value. -/
def pair? (cs : List Char) : Option (Line × List Char) :=
  match key? keyLimit cs with
  | some (key, '=' :: rest) =>
    (value? (2 * rest.length + 2) depthLimit (skipBlanks rest)).map fun (value, rest) =>
      (.pair key value, rest)
  | _ => none

/-- The header of a list of tables, or of a table. -/
def header? : List Char → Option (Line × List Char)
  | '[' :: '[' :: rest =>
    match key? keyLimit rest with
    | some (key, ']' :: ']' :: rest) => some (.listHeader key, rest)
    | _ => none
  | '[' :: rest =>
    match key? keyLimit rest with
    | some (key, ']' :: rest) => some (.header key, rest)
    | _ => none
  | _ => none

/-- A header, or a key with its value. -/
def line? (cs : List Char) : Option (Line × List Char) :=
  match cs with
  | '[' :: _ => header? cs
  | cs => pair? cs

/-- The lines of a text that say something, the last one first behind those read before. -/
def lines? : Nat → List Line → List Char → Option (List Line)
  | 0, _, _ => none
  | fuel + 1, read, cs =>
    match skipLines cs.length cs with
    | [] => some read.reverse
    | '#' :: rest => if rest.all isLineChar then some read.reverse else none
    | cs =>
      match line? cs with
      | none => none
      | some (line, rest) =>
        match lineEnd? rest with
        | none => none
        | some rest => lines? fuel (line :: read) rest

/-- A mark of the encoding may stand before the text. -/
def withoutMark : List Char → List Char
  | '\ufeff' :: rest => rest
  | cs => cs

/-- The document of a text. -/
def read? (s : String) : Option Tree :=
  let cs := withoutMark s.toList
  (lines? (cs.length + 1) [] cs).bind Table.ofLines?

end ModScript.Toml
