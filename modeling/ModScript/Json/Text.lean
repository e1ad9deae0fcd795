import ModScript.Binary64.Decimal
import ModScript.Json.Basic

/-!
# Text of data values

Compact text has no blanks; indented text puts every item and member on a line of its own, two blanks
per level, and leaves empty arrays and objects on one line. Strings stand between double quotes; only
the quote, the backslash and the characters below U+0020 are escaped.
-/

namespace ModScript

/-- A digit of a hexadecimal number below sixteen, in lowercase. -/
def hexDigit (n : Nat) : Char := Nat.digitChar n

namespace Json

/-- A character inside a quoted string. -/
def escapedChar (c : Char) : List Char :=
  match c with
  | '"' => ['\\', '"']
  | '\\' => ['\\', '\\']
  | '\x08' => ['\\', 'b']
  | '\x0c' => ['\\', 'f']
  | '\n' => ['\\', 'n']
  | '\r' => ['\\', 'r']
  | '\t' => ['\\', 't']
  | c =>
    if c.toNat < 0x20 then ['\\', 'u', '0', '0', hexDigit (c.toNat / 16), hexDigit (c.toNat % 16)]
    else [c]

/-- A string between double quotes. -/
def quoteChars (s : List Char) : List Char := '"' :: s.flatMap escapedChar ++ ['"']

/-- A string between double quotes, as text. -/
def quote (s : String) : String := String.ofList (quoteChars s.toList)

/-- A whole number in decimal digits. -/
def wholeChars (n : Int) : List Char :=
  (if n < 0 then ['-'] else []) ++ Nat.toDigits 10 n.natAbs

def numberChars : Number → List Char
  | .whole n _ => wholeChars n
  | .real x _ => x.chars

mutual

/-- The value without blanks. -/
def compactChars : Json → List Char
  | .null => ['n', 'u', 'l', 'l']
  | .bool true => ['t', 'r', 'u', 'e']
  | .bool false => ['f', 'a', 'l', 's', 'e']
  | .number n => numberChars n
  | .string s => quoteChars s.toList
  | .array items => '[' :: compactItems items ++ [']']
  | .object members => '\x7b' :: compactMembers members ++ ['\x7d']

def compactItems : List Json → List Char
  | [] => []
  | [item] => compactChars item
  | item :: rest => compactChars item ++ ',' :: compactItems rest

def compactMembers : List (String × Json) → List Char
  | [] => []
  | [(key, value)] => quoteChars key.toList ++ ':' :: compactChars value
  | (key, value) :: rest =>
    quoteChars key.toList ++ ':' :: compactChars value ++ ',' :: compactMembers rest

end

/-- A line break and the blanks of one level. -/
def lineStart (level : Nat) : List Char := '\n' :: List.replicate (2 * level) ' '

mutual

/-- The value on lines, from the given level of indentation on. -/
def indentedChars (level : Nat) : Json → List Char
  | .array items =>
    if items.isEmpty then ['[', ']']
    else '[' :: indentedItems (level + 1) items ++ lineStart level ++ [']']
  | .object members =>
    if members.isEmpty then ['\x7b', '\x7d']
    else '\x7b' :: indentedMembers (level + 1) members ++ lineStart level ++ ['\x7d']
  | .null => ['n', 'u', 'l', 'l']
  | .bool true => ['t', 'r', 'u', 'e']
  | .bool false => ['f', 'a', 'l', 's', 'e']
  | .number n => numberChars n
  | .string s => quoteChars s.toList

def indentedItems (level : Nat) : List Json → List Char
  | [] => []
  | [item] => lineStart level ++ indentedChars level item
  | item :: rest => lineStart level ++ indentedChars level item ++ ',' :: indentedItems level rest

def indentedMembers (level : Nat) : List (String × Json) → List Char
  | [] => []
  | [(key, value)] =>
    lineStart level ++ quoteChars key.toList ++ ':' :: ' ' :: indentedChars level value
  | (key, value) :: rest =>
    lineStart level ++ quoteChars key.toList ++ ':' :: ' ' :: indentedChars level value ++
      ',' :: indentedMembers level rest

end

/-- The value as text without blanks. -/
def compact (value : Json) : String := String.ofList (compactChars value)

/-- The value as text on lines. -/
def indented (value : Json) : String := String.ofList (indentedChars 0 value)

/-- An object whose members are those of a map. -/
def ofMap (m : OrderedMap Json) : Json := .object m.entries

end Json

end ModScript
