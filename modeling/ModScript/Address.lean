import ModScript.Json.Reader
import ModScript.Json.Text
import ModScript.Text.Blank

/-!
# Addresses

Offsets from the base of a module. An address is written as `0x` and lowercase hexadecimal digits, and
read from such text in either case with blanks around it; data files may also give a plain whole number.
-/

namespace ModScript

/-- An offset from the base of a module. -/
structure Address where
  value : UInt64
deriving DecidableEq, Repr

namespace Address

/-- What is wrong with the text of an address. -/
inductive Fault
  | unmarked
  | noDigits
  | invalidDigit
  | tooLarge
deriving DecidableEq, Repr

/-- The digits behind the mark `0x` or `0X`. -/
def afterMark? : List Char → Option (List Char)
  | '0' :: 'x' :: digits => some digits
  | '0' :: 'X' :: digits => some digits
  | _ => none

/-- Appends hexadecimal digits to a number. The first character that is no digit, or makes the number
too large for 64 bits, decides on the fault. -/
def appendDigits (n : Nat) : List Char → Except Fault Nat
  | [] => .ok n
  | c :: rest =>
    match Json.hexValue? c with
    | none => .error .invalidDigit
    | some d => if 16 * n + d < UInt64.size then appendDigits (16 * n + d) rest else .error .tooLarge

/-- The number of hexadecimal digits, which may follow one plus sign. -/
def readDigits : List Char → Except Fault Nat
  | [] => .error .noDigits
  | ['+'] => .error .invalidDigit
  | '+' :: digits => appendDigits 0 digits
  | digits => appendDigits 0 digits

/-- The address that characters stand for, blanks around them aside. -/
def readChars (cs : List Char) : Except Fault Address :=
  match afterMark? (Text.trimChars cs) with
  | none => .error .unmarked
  | some digits => (readDigits digits).map fun n => ⟨UInt64.ofNat n⟩

/-- The address that a text stands for. -/
def parse (s : String) : Except Fault Address := readChars s.toList

/-- The address with its mark and lowercase digits. -/
def chars (a : Address) : List Char := '0' :: 'x' :: Nat.toDigits 16 a.value.toNat

/-- The address with its mark and lowercase digits, as text. -/
def text (a : Address) : String := String.ofList a.chars

def toJson (a : Address) : Json := .string a.text

/-- Data files give an address as text or as a whole number. -/
def ofTree? : Tree → Option Address
  | .text s => (parse s).toOption
  | t => t.word?.map Address.mk

end Address

end ModScript
