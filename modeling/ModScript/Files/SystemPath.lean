/-!
# Paths of the system

The system knows a path by its bytes. They are the UTF-8 of a text as a rule, but need not be: such a path can be
used like any other, and is shown with a replacement character for every damaged part.
-/

namespace ModScript

/-- A path as the system knows it. -/
structure SystemPath where
  bytes : List UInt8
deriving DecidableEq, Repr

namespace SystemPath

/-- The path that a text spells. -/
def ofText (text : String) : SystemPath := ⟨text.toUTF8.data.toList⟩

instance : Coe String SystemPath := ⟨ofText⟩

instance : Coe (Option String) (Option SystemPath) := ⟨fun text => text.map ofText⟩

/-! ## Names -/

/-- The pieces between the slashes. -/
def segments (path : SystemPath) : List (List UInt8) := path.bytes.splitOn 0x2F

/-- A segment that counts: it is neither empty nor `.`. -/
def counts (segment : List UInt8) : Bool := segment != [] && segment != [0x2E]

/-- The last segment that counts, unless it is `..`. -/
def fileName? (path : SystemPath) : Option (List UInt8) :=
  (path.segments.reverse.find? counts).filter fun segment => segment != [0x2E, 0x2E]

/-- The name of the file as text, if it has a name that is text. -/
def name? (path : SystemPath) : Option String :=
  path.fileName?.bind fun name => String.fromUTF8? name.toByteArray

example : name? "/games/e.exe/." = some "e.exe" := by decide

example : name? ⟨[0x2F, 0xFF]⟩ = none := by decide

/-! ## Text -/

/-- Whether a byte is one of those behind the first byte of a character. -/
def continues (byte : UInt8) : Bool := 0x80 ≤ byte && byte ≤ 0xBF

/-- Whether the second byte may follow the first one in a character of three or four bytes. -/
def opens (first second : UInt8) : Bool :=
  if first = 0xE0 then 0xA0 ≤ second && second ≤ 0xBF
  else if first = 0xED then 0x80 ≤ second && second ≤ 0x9F
  else if first = 0xF0 then 0x90 ≤ second && second ≤ 0xBF
  else if first = 0xF4 then 0x80 ≤ second && second ≤ 0x8F
  else 0xE1 ≤ first && first ≤ 0xF3 && continues second

/-- How many bytes are shown as one damaged part: the longest beginning of a character, or a single byte. -/
def damaged : List UInt8 → Nat
  | first :: second :: rest =>
    if opens first second then
      if 0xF0 ≤ first && rest.head?.any continues then 3 else 2
    else 1
  | _ => 1

theorem damaged_pos (bytes : List UInt8) : 0 < damaged bytes := by
  unfold damaged
  split
  · split
    · split <;> decide
    · decide
  · decide

/-- The characters of bytes, with a replacement character for every damaged part. -/
def shown : List UInt8 → List Char
  | [] => []
  | byte :: rest =>
    match (byte :: rest).toByteArray.utf8DecodeChar? 0 with
    | some c => c :: shown ((byte :: rest).drop c.utf8Size)
    | none => '\uFFFD' :: shown ((byte :: rest).drop (damaged (byte :: rest)))
termination_by bytes => bytes.length
decreasing_by
  · have := c.utf8Size_pos
    rw [List.length_drop, List.length_cons]
    omega
  · have := damaged_pos (byte :: rest)
    rw [List.length_drop, List.length_cons]
    omega

/-- The path as people see it. -/
def text (path : SystemPath) : String := String.ofList (shown path.bytes)

instance : Coe SystemPath String := ⟨text⟩

example : text ⟨[0x65, 0xE2, 0x82, 0x65, 0xFF]⟩ = "e\uFFFDe\uFFFD" := by cbv

end SystemPath

end ModScript
