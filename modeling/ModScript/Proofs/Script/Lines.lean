import Mathlib.Data.List.Basic
import ModScript.Proofs.Json.Reading
import ModScript.Proofs.Quoting
import ModScript.Proofs.Script.Layout

/-!
# Lines and literals of scripts

Scripts are read here as the engine reads them: a text is split into its lines, and a string literal is
decoded from its opening quote to its closing one. No literal and no compact data has a line break in it.

Results:
1. `linesOf_joinLines`: lines that were joined are split again.
2. `Json.unbroken_quote`, `Json.unbroken_compact`: literals and data stand on one line.
3. `literal?_quote`: a literal is decoded to the string that was written.
-/

namespace ModScript

/-! ## Lines -/

/-- The lines of a text; an empty text has none. -/
def linesOf (text : String) : List (List Char) :=
  if text.isEmpty then [] else text.toList.splitOn '\n'

/-- Lines that were joined are split again, if each has some text and no line break. -/
theorem linesOf_joinLines {lines : List String} (filled : ∀ line ∈ lines, line.isEmpty = false)
    (unbroken : ∀ line ∈ lines, '\n' ∉ line.toList) :
    linesOf (joinLines lines) = lines.map String.toList := by
  cases lines with
  | nil => rfl
  | cons first rest =>
    have some : (joinLines (first :: rest)).isEmpty = false :=
      isEmpty_joinLines (filled first List.mem_cons_self) rest
    have each : ∀ chars ∈ (first :: rest).map String.toList, '\n' ∉ chars := by
      intro chars present
      obtain ⟨line, known, rfl⟩ := List.mem_map.1 present
      exact unbroken line known
    have lineBreak : "\n".toList = ['\n'] := rfl
    rw [linesOf, some, if_neg Bool.false_ne_true, joinLines, String.toList_intercalate, lineBreak]
    exact List.splitOn_intercalate '\n' each (List.cons_ne_nil _ _)

namespace Json

theorem unbroken_escapedChar (c : Char) : '\n' ∉ escapedChar c := by
  intro broken
  exact absurd (le_of_mem_escapedChar broken) (by decide)

theorem unbroken_quoteChars (s : List Char) : '\n' ∉ quoteChars s := by
  have inside : '\n' ∉ s.flatMap escapedChar := by
    intro present
    obtain ⟨c, -, broken⟩ := List.mem_flatMap.1 present
    exact unbroken_escapedChar c broken
  simp [quoteChars, inside]

/-- A string literal stands on one line. -/
theorem unbroken_quote (s : String) : '\n' ∉ (quote s).toList := by
  rw [quote, String.toList_ofList]
  exact unbroken_quoteChars s.toList

theorem unbroken_numberChars (n : Number) : '\n' ∉ numberChars n := by
  intro present
  have numeral := List.all_eq_true.1 (isNumeral_numberChars n) '\n' present
  exact absurd numeral (by decide)

mutual

theorem unbroken_compactChars (value : Json) : '\n' ∉ compactChars value := by
  match value with
  | .null => decide
  | .bool true => decide
  | .bool false => decide
  | .number n => exact unbroken_numberChars n
  | .string s => exact unbroken_quoteChars s.toList
  | .array items => simp [compactChars, unbroken_compactItems items]
  | .object members => simp [compactChars, unbroken_compactMembers members]

theorem unbroken_compactItems (items : List Json) : '\n' ∉ compactItems items := by
  match items with
  | [] => exact List.not_mem_nil
  | [item] => exact unbroken_compactChars item
  | item :: next :: rest =>
    simp [compactItems, unbroken_compactChars item, unbroken_compactItems (next :: rest)]

theorem unbroken_compactMembers (members : List (String × Json)) : '\n' ∉ compactMembers members := by
  match members with
  | [] => exact List.not_mem_nil
  | [(key, value)] => simp [compactMembers, unbroken_quoteChars, unbroken_compactChars value]
  | (key, value) :: next :: rest =>
    simp [compactMembers, unbroken_quoteChars, unbroken_compactChars value,
      unbroken_compactMembers (next :: rest)]

end

/-- Compact data stands on one line. -/
theorem unbroken_compact (value : Json) : '\n' ∉ value.compact.toList := by
  rw [compact, String.toList_ofList]
  exact unbroken_compactChars value

end Json

/-! ## Texts at the front -/

/-- What stands behind a text at the front. -/
def behind? (text : String) (chars : List Char) : Option (List Char) := chars.dropPrefix? text.toList

theorem behind?_append (text : String) (rest : List Char) :
    behind? text (text.toList ++ rest) = some rest :=
  List.dropPrefix?_append_of_beq rest (BEq.rfl)

/-- The string of a literal at the front, and what stands behind the literal. -/
def literal? : List Char → Option (String × List Char)
  | '"' :: rest =>
    (Json.stringRest? .empty rest).bind fun read => read.1.map fun s => (s, read.2)
  | _ => none

/-- A literal is decoded to the string that was written. -/
theorem literal?_quote (s : String) (rest : List Char) :
    literal? ((Json.quote s).toList ++ rest) = some (s, rest) := by
  have chars : (Json.quote s).toList ++ rest =
      '"' :: (s.toList.flatMap Json.escapedChar ++ '"' :: rest) := by
    simp [Json.quote, Json.quoteChars]
  rw [chars, literal?, Json.stringRest?_quoted]
  rfl

end ModScript
