import Mathlib.Data.List.DropRight
import ModScript.Proofs.Json.Numerals
import ModScript.Proofs.OrderedMap

/-!
# Data texts that read back

A text spells a data value if it consists of the parts of the value, with any blanks between them. The
compact and the indented text of a value both do. A text that spells a value is read as that value, if its
nesting is not too deep and its floating point numbers read back.

Results:
1. `Json.stringRest?_quoted`: a quoted string ends where it was written to end, and means what was written.
2. `Json.readChars?_of_spells`: a text that spells a value is read as its tree.
3. `Json.toJson?_ofJson`: the tree of a value without repeated names means the value.
4. `Json.hasDistinctKeys_of_toJson?`: no value that was read repeats a name.
5. `Json.parse?_compact`, `Json.parse?_indented`: values read back.
-/

namespace ModScript

namespace Json

/-! ## Strings -/

/-- A string of which the given characters were read, the last one first. -/
def PartialString.ofRead (read : List Char) : PartialString := ⟨read, none, true⟩

theorem fourHex?_low {n : Nat} (low : n < 32) :
    fourHex? '0' '0' (hexDigit (n / 16)) (hexDigit (n % 16)) = some n := by
  have each : ∀ n < 32, fourHex? '0' '0' (hexDigit (n / 16)) (hexDigit (n % 16)) = some n := by decide
  exact each n low

theorem addUnit_low {read : List Char} {c : Char} (low : c.toNat < 32) :
    (PartialString.ofRead read).addUnit c.toNat = .ofRead (c :: read) := by
  have notHigh : isHighSurrogate c.toNat = false := by
    simp only [isHighSurrogate, Bool.and_eq_false_iff, decide_eq_false_iff_not]
    omega
  have notLow : isLowSurrogate c.toNat = false := by
    simp only [isLowSurrogate, Bool.and_eq_false_iff, decide_eq_false_iff_not]
    omega
  simp [PartialString.addUnit, notHigh, notLow, PartialString.add, PartialString.ofRead]

/-- A written character is read as that character. -/
theorem stringRest?_escapedChar (read : List Char) (c : Char) (rest : List Char) :
    stringRest? (.ofRead read) (escapedChar c ++ rest) = stringRest? (.ofRead (c :: read)) rest := by
  unfold escapedChar
  -- Short escapes are undone by evaluation; what is left is a code of four digits or the character itself.
  split
  case h_8 unquoted unescaped _ _ _ _ _ =>
    split
    next low =>
      simp only [List.cons_append, List.nil_append, stringRest?, fourHex?_low low, addUnit_low low]
    next high =>
      have plain : ¬ (c.toNat < 32 ∨ c = '\\') := fun either => either.elim high unescaped
      rw [List.singleton_append, stringRest?]
      · exact if_neg plain
      · exact unquoted
      · exact fun _ _ _ _ _ same => absurd same unescaped
      · exact fun _ _ same => absurd same unescaped
  all_goals rfl

/-- A quoted string ends where it was written to end, and means what was written. -/
theorem stringRest?_quoted (s : String) (rest : List Char) :
    stringRest? .empty (s.toList.flatMap escapedChar ++ '"' :: rest) = some (some s, rest) := by
  have go (read chars : List Char) :
      stringRest? (.ofRead read) (chars.flatMap escapedChar ++ '"' :: rest) =
        some (some (String.ofList (read.reverse ++ chars)), rest) := by
    induction chars generalizing read with
    | nil => simp [stringRest?, PartialString.finish?, PartialString.ofRead]
    | cons c chars ih =>
      rw [List.flatMap_cons, List.append_assoc, stringRest?_escapedChar, ih]
      simp
  have whole : stringRest? .empty (s.toList.flatMap escapedChar ++ '"' :: rest) =
      some (some (String.ofList ([].reverse ++ s.toList)), rest) := go [] s.toList
  rw [whole, List.reverse_nil, List.nil_append, String.ofList_toList]

/-! ## Texts that spell a value -/

/-- Blanks that may stand between the parts of a value. -/
def IsGap (chars : List Char) : Prop := ∀ c ∈ chars, isSpace c = true

mutual

/-- The characters are the parts of the value, with any blanks between them. -/
inductive Spells : Json → List Char → Prop
  | null : Spells .null ['n', 'u', 'l', 'l']
  | yes : Spells (.bool true) ['t', 'r', 'u', 'e']
  | no : Spells (.bool false) ['f', 'a', 'l', 's', 'e']
  | number (n : Number) : Spells (.number n) (numberChars n)
  | string (s : String) : Spells (.string s) (quoteChars s.toList)
  | array {items : List Json} {chars : List Char} :
    SpellsItems items chars → Spells (.array items) ('[' :: chars ++ [']'])
  | object {members : List (String × Json)} {chars : List Char} :
    SpellsMembers members chars → Spells (.object members) ('\x7b' :: chars ++ ['\x7d'])

/-- The characters are the items of an array with commas between them. -/
inductive SpellsItems : List Json → List Char → Prop
  | none {gap : List Char} : IsGap gap → SpellsItems [] gap
  | last {item : Json} {front chars back : List Char} :
    IsGap front → Spells item chars → IsGap back → SpellsItems [item] (front ++ (chars ++ back))
  | more {item : Json} {rest : List Json} {front chars back others : List Char} :
    IsGap front → Spells item chars → IsGap back → rest ≠ [] → SpellsItems rest others →
    SpellsItems (item :: rest) (front ++ (chars ++ (back ++ ',' :: others)))

/-- The characters are the members of an object with commas between them. -/
inductive SpellsMembers : List (String × Json) → List Char → Prop
  | none {gap : List Char} : IsGap gap → SpellsMembers [] gap
  | last {key : String} {value : Json} {front middle chars back : List Char} :
    IsGap front → IsGap middle → Spells value chars → IsGap back →
    SpellsMembers [(key, value)]
      (front ++ (quoteChars key.toList ++ ':' :: (middle ++ (chars ++ back))))
  | more {key : String} {value : Json} {rest : List (String × Json)}
    {front middle chars back others : List Char} :
    IsGap front → IsGap middle → Spells value chars → IsGap back → rest ≠ [] →
    SpellsMembers rest others →
    SpellsMembers ((key, value) :: rest)
      (front ++ (quoteChars key.toList ++ ':' :: (middle ++ (chars ++ (back ++ ',' :: others)))))

end

theorem isGap_nil : IsGap [] := fun _ none => absurd none List.not_mem_nil

theorem isGap_lineStart (level : Nat) : IsGap (lineStart level) := by
  intro c present
  rcases List.mem_cons.1 present with rfl | blank
  · rfl
  · rw [List.eq_of_mem_replicate blank]
    rfl

mutual

/-- The compact text has no blanks. -/
theorem spells_compactChars (value : Json) : Spells value (compactChars value) := by
  match value with
  | .null => exact .null
  | .bool true => exact .yes
  | .bool false => exact .no
  | .number n => exact .number n
  | .string s => exact .string s
  | .array items => exact .array (spells_compactItems items)
  | .object members => exact .object (spells_compactMembers members)

theorem spells_compactItems (items : List Json) : SpellsItems items (compactItems items) := by
  match items with
  | [] => exact .none isGap_nil
  | [item] =>
    have last := SpellsItems.last isGap_nil (spells_compactChars item) isGap_nil
    simpa [compactItems] using last
  | item :: other :: rest =>
    exact .more isGap_nil (spells_compactChars item) isGap_nil (List.cons_ne_nil _ _)
      (spells_compactItems (other :: rest))

theorem spells_compactMembers (members : List (String × Json)) :
    SpellsMembers members (compactMembers members) := by
  match members with
  | [] => exact .none isGap_nil
  | [(key, value)] =>
    have last : SpellsMembers [(key, value)] _ := .last isGap_nil isGap_nil (spells_compactChars value) isGap_nil
    simpa [compactMembers] using last
  | (key, value) :: other :: rest =>
    have more : SpellsMembers ((key, value) :: other :: rest) _ :=
      .more isGap_nil isGap_nil (spells_compactChars value) isGap_nil
      (List.cons_ne_nil _ _) (spells_compactMembers (other :: rest))
    simpa [compactMembers] using more

end

mutual

/-- The indented text has its blanks at the beginnings of lines, and behind colons. -/
theorem spells_indentedChars (level : Nat) (value : Json) : Spells value (indentedChars level value) := by
  match value with
  | .null => exact .null
  | .bool true => exact .yes
  | .bool false => exact .no
  | .number n => exact .number n
  | .string s => exact .string s
  | .array [] => exact .array (.none isGap_nil)
  | .array (item :: rest) =>
    exact .array (spells_indentedItems (level + 1) (List.cons_ne_nil item rest) (isGap_lineStart level))
  | .object [] => exact .object (.none isGap_nil)
  | .object (member :: rest) =>
    exact .object
      (spells_indentedMembers (level + 1) (List.cons_ne_nil member rest) (isGap_lineStart level))

theorem spells_indentedItems (level : Nat) {items : List Json} (some : items ≠ []) {gap : List Char}
    (blank : IsGap gap) : SpellsItems items (indentedItems level items ++ gap) := by
  match items with
  | [] => exact absurd rfl some
  | [item] =>
    have last := SpellsItems.last (isGap_lineStart level) (spells_indentedChars level item) blank
    simpa [indentedItems] using last
  | item :: other :: rest =>
    have more := SpellsItems.more (isGap_lineStart level) (spells_indentedChars level item) isGap_nil
      (List.cons_ne_nil _ _) (spells_indentedItems level (List.cons_ne_nil other rest) blank)
    simpa [indentedItems] using more

theorem spells_indentedMembers (level : Nat) {members : List (String × Json)} (some : members ≠ [])
    {gap : List Char} (blank : IsGap gap) :
    SpellsMembers members (indentedMembers level members ++ gap) := by
  have space : IsGap [' '] := by simp [IsGap, isSpace]
  match members with
  | [] => exact absurd rfl some
  | [(key, value)] =>
    have last : SpellsMembers [(key, value)] _ := .last (isGap_lineStart level) space
      (spells_indentedChars level value) blank
    simpa [indentedMembers] using last
  | (key, value) :: other :: rest =>
    have more : SpellsMembers ((key, value) :: other :: rest) _ := .more (isGap_lineStart level) space
      (spells_indentedChars level value) isGap_nil (List.cons_ne_nil _ _)
      (spells_indentedMembers level (List.cons_ne_nil other rest) blank)
    simpa [indentedMembers] using more

end

/-! ## Blanks -/

theorem skipSpaces_gap {gap : List Char} (blank : IsGap gap) (cs : List Char) :
    skipSpaces (gap ++ cs) = skipSpaces cs := List.dropWhile_append_of_pos blank

theorem skipSpaces_cons {c : Char} (shown : isSpace c = false) (cs : List Char) :
    skipSpaces (c :: cs) = c :: cs := by
  simp [skipSpaces, shown]

theorem skipSpaces_front {gap : List Char} (blank : IsGap gap) {c : Char} (shown : isSpace c = false)
    (cs : List Char) : skipSpaces (gap ++ c :: cs) = c :: cs := by
  rw [skipSpaces_gap blank, skipSpaces_cons shown]

/-- Blanks in front of a value are passed over. -/
theorem value?_skipSpaces (fuel room : Nat) (cs : List Char) :
    value? fuel room (skipSpaces cs) = value? fuel room cs := by
  cases fuel with
  | zero => rfl
  | succ fuel =>
    have once : skipSpaces (skipSpaces cs) = skipSpaces cs := List.dropWhile_idempotent isSpace cs
    rw [value?, value?, once]

theorem value?_gap {gap : List Char} (blank : IsGap gap) (fuel room : Nat) (cs : List Char) :
    value? fuel room (gap ++ cs) = value? fuel room cs := by
  rw [← value?_skipSpaces, skipSpaces_gap blank, value?_skipSpaces]

/-! ## Values -/

mutual

/-- Every floating point number in the value reads back. -/
def RealsReadBack : Json → Prop
  | .number (.real x finite) => (Number.real x finite).ReadsBack
  | .array items => ItemsReadBack items
  | .object members => MembersReadBack members
  | _ => True

def ItemsReadBack : List Json → Prop
  | [] => True
  | item :: rest => RealsReadBack item ∧ ItemsReadBack rest

def MembersReadBack : List (String × Json) → Prop
  | [] => True
  | (_, value) :: rest => RealsReadBack value ∧ MembersReadBack rest

end

/-- A number is read up to what ends it. -/
theorem numberText?_of_readsBack {n : Number} (reals : RealsReadBack (.number n)) {rest : List Char}
    (ends : Ends rest) : ∃ text, numberText? (numberChars n ++ rest) = some (text, rest) ∧
      text.number? = some n := by
  cases n with
  | whole n fits => exact ⟨_, numberText?_append ends (numberText?_wholeChars n), number?_wholeChars fits⟩
  | real x finite =>
    obtain ⟨text, read, meaning⟩ := Number.ReadsBack.numberText? reals
    exact ⟨text, numberText?_append ends read, meaning⟩

/-- A value begins with a character that is neither a blank nor the end of an array. -/
theorem Spells.head {value : Json} {chars : List Char} (spells : Spells value chars) :
    ∃ c tail, chars = c :: tail ∧ isSpace c = false ∧ c ≠ ']' := by
  cases spells with
  | number n =>
    obtain ⟨c, tail, chars, begins⟩ := head_numberChars n
    refine ⟨c, tail, chars, ?_⟩
    rcases begins with rfl | digit
    · decide
    · have numeral : isNumeral c = true := by simp [isNumeral, digit]
      refine ⟨?_, ?_⟩
      · rw [← Bool.not_eq_true]
        intro blank
        simp [isNumeral_of_isSpace blank] at numeral
      · rintro rfl
        exact absurd digit (by decide)
  | null => exact ⟨_, _, rfl, by decide⟩
  | yes => exact ⟨_, _, rfl, by decide⟩
  | no => exact ⟨_, _, rfl, by decide⟩
  | string s => exact ⟨_, _, rfl, by decide⟩
  | array _ => exact ⟨_, _, rfl, by decide⟩
  | object _ => exact ⟨_, _, rfl, by decide⟩

theorem ends_gap {gap : List Char} (blank : IsGap gap) {c : Char} (other : isNumeral c = false)
    (rest : List Char) : Ends (gap ++ c :: rest) := by
  cases gap with
  | nil => exact ends_cons other rest
  | cons first gap => exact ends_cons (isNumeral_of_isSpace (blank first List.mem_cons_self)) _

/-- A text of items begins, behind blanks, with something that is not the end of an array. -/
theorem SpellsItems.head {items : List Json} {chars : List Char} (spells : SpellsItems items chars)
    (some : items ≠ []) (behind : List Char) :
    ∃ c tail, skipSpaces (chars ++ behind) = c :: tail ∧ c ≠ ']' := by
  cases spells with
  | none _ => exact absurd rfl some
  | last front first _ | more front first _ _ _ =>
    obtain ⟨c, tail, rfl, shown, other⟩ := first.head
    rw [List.append_assoc]
    exact ⟨c, _, skipSpaces_front front shown _, other⟩

/-- A text of members begins, behind blanks, with the name of the first. -/
theorem SpellsMembers.head {members : List (String × Json)} {chars : List Char}
    (spells : SpellsMembers members chars) (some : members ≠ []) (behind : List Char) :
    ∃ tail, skipSpaces (chars ++ behind) = '"' :: tail := by
  cases spells with
  | none _ => exact absurd rfl some
  | last front _ _ _ | more front _ _ _ _ _ =>
    rw [List.append_assoc]
    exact ⟨_, skipSpaces_front front (by decide) _⟩

section

variable {fuel room : Nat} {cs tail rest : List Char}

/-- An array with items is read item by item. -/
theorem value?_array {items : List Tree} {c : Char} (shown : skipSpaces cs = c :: tail) (other : c ≠ ']')
    (inside : room ≠ 0) (read : items? fuel (room - 1) [] cs = some (items, rest)) :
    value? (fuel + 1) room ('[' :: cs) = some (.list items, rest) := by
  have again : items? fuel (room - 1) [] (c :: tail) = some (items, rest) := by
    rw [← read]
    cases fuel with
    | zero => rfl
    | succ fuel => rw [items?, items?, ← shown, value?_skipSpaces]
  rw [value?, skipSpaces_cons (by decide)]
  simp only [shown]
  split
  next same => exact absurd (List.cons.inj same).1 other
  next => simp [again, nested, inside]

/-- An object with members is read member by member. -/
theorem value?_object {members : List (String × Tree)} (shown : skipSpaces cs = '"' :: tail)
    (inside : room ≠ 0) (read : members? fuel (room - 1) (some []) cs = some (some members, rest)) :
    value? (fuel + 1) room ('\x7b' :: cs) = some (.table members, rest) := by
  have again : members? fuel (room - 1) (some []) ('"' :: tail) = some (some members, rest) := by
    rw [← read]
    cases fuel with
    | zero => rfl
    | succ fuel => rw [members?, members?, shown, skipSpaces_cons (by decide)]
  rw [value?, skipSpaces_cons (by decide)]
  simp [shown, again, nested, inside]

end

mutual

/-- A text that spells a value is read as its tree, whatever stands behind it. -/
theorem value?_of_spells (value : Json) {chars : List Char} (spells : Spells value chars)
    (reals : RealsReadBack value) (fuel room : Nat) (shallow : value.depth ≤ room)
    (enough : chars.length ≤ fuel) {rest : List Char} (ends : Ends rest) :
    value? fuel room (chars ++ rest) = some (.ofJson value, rest) := by
  -- The recursion follows the value; one unit of fuel for each character is enough for all of its parts.
  obtain ⟨fuel, rfl⟩ : ∃ n, fuel = n + 1 := by
    obtain ⟨c, tail, rfl, -⟩ := spells.head
    simp only [List.length_cons] at enough
    exact ⟨fuel - 1, by omega⟩
  match value with
  | .null =>
    cases spells
    rfl
  | .bool true =>
    cases spells
    rfl
  | .bool false =>
    cases spells
    rfl
  | .number n =>
    cases spells
    obtain ⟨text, read, meaning⟩ := numberText?_of_readsBack reals ends
    obtain ⟨c, tail, digits, begins⟩ := head_numberChars n
    rw [digits, List.cons_append] at read ⊢
    simp [value?_numeral begins, read, numberTree, meaning, Tree.ofJson]
  | .string s =>
    cases spells
    have read := stringRest?_quoted s rest
    simp [quoteChars, value?, skipSpaces_cons, isSpace, read, stringTree, Tree.ofJson]
  | .array items =>
    simp only [depth] at shallow
    have inside : room ≠ 0 := by omega
    cases spells with
    | @array _ inner spells =>
      simp only [List.cons_append, List.length_cons, List.length_append, List.length_nil] at enough
      match items with
      | [] =>
        cases spells with
        | none gap =>
          simp [value?, skipSpaces_cons, skipSpaces_gap gap, isSpace, nested, inside, Tree.ofJson,
            Tree.ofItems]
      | item :: others =>
        obtain ⟨c, tail, shown, other⟩ := spells.head (List.cons_ne_nil _ _) (']' :: rest)
        have items := items?_of_spells (item :: others) spells (List.cons_ne_nil _ _) reals
          fuel (room - 1) (by omega) (by omega) [] rest
        simp [value?_array shown other inside items, Tree.ofJson]
  | .object members =>
    simp only [depth] at shallow
    have inside : room ≠ 0 := by omega
    cases spells with
    | @object _ inner spells =>
      simp only [List.cons_append, List.length_cons, List.length_append, List.length_nil] at enough
      match members with
      | [] =>
        cases spells with
        | none gap =>
          simp [value?, skipSpaces_cons, skipSpaces_gap gap, isSpace, nested, inside, Tree.ofJson,
            Tree.ofMembers]
      | member :: others =>
        obtain ⟨tail, shown⟩ := spells.head (List.cons_ne_nil _ _) ('\x7d' :: rest)
        have members := members?_of_spells (member :: others) spells (List.cons_ne_nil _ _) reals
          fuel (room - 1) (by omega) (by omega) [] rest
        simp [value?_object shown inside members, Tree.ofJson]

theorem items?_of_spells (items : List Json) {chars : List Char} (spells : SpellsItems items chars)
    (some : items ≠ []) (reals : ItemsReadBack items) (fuel room : Nat)
    (shallow : depthOfItems items ≤ room) (enough : chars.length < fuel) (read : List Tree)
    (rest : List Char) :
    items? fuel room read (chars ++ ']' :: rest) =
      .some (read.reverse ++ Tree.ofItems items, rest) := by
  obtain ⟨fuel, rfl⟩ : ∃ n, fuel = n + 1 := ⟨fuel - 1, by omega⟩
  match items with
  | [] => exact absurd rfl some
  | item :: others =>
    simp only [depthOfItems] at shallow
    cases spells with
    | last front first back =>
      simp only [List.length_append] at enough
      have content := value?_of_spells item first reals.1 fuel room (by omega)
        (by omega) (ends_gap back (c := ']') (by decide) rest)
      simp [items?, value?_gap front, content, skipSpaces_gap back, skipSpaces_cons, isSpace, Tree.ofItems]
    | @more _ _ _ _ _ inner front first back more spells =>
      simp only [List.length_append, List.length_cons] at enough
      have content := value?_of_spells item first reals.1 fuel room (by omega)
        (by omega) (ends_gap back (c := ',') (by decide) (inner ++ ']' :: rest))
      have items := items?_of_spells others spells more reals.2 fuel room (by omega)
        (by omega) (.ofJson item :: read) rest
      simp [items?, value?_gap front, content, skipSpaces_gap back, skipSpaces_cons, isSpace, items,
        Tree.ofItems]

theorem members?_of_spells (members : List (String × Json)) {chars : List Char}
    (spells : SpellsMembers members chars) (some : members ≠ []) (reals : MembersReadBack members)
    (fuel room : Nat) (shallow : depthOfMembers members ≤ room) (enough : chars.length < fuel)
    (read : List (String × Tree)) (rest : List Char) :
    members? fuel room (.some read) (chars ++ '\x7d' :: rest) =
      .some (.some (read.reverse ++ Tree.ofMembers members), rest) := by
  obtain ⟨fuel, rfl⟩ : ∃ n, fuel = n + 1 := ⟨fuel - 1, by omega⟩
  match members with
  | [] => exact absurd rfl some
  | (key, value) :: others =>
    simp only [depthOfMembers] at shallow
    cases spells with
    | @last _ _ _ middle inner back front gap first blank =>
      simp only [List.length_append, List.length_cons] at enough
      have name := stringRest?_quoted key (':' :: (middle ++ (inner ++ (back ++ '\x7d' :: rest))))
      have content := value?_of_spells value first reals.1 fuel room (by omega)
        (by omega) (ends_gap blank (c := '\x7d') (by decide) rest)
      simp [members?, skipSpaces_gap front, skipSpaces_gap blank, skipSpaces_cons, isSpace, quoteChars,
        name, value?_gap gap, content, Tree.ofMembers]
    | @more _ _ _ _ middle inner back outer front gap first blank more spells =>
      simp only [List.length_append, List.length_cons] at enough
      have name := stringRest?_quoted key
        (':' :: (middle ++ (inner ++ (back ++ ',' :: (outer ++ '\x7d' :: rest)))))
      have content := value?_of_spells value first reals.1 fuel room (by omega)
        (by omega) (ends_gap blank (c := ',') (by decide) (outer ++ '\x7d' :: rest))
      have members := members?_of_spells others spells more reals.2 fuel room
        (by omega) (by omega) ((key, .ofJson value) :: read) rest
      simp [members?, skipSpaces_gap front, skipSpaces_gap blank, skipSpaces_cons, isSpace, quoteChars,
        name, value?_gap gap, content, members, Tree.ofMembers]

end

/-! ## Whole texts -/

/-- A text that spells a value and nothing else is read as the tree of the value. -/
theorem readChars?_of_spells {value : Json} {chars : List Char} (spells : Spells value chars)
    (reals : RealsReadBack value) (shallow : value.depth ≤ depthLimit) :
    readChars? chars = some (.ofJson value) := by
  have read := value?_of_spells value spells reals (2 * chars.length + 2) depthLimit shallow (by omega) ends_nil
  rw [List.append_nil] at read
  simp [readChars?, read, skipSpaces]

/-! ## Trees of values -/

mutual

/-- The tree of a value without repeated names means the value. -/
theorem toJson?_ofJson (value : Json) (distinct : value.HasDistinctKeys) :
    (Tree.ofJson value).toJson? = some value := by
  match value with
  | .null => rfl
  | .bool b => rfl
  | .number n => rfl
  | .string s => rfl
  | .array items => simp [Tree.ofJson, Tree.toJson?, toItems?_ofItems items distinct]
  | .object members =>
    simp [Tree.ofJson, Tree.toJson?, toMembers?_ofMembers members distinct.2,
      OrderedMap.entries_ofList distinct.1]

theorem toItems?_ofItems (items : List Json) (distinct : ItemsHaveDistinctKeys items) :
    Tree.toItems? (Tree.ofItems items) = some items := by
  match items with
  | [] => rfl
  | item :: rest =>
    simp [Tree.ofItems, Tree.toItems?, toJson?_ofJson item distinct.1, toItems?_ofItems rest distinct.2]

theorem toMembers?_ofMembers (members : List (String × Json)) (distinct : MembersHaveDistinctKeys members) :
    Tree.toMembers? (Tree.ofMembers members) = some members := by
  match members with
  | [] => rfl
  | (key, value) :: rest =>
    simp [Tree.ofMembers, Tree.toMembers?, toJson?_ofJson value distinct.1,
      toMembers?_ofMembers rest distinct.2]

end

theorem membersHaveDistinctKeys_iff {members : List (String × Json)} :
    MembersHaveDistinctKeys members ↔ ∀ member ∈ members, member.2.HasDistinctKeys := by
  induction members with
  | nil => simp [MembersHaveDistinctKeys]
  | cons member rest ih => simp [MembersHaveDistinctKeys, ih]

mutual

/-- No value that was read repeats a name: the last one has replaced the others. -/
theorem hasDistinctKeys_of_toJson? (t : Tree) {value : Json} (read : t.toJson? = some value) :
    value.HasDistinctKeys := by
  match t with
  | .null | .bool _ | .number _ | .unbounded | .text _ =>
    cases read
    trivial
  | .damaged => cases read
  | .list items =>
    obtain ⟨values, readItems, rfl⟩ := Option.map_eq_some_iff.1 read
    exact itemsDistinct_of_toItems? items readItems
  | .table members =>
    obtain ⟨values, readMembers, rfl⟩ := Option.map_eq_some_iff.1 read
    refine ⟨(OrderedMap.ofList values).distinct, membersHaveDistinctKeys_iff.2 fun member present => ?_⟩
    exact membersDistinct_of_toMembers? members readMembers member
      (OrderedMap.mem_of_get?_ofList (OrderedMap.get?_eq_some_iff.2 present))

theorem itemsDistinct_of_toItems? (items : List Tree) {values : List Json}
    (read : Tree.toItems? items = some values) : ItemsHaveDistinctKeys values := by
  match items with
  | [] =>
    cases read
    trivial
  | item :: rest =>
    unfold Tree.toItems? at read
    split at read
    · cases read
    next value readItem =>
      obtain ⟨others, readRest, rfl⟩ := Option.map_eq_some_iff.1 read
      exact ⟨hasDistinctKeys_of_toJson? item readItem, itemsDistinct_of_toItems? rest readRest⟩

theorem membersDistinct_of_toMembers? (members : List (String × Tree)) {values : List (String × Json)}
    (read : Tree.toMembers? members = some values) : ∀ member ∈ values, member.2.HasDistinctKeys := by
  match members with
  | [] =>
    cases read
    exact fun _ none => absurd none List.not_mem_nil
  | (key, t) :: rest =>
    unfold Tree.toMembers? at read
    split at read
    · cases read
    next value readValue =>
      obtain ⟨others, readRest, rfl⟩ := Option.map_eq_some_iff.1 read
      intro member present
      rcases List.mem_cons.1 present with rfl | inRest
      · exact hasDistinctKeys_of_toJson? t readValue
      · exact membersDistinct_of_toMembers? rest readRest member inRest

end

mutual

/-- Nothing in the tree of a value is damaged. -/
theorem isSound_ofJson (value : Json) : (Tree.ofJson value).isSound = true := by
  match value with
  | .null => rfl
  | .bool b => rfl
  | .number n => rfl
  | .string s => rfl
  | .array items => exact itemsSound_ofItems items
  | .object members => exact membersSound_ofMembers members

theorem itemsSound_ofItems (items : List Json) : Tree.itemsSound (Tree.ofItems items) = true := by
  match items with
  | [] => rfl
  | item :: rest => simp [Tree.ofItems, Tree.itemsSound, isSound_ofJson item, itemsSound_ofItems rest]

theorem membersSound_ofMembers (members : List (String × Json)) :
    Tree.membersSound (Tree.ofMembers members) = true := by
  match members with
  | [] => rfl
  | (key, value) :: rest =>
    simp [Tree.ofMembers, Tree.membersSound, isSound_ofJson value, membersSound_ofMembers rest]

end

/-! ## Values that read back -/

/-- A value with at most `room` levels of nesting, of which every number reads back. -/
structure Readable (room : Nat) (value : Json) : Prop where
  shallow : value.depth ≤ room
  reals : RealsReadBack value

/-- A value that its text says in full: readable, and no object in it repeats a name. -/
structure Storable (room : Nat) (value : Json) : Prop extends Readable room value where
  distinct : value.HasDistinctKeys

section

variable {room more : Nat} {value : Json}

theorem Readable.mono (readable : value.Readable room) (enough : room ≤ more) : value.Readable more :=
  ⟨readable.shallow.trans enough, readable.reals⟩

theorem Storable.mono (storable : value.Storable room) (enough : room ≤ more) : value.Storable more :=
  ⟨storable.toReadable.mono enough, storable.distinct⟩

theorem readable_string (s : String) : (string s).Readable room := ⟨Nat.zero_le _, trivial⟩

theorem readable_ofUInt64 (n : UInt64) : (number (.ofUInt64 n)).Readable room :=
  ⟨Nat.zero_le _, trivial⟩

theorem readable_array {items : List Json} (each : ∀ item ∈ items, item.Readable room) :
    (array items).Readable (room + 1) := by
  have inside : depthOfItems items ≤ room ∧ ItemsReadBack items := by
    induction items with
    | nil => exact ⟨Nat.zero_le _, trivial⟩
    | cons item rest ih =>
      have first := each item List.mem_cons_self
      have others := ih fun item present => each item (List.mem_cons_of_mem _ present)
      exact ⟨max_le first.shallow others.1, first.reals, others.2⟩
  exact ⟨Nat.succ_le_succ inside.1, inside.2⟩

theorem readable_object {members : List (String × Json)}
    (each : ∀ member ∈ members, member.2.Readable room) : (object members).Readable (room + 1) := by
  have inside : depthOfMembers members ≤ room ∧ MembersReadBack members := by
    induction members with
    | nil => exact ⟨Nat.zero_le _, trivial⟩
    | cons member rest ih =>
      have first := each member List.mem_cons_self
      have others := ih fun member present => each member (List.mem_cons_of_mem _ present)
      exact ⟨max_le first.shallow others.1, first.reals, others.2⟩
  exact ⟨Nat.succ_le_succ inside.1, inside.2⟩

theorem read?_compact (readable : value.Readable depthLimit) :
    read? value.compact = some (.ofJson value) := by
  rw [read?, compact, String.toList_ofList]
  exact readChars?_of_spells (spells_compactChars value) readable.reals readable.shallow

theorem read?_indented (readable : value.Readable depthLimit) :
    read? value.indented = some (.ofJson value) := by
  rw [read?, indented, String.toList_ofList]
  exact readChars?_of_spells (spells_indentedChars 0 value) readable.reals readable.shallow

theorem parse?_compact (storable : value.Storable depthLimit) : parse? value.compact = some value := by
  rw [parse?, read?_compact storable.toReadable]
  exact toJson?_ofJson value storable.distinct

theorem parse?_indented (storable : value.Storable depthLimit) :
    parse? value.indented = some value := by
  rw [parse?, read?_indented storable.toReadable]
  exact toJson?_ofJson value storable.distinct

end

end Json

end ModScript
