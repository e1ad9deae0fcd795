import ModScript.Address
import ModScript.Proofs.Script.Lexer
import ModScript.Script.Expression
import ModScript.Script.Names

/-!
# Data in scripts

Names and data values keep the structure of a script: they end what they begin, whatever characters they
hold. A string stands in a literal that it cannot leave, numbers hold no brackets and no quotes, and
arrays and objects close their own brackets. No value has a round bracket on its surface.

Results:
1. `calm_quote`: strings.
2. `calm_compact`, `calm_indented`: data values on one line and on several.
3. `calm_constantLiteral`, `calm_identifier`: what stands in the definition of a constant.
-/

namespace ModScript

/-- The characters begin and end in code, keep every literal on its line, close their brackets, and have
no round bracket on their surface. -/
def Calm (chars : List Char) : Prop :=
  ∀ awaited, Lexer.read ⟨.code, awaited⟩ chars = some ⟨.code, awaited⟩ ∧
    ')' ∉ Lexer.surface ⟨.code, awaited⟩ chars

/-- The characters stay in a literal between double quotes. -/
def Contained (chars : List Char) : Prop :=
  ∀ awaited, Lexer.read ⟨.literal .double, awaited⟩ chars = some ⟨.literal .double, awaited⟩ ∧
    Lexer.surface ⟨.literal .double, awaited⟩ chars = []

theorem Lexer.run_of_read {lexer lexer' : Lexer} {chars : List Char}
    (reads : lexer.read chars = some lexer') : lexer.run chars = some lexer' :=
  have noSource : ∀ text ∈ ([] : List String), Balanced text :=
    fun _ present => absurd present List.not_mem_nil
  Reads.run noSource (.of_read reads)

/-! ## Parts -/

section

variable {chars chars' : List Char}

theorem calm_nil : Calm [] := fun _ => ⟨rfl, List.not_mem_nil⟩

theorem Calm.append (calm : Calm chars) (calm' : Calm chars') : Calm (chars ++ chars') := by
  intro awaited
  obtain ⟨reads, quiet⟩ := calm awaited
  obtain ⟨reads', quiet'⟩ := calm' awaited
  rw [Lexer.read_append, reads, Lexer.surface_append (Lexer.run_of_read reads)]
  exact ⟨reads', fun present => (List.mem_append.1 present).elim quiet quiet'⟩

theorem Contained.append (contained : Contained chars) (contained' : Contained chars') :
    Contained (chars ++ chars') := by
  intro awaited
  obtain ⟨reads, hidden⟩ := contained awaited
  obtain ⟨reads', hidden'⟩ := contained' awaited
  rw [Lexer.read_append, reads, Lexer.surface_append (Lexer.run_of_read reads), hidden, hidden']
  exact ⟨reads', rfl⟩

theorem contained_flatMap {α : Type} {write : α → List Char} {items : List α}
    (each : ∀ item ∈ items, Contained (write item)) : Contained (items.flatMap write) := by
  induction items with
  | nil => exact fun _ => ⟨rfl, rfl⟩
  | cons item rest ih =>
    obtain ⟨first, others⟩ := List.forall_mem_cons.1 each
    exact first.append (ih others)

theorem calm_char {c : Char} (plain : signOf c = .plain) : Calm [c] := by
  intro awaited
  have stays : Lexer.step ⟨.code, awaited⟩ c = some ⟨.code, awaited⟩ := by
    simp only [Lexer.step, plain]
  refine ⟨by simp [Lexer.read, stays], ?_⟩
  have other : c ≠ ')' := by
    rintro rfl
    exact absurd plain (by decide)
  simp only [Lexer.surface, stays]
  split <;> simp [other.symm]

theorem calm_of_plain (plain : ∀ c ∈ chars, signOf c = .plain) : Calm chars := by
  induction chars with
  | nil => exact calm_nil
  | cons c rest ih =>
    obtain ⟨first, others⟩ := List.forall_mem_cons.1 plain
    exact (calm_char first).append (ih others)

/-- Neither quotes nor brackets. -/
def isPlain (chars : List Char) : Bool := chars.all fun c => signOf c == .plain

theorem calm_plain (plain : isPlain chars = true) : Calm chars :=
  calm_of_plain fun c present => eq_of_beq (List.all_eq_true.1 plain c present)

theorem Calm.cons {c : Char} (calm : Calm chars) (plain : signOf c = .plain) : Calm (c :: chars) :=
  (calm_char plain).append calm

/-- A text in brackets; round ones would be on the surface. -/
theorem Calm.between {bracket : Bracket} {c c' : Char} (calm : Calm chars)
    (opens : signOf c = .opening bracket) (closes : signOf c' = .closing bracket)
    (other : bracket ≠ .round) : Calm (c :: chars ++ [c']) := by
  intro awaited
  obtain ⟨reads, quiet⟩ := calm (bracket :: awaited)
  have enters : Lexer.step ⟨.code, awaited⟩ c = some ⟨.code, bracket :: awaited⟩ := by
    simp only [Lexer.step, opens]
  have leaves : Lexer.step ⟨.code, bracket :: awaited⟩ c' = some ⟨.code, awaited⟩ := by
    simp [Lexer.step, closes, Lexer.close]
  have notOpen : c ≠ ')' := by
    rintro rfl
    simp [signOf] at opens
  have notClose : c' ≠ ')' := by
    rintro rfl
    exact other (by simpa [signOf] using closes.symm)
  constructor
  · simp [Lexer.read, enters, Lexer.read_append, reads, leaves]
  · have rest : ')' ∉ Lexer.surface ⟨.code, bracket :: awaited⟩ (chars ++ [c']) := by
      rw [Lexer.surface_append (Lexer.run_of_read reads)]
      simp only [List.mem_append, not_or, Lexer.surface, leaves]
      refine ⟨quiet, ?_⟩
      split <;> simp [notClose.symm]
    simp only [List.cons_append, Lexer.surface, enters]
    split
    · exact List.not_mem_cons_of_ne_of_not_mem notOpen.symm rest
    · exact rest

/-- A text that stays in its literal, between quotes. -/
theorem Contained.quoted (contained : Contained chars) : Calm ('"' :: chars ++ ['"']) := by
  intro awaited
  obtain ⟨reads, hidden⟩ := contained awaited
  have enters : Lexer.step ⟨.code, awaited⟩ '"' = some ⟨.literal .double, awaited⟩ := rfl
  have leaves : Lexer.step ⟨.literal .double, awaited⟩ '"' = some ⟨.code, awaited⟩ := rfl
  constructor
  · simp [Lexer.read, enters, Lexer.read_append, reads, leaves, isLineBreak]
  · have rest : ')' ∉ Lexer.surface ⟨.literal .double, awaited⟩ (chars ++ ['"']) := by
      rw [Lexer.surface_append (Lexer.run_of_read reads), hidden]
      simp only [List.nil_append, Lexer.surface, leaves]
      split <;> simp
    simp only [List.cons_append, Lexer.surface, enters]
    split
    · exact List.not_mem_cons_of_ne_of_not_mem (by decide) rest
    · exact rest

end

/-! ## Strings -/

/-- Neither a quote nor a bracket nor a backslash nor the end of a line. -/
def IsInert (c : Char) : Prop := signOf c = .plain ∧ c ≠ '\\' ∧ isLineBreak c = false

instance (c : Char) : Decidable (IsInert c) := inferInstanceAs (Decidable (_ ∧ _ ∧ _))

theorem contained_char {c : Char} (unquoted : c ≠ '"') (unescaped : c ≠ '\\')
    (unbroken : isLineBreak c = false) : Contained [c] := by
  intro awaited
  have stays : Lexer.step ⟨.literal .double, awaited⟩ c = some ⟨.literal .double, awaited⟩ :=
    (if_neg unescaped).trans (if_neg unquoted)
  simp [Lexer.read, Lexer.surface, stays, unbroken, Lexer.ground]

/-- A character behind a backslash. -/
theorem contained_escape {c : Char} (unbroken : isLineBreak c = false) : Contained ['\\', c] := by
  intro awaited
  have enters : Lexer.step ⟨.literal .double, awaited⟩ '\\' = some ⟨.escape .double, awaited⟩ := rfl
  have leaves : Lexer.step ⟨.escape .double, awaited⟩ c = some ⟨.literal .double, awaited⟩ := rfl
  have slash : isLineBreak '\\' = false := rfl
  simp [Lexer.read, Lexer.surface, enters, leaves, unbroken, slash, Lexer.ground]

theorem IsInert.contained {c : Char} (inert : IsInert c) : Contained [c] := by
  refine contained_char ?_ inert.2.1 inert.2.2
  rintro rfl
  exact absurd inert (by decide)

theorem isInert_digitChar (d : Nat) : IsInert (Nat.digitChar d) := by
  have digits : ∀ d < 16, IsInert (Nat.digitChar d) := by decide
  by_cases small : d < 16
  · exact digits d small
  · have other : Nat.digitChar d = '*' := by
      unfold Nat.digitChar
      repeat rw [if_neg (by omega)]
    rw [other]
    decide

theorem contained_escapedChar (c : Char) : Contained (Json.escapedChar c) := by
  unfold Json.escapedChar
  split
  case h_8 unquoted unescaped _ _ lineFeed carriageReturn _ =>
    split
    · exact (((contained_escape (by decide)).append (IsInert.contained (by decide))).append
        (IsInert.contained (by decide))).append
        ((isInert_digitChar _).contained.append (isInert_digitChar _).contained)
    · refine contained_char unquoted unescaped ?_
      simp only [isLineBreak, Bool.or_eq_false_iff, beq_eq_false_iff_ne]
      exact ⟨lineFeed, carriageReturn⟩
  all_goals exact contained_escape (by decide)

theorem calm_quoteChars (chars : List Char) : Calm (Json.quoteChars chars) :=
  (contained_flatMap fun c _ => contained_escapedChar c).quoted

theorem calm_quote (s : String) : Calm (Json.quote s).toList := by
  rw [Json.quote, String.toList_ofList]
  exact calm_quoteChars s.toList

/-! ## Numbers -/

theorem plain_toDigitsCore {base fuel n : Nat} {digits : List Char}
    (plain : ∀ c ∈ digits, signOf c = .plain) :
    ∀ c ∈ Nat.toDigitsCore base fuel n digits, signOf c = .plain := by
  induction fuel generalizing n digits with
  | zero => exact plain
  | succ fuel ih =>
    have longer : ∀ c ∈ Nat.digitChar (n % base) :: digits, signOf c = .plain :=
      List.forall_mem_cons.2 ⟨(isInert_digitChar _).1, plain⟩
    rw [Nat.toDigitsCore]
    split
    · exact longer
    · exact ih longer

theorem plain_toDigits (base n : Nat) : ∀ c ∈ Nat.toDigits base n, signOf c = .plain :=
  plain_toDigitsCore fun _ present => absurd present List.not_mem_nil

theorem calm_toDigits (base n : Nat) : Calm (Nat.toDigits base n) :=
  calm_of_plain (plain_toDigits base n)

theorem calm_sign (negative : Prop) [Decidable negative] : Calm (if negative then ['-'] else []) := by
  split
  · exact calm_char (by decide)
  · exact calm_nil

theorem calm_replicate (n : Nat) {c : Char} (plain : signOf c = .plain) : Calm (List.replicate n c) :=
  calm_of_plain fun _ present => (List.eq_of_mem_replicate present).symm ▸ plain

theorem calm_decimalChars (d : Decimal) : Calm (Binary64.decimalChars d) := by
  have digits := plain_toDigits 10 d.digits
  have some (n : Nat) : Calm ((Nat.toDigits 10 d.digits).take n) :=
    calm_of_plain fun c present => digits c (List.mem_of_mem_take present)
  have others (n : Nat) : Calm ((Nat.toDigits 10 d.digits).drop n) :=
    calm_of_plain fun c present => digits c (List.mem_of_mem_drop present)
  have zero : signOf '0' = .plain := by decide
  have point : signOf '.' = .plain := by decide
  unfold Binary64.decimalChars
  dsimp only
  split
  · unfold Binary64.positional
    split
    · exact (((calm_replicate _ zero).append (calm_of_plain digits)).cons point).cons zero
    · refine ((some _).append (calm_replicate _ zero)).append (Calm.cons ?_ point)
      split
      · exact calm_char zero
      · exact others _
  · unfold Binary64.scientific
    refine ((some 1).append ?_).append (Calm.cons (Calm.cons (calm_toDigits 10 _) ?_) (by decide))
    · split
      · exact calm_nil
      · exact (others 1).cons point
    · split <;> decide

theorem calm_numberChars (n : Number) : Calm (Json.numberChars n) := by
  cases n with
  | whole n _ => exact (calm_sign _).append (calm_toDigits 10 _)
  | real x _ => exact (calm_sign _).append (calm_decimalChars _)

/-! ## Data values -/

theorem calm_key (key : String) {chars : List Char} (calm : Calm chars) :
    Calm (Json.quoteChars key.toList ++ ':' :: chars) :=
  (calm_quoteChars _).append (calm.cons (by decide))

mutual

theorem calm_compactChars (value : Json) : Calm (Json.compactChars value) := by
  match value with
  | .null => exact calm_plain (by decide)
  | .bool true => exact calm_plain (by decide)
  | .bool false => exact calm_plain (by decide)
  | .number n => exact calm_numberChars n
  | .string s => exact calm_quoteChars s.toList
  | .array items => exact (calm_compactItems items).between rfl rfl nofun
  | .object members => exact (calm_compactMembers members).between rfl rfl nofun

theorem calm_compactItems (items : List Json) : Calm (Json.compactItems items) := by
  match items with
  | [] => exact calm_nil
  | [item] => exact calm_compactChars item
  | item :: other :: rest =>
    exact (calm_compactChars item).append ((calm_compactItems (other :: rest)).cons (by decide))

theorem calm_compactMembers (members : List (String × Json)) : Calm (Json.compactMembers members) := by
  match members with
  | [] => exact calm_nil
  | [(key, value)] => exact calm_key key (calm_compactChars value)
  | (key, value) :: other :: rest =>
    exact (calm_key key (calm_compactChars value)).append
      ((calm_compactMembers (other :: rest)).cons (by decide))

end

theorem calm_lineStart (level : Nat) : Calm (Json.lineStart level) :=
  (calm_replicate _ (by decide)).cons (by decide)

mutual

theorem calm_indentedChars (level : Nat) (value : Json) : Calm (Json.indentedChars level value) := by
  match value with
  | .null => exact calm_compactChars .null
  | .bool true => exact calm_compactChars (.bool true)
  | .bool false => exact calm_compactChars (.bool false)
  | .number n => exact calm_numberChars n
  | .string s => exact calm_quoteChars s.toList
  | .array items =>
    rw [Json.indentedChars]
    split
    · exact calm_nil.between rfl rfl nofun
    · exact ((calm_indentedItems (level + 1) items).append (calm_lineStart level)).between rfl rfl nofun
  | .object members =>
    rw [Json.indentedChars]
    split
    · exact calm_nil.between rfl rfl nofun
    · exact ((calm_indentedMembers (level + 1) members).append (calm_lineStart level)).between rfl rfl
        nofun

theorem calm_indentedItems (level : Nat) (items : List Json) :
    Calm (Json.indentedItems level items) := by
  match items with
  | [] => exact calm_nil
  | [item] => exact (calm_lineStart level).append (calm_indentedChars level item)
  | item :: other :: rest =>
    exact ((calm_lineStart level).append (calm_indentedChars level item)).append
      ((calm_indentedItems level (other :: rest)).cons (by decide))

theorem calm_indentedMembers (level : Nat) (members : List (String × Json)) :
    Calm (Json.indentedMembers level members) := by
  have member (key : String) {chars : List Char} (calm : Calm chars) :
      Calm (Json.lineStart level ++ Json.quoteChars key.toList ++ ':' :: ' ' :: chars) :=
    ((calm_lineStart level).append (calm_quoteChars _)).append ((calm.cons (by decide)).cons (by decide))
  match members with
  | [] => exact calm_nil
  | [(key, value)] => exact member key (calm_indentedChars level value)
  | (key, value) :: other :: rest =>
    exact (member key (calm_indentedChars level value)).append
      ((calm_indentedMembers level (other :: rest)).cons (by decide))

end

theorem calm_compact (value : Json) : Calm value.compact.toList := by
  rw [Json.compact, String.toList_ofList]
  exact calm_compactChars value

theorem calm_indented (value : Json) : Calm value.indented.toList := by
  rw [Json.indented, String.toList_ofList]
  exact calm_indentedChars 0 value

/-! ## Constants, addresses and names -/

theorem calm_hexLiteral (n : Int) : Calm (hexLiteral n).toList := by
  rw [hexLiteral, String.toList_append, String.toList_ofList]
  refine Calm.append ?_ (calm_toDigits 16 _)
  split <;> exact calm_plain (by decide)

theorem calm_constantLiteral (value : Json) : Calm (constantLiteral value).toList := by
  unfold constantLiteral
  split
  · exact calm_hexLiteral _
  · exact calm_compact _

theorem calm_address (address : Address) : Calm address.text.toList := by
  rw [Address.text, String.toList_ofList]
  exact ((calm_toDigits 16 _).cons (by decide)).cons (by decide)

theorem calm_toString (n : Nat) : Calm (toString n).toList := by
  rw [Nat.toString_eq_ofList_toDigits, String.toList_ofList]
  exact calm_toDigits 10 n

theorem plain_of_continuesIdentifier {c : Char} (continues : continuesIdentifier c = true) :
    signOf c = .plain := by
  unfold signOf
  split
  all_goals first
    | rfl
    | exact absurd continues (by decide)

/-- A name has characters, and all of them are those of names. -/
theorem continues_of_isIdentifier {name : String} (identifier : isIdentifier name = true) :
    name.toList ≠ [] ∧ ∀ c ∈ name.toList, continuesIdentifier c = true := by
  unfold isIdentifier at identifier
  cases chars : name.toList with
  | nil =>
    rw [chars] at identifier
    cases identifier
  | cons c rest =>
    rw [chars] at identifier
    simp only [isIdentifierChars, Bool.and_eq_true, List.all_eq_true] at identifier
    obtain ⟨begins, continues⟩ := identifier
    have first : continuesIdentifier c = true := by
      simp only [beginsIdentifier, continuesIdentifier, Char.isAlphanum, Bool.or_eq_true] at begins ⊢
      exact begins.imp_left fun begins => begins.imp_left .inl
    exact ⟨List.cons_ne_nil _ _, List.forall_mem_cons.2 ⟨first, continues⟩⟩

theorem calm_identifier {name : String} (identifier : isIdentifier name = true) : Calm name.toList :=
  calm_of_plain fun c present => plain_of_continuesIdentifier ((continues_of_isIdentifier identifier).2 c present)

end ModScript
