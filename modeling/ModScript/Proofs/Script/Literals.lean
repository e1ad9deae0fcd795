import Mathlib.Algebra.Ring.Parity
import ModScript.Proofs.Script.Lexer
import ModScript.Proofs.Script.Lines

/-!
# Literals

A string is written between double quotes. A character in it is escaped if an odd number of backslashes
stands right before it, and a lexer leaves the literal at the first quote that is not escaped, whatever
stands behind it. So a string is safe if none of its own quotes is such a quote, and if its backslashes
do not escape the quote at the end.

Scripts know more escapes than data files. Every string of a data text is also a literal of a script, with
the same meaning, so what is written for readers of data is decoded alike where the script is run.

Results:
1. `Lexer.literalEnd?_of_escaped`: a lexer leaves a literal at the first quote that is not escaped.
2. `Json.Enclosed.escaping_or`: where quotes and backslashes stand inside a quoted string.
3. `scriptLiteral?_of_literal?`: strings of data texts are literals of scripts.
4. `Json.quote_safe_and_faithful`: quoted strings.
-/

namespace ModScript

/-! ## Escaped characters -/

/-- An odd number of backslashes at the end escapes what stands behind the characters. -/
def Escaping (chars : List Char) : Prop := Odd (chars.rtakeWhile (· == '\\')).length

instance (chars : List Char) : Decidable (Escaping chars) := inferInstanceAs (Decidable (Odd _))

theorem escaping_concat (chars : List Char) (c : Char) :
    Escaping (chars ++ [c]) ↔ c = '\\' ∧ ¬ Escaping chars := by
  rw [Escaping, List.rtakeWhile_concat]
  split
  next slash =>
    rw [List.length_append, List.length_singleton, Nat.odd_add_one]
    exact (and_iff_right (eq_of_beq slash)).symm
  next other =>
    have plain : c ≠ '\\' := fun slash => other (beq_iff_eq.2 slash)
    exact iff_of_false (by decide) fun both => plain both.1

/-- Whether a character escapes the next one; it does not if it is escaped itself. -/
def escapesNext (escaped : Bool) (c : Char) : Bool := !escaped && c == '\\'

/-- Backslashes count from the left as they do from the right. -/
theorem escaping_iff_foldl (chars : List Char) : Escaping chars ↔ chars.foldl escapesNext false = true := by
  induction chars using List.reverseRecOn with
  | nil => decide
  | append_singleton chars c ih =>
    rw [escaping_concat, ih, List.foldl_append]
    simp [escapesNext, and_comm]

theorem escaping_cons {c : Char} (plain : c ≠ '\\') (chars : List Char) :
    Escaping (c :: chars) ↔ Escaping chars := by
  have stays : escapesNext false c = false := by simp [escapesNext, plain]
  rw [escaping_iff_foldl, escaping_iff_foldl, List.foldl_cons, stays]

theorem escaping_escape (sign : Char) (chars : List Char) :
    Escaping ('\\' :: sign :: chars) ↔ Escaping chars := by
  rw [escaping_iff_foldl, escaping_iff_foldl]
  rfl

/-! ## The end of a literal -/

/-- In a literal; the next character may be escaped. -/
def LexerMode.within (quote : QuoteSign) (escaped : Bool) : LexerMode :=
  if escaped then .escape quote else .literal quote

namespace Lexer

/-- What stands in the literal that a lexer is in, and what stands behind the quote that closes it. -/
def literalEnd? (lexer : Lexer) : List Char → Option (List Char × List Char)
  | [] => none
  | c :: rest =>
    (lexer.step c).bind fun next =>
      if next.mode = .code then some ([], rest)
      else (next.literalEnd? rest).map fun found => (c :: found.1, found.2)

theorem step_within {quote : QuoteSign} {escaped : Bool} {c : Char} (awaited : List Bracket)
    (stays : c = quote.char → escaped = true) :
    step ⟨.within quote escaped, awaited⟩ c = some ⟨.within quote (escapesNext escaped c), awaited⟩ := by
  cases escaped with
  | true => rfl
  | false =>
    have inside : c ≠ quote.char := fun same => Bool.false_ne_true (stays same)
    by_cases slash : c = '\\'
    · subst slash
      rfl
    · have plain : escapesNext false c = false := by simp [escapesNext, slash]
      rw [plain]
      exact (if_neg slash).trans (if_neg inside)

theorem within_ne_code (quote : QuoteSign) (escaped : Bool) : LexerMode.within quote escaped ≠ .code := by
  cases escaped <;> nofun

/-- A lexer leaves a literal at the first quote that is not escaped. -/
theorem literalEnd?_of_escaped {quote : QuoteSign} {inside : List Char}
    (escaped : ∀ before behind, inside = before ++ quote.char :: behind → Escaping before)
    (closes : ¬ Escaping inside) (awaited : List Bracket) (rest : List Char) :
    literalEnd? ⟨.literal quote, awaited⟩ (inside ++ quote.char :: rest) = some (inside, rest) := by
  -- On the way the lexer may be behind a backslash, so the induction is on the characters with that flag.
  have go (flag : Bool) (chars : List Char)
      (escaped : ∀ before behind, chars = before ++ quote.char :: behind →
        before.foldl escapesNext flag = true)
      (closes : chars.foldl escapesNext flag = false) :
      literalEnd? ⟨.within quote flag, awaited⟩ (chars ++ quote.char :: rest) = some (chars, rest) := by
    induction chars generalizing flag with
    | nil =>
      obtain rfl : flag = false := closes
      cases quote <;> rfl
    | cons c chars ih =>
      have stays : c = quote.char → flag = true := fun same => escaped [] chars (congrArg (· :: chars) same)
      have others : ∀ before behind, chars = before ++ quote.char :: behind →
          before.foldl escapesNext (escapesNext flag c) = true :=
        fun before behind split => escaped (c :: before) behind (congrArg (c :: ·) split)
      rw [List.cons_append, literalEnd?, step_within awaited stays, Option.bind_some,
        if_neg (within_ne_code _ _), ih _ others closes]
      rfl
  refine go false inside (fun before behind split => ?_) ?_
  · exact (escaping_iff_foldl before).1 (escaped before behind split)
  · exact Bool.eq_false_iff.2 (mt (escaping_iff_foldl inside).2 closes)

end Lexer

/-! ## Inside a quoted string -/

namespace Json

/-- What stands behind a backslash in a quoted string. -/
def escapeSigns : List Char := ['"', '\\', 'b', 'f', 'n', 'r', 't', 'u']

/-- The characters are such that need no backslash, and backslashes with the signs behind them. -/
inductive Enclosed : List Char → Prop
  | nil : Enclosed []
  | plain {c : Char} {rest : List Char} : c ≠ '"' → c ≠ '\\' → Enclosed rest → Enclosed (c :: rest)
  | escape {sign : Char} {rest : List Char} : sign ∈ escapeSigns → Enclosed rest →
    Enclosed ('\\' :: sign :: rest)

theorem Enclosed.not_escaping {chars : List Char} (enclosed : Enclosed chars) : ¬ Escaping chars := by
  induction enclosed with
  | nil => decide
  | plain _ slash _ ih => rwa [escaping_cons slash]
  | escape _ _ ih => rwa [escaping_escape]

/-- Each quote inside is escaped, and each backslash is escaped or escapes a sign. -/
theorem Enclosed.escaping_or {chars before behind : List Char} {c : Char} (enclosed : Enclosed chars)
    (split : chars = before ++ c :: behind) :
    Escaping before ∨
      c ≠ '"' ∧ (c = '\\' → ∃ sign more, behind = sign :: more ∧ sign ∈ escapeSigns) := by
  induction enclosed generalizing before with
  | nil => exact absurd split.symm (List.append_ne_nil_of_right_ne_nil _ (List.cons_ne_nil _ _))
  | plain quote slash _ ih =>
    cases before with
    | nil =>
      obtain ⟨rfl, rfl⟩ := List.cons.inj split
      exact .inr ⟨quote, fun same => absurd same slash⟩
    | cons first before =>
      obtain ⟨rfl, others⟩ := List.cons.inj split
      rw [escaping_cons slash]
      exact ih others
  | @escape sign rest known _ ih =>
    match before with
    | [] =>
      obtain ⟨rfl, rfl⟩ := List.cons.inj split
      exact .inr ⟨by decide, fun _ => ⟨sign, rest, rfl, known⟩⟩
    | [first] =>
      obtain ⟨rfl, -⟩ := List.cons.inj split
      exact .inl (by decide)
    | first :: second :: before =>
      obtain ⟨rfl, behindSlash⟩ := List.cons.inj split
      obtain ⟨rfl, others⟩ := List.cons.inj behindSlash
      rw [escaping_escape]
      exact ih others

theorem enclosed_hexDigit {n : Nat} (small : n < 16) {rest : List Char} (enclosed : Enclosed rest) :
    Enclosed (hexDigit n :: rest) := by
  have digits : ∀ n < 16, hexDigit n ≠ '"' ∧ hexDigit n ≠ '\\' := by decide
  exact .plain (digits n small).1 (digits n small).2 enclosed

theorem Enclosed.escapedChar_append {rest : List Char} (enclosed : Enclosed rest) (c : Char) :
    Enclosed (escapedChar c ++ rest) := by
  unfold escapedChar
  split
  case h_8 unquoted unescaped _ _ _ _ _ =>
    split
    next low =>
      have digits : Enclosed (hexDigit (c.toNat / 16) :: hexDigit (c.toNat % 16) :: rest) :=
        enclosed_hexDigit (by omega) (enclosed_hexDigit (by omega) enclosed)
      exact .escape (by decide) (.plain (by decide) (by decide) (.plain (by decide) (by decide) digits))
    next => exact .plain unquoted unescaped enclosed
  all_goals exact .escape (by decide) enclosed

theorem enclosed_flatMap (s : List Char) : Enclosed (s.flatMap escapedChar) := by
  induction s with
  | nil => exact .nil
  | cons c s ih => exact ih.escapedChar_append c

end Json

/-! ## Literals of scripts -/

/-- Whether a line of a script ends at the character. -/
def endsLine (c : Char) : Bool := isLineBreak c || c == '\u2028' || c == '\u2029'

/-- What a character behind a backslash stands for, if it stands for one character. -/
def escapeMeaning : Char → Char
  | 'b' => '\x08'
  | 'f' => '\x0c'
  | 'n' => '\n'
  | 'r' => '\r'
  | 't' => '\t'
  | 'v' => '\x0b'
  | c => c

/-- A code point of which some digits were read, and what stands behind its bracket. -/
def codePoint? (n : Nat) : List Char → Option (Nat × List Char)
  | [] => none
  | c :: rest =>
    if c = '\x7d' then some (n, rest)
    else
      match Json.hexValue? c with
      | none => none
      | some value =>
        if 16 * n + value < 0x110000 then codePoint? (16 * n + value) rest else none

/-- An escape of a script, from behind its backslash on, added to what was read. A line break adds nothing. A
zero alone is the character U+0000; other digits are refused, as in strict code. -/
def escape? (read : Json.PartialString) : List Char → Option (Json.PartialString × List Char)
  | 'u' :: '\x7b' :: c :: rest =>
    (Json.hexValue? c).bind fun n =>
      (codePoint? n rest).map fun found => (read.addUnit found.1, found.2)
  | 'u' :: a :: b :: c :: d :: rest => (Json.fourHex? a b c d).map fun n => (read.addUnit n, rest)
  | 'x' :: a :: b :: rest => (Json.fourHex? '0' '0' a b).map fun n => (read.addUnit n, rest)
  | '\r' :: '\n' :: rest => some (read, rest)
  | c :: rest =>
    if endsLine c then some (read, rest)
    else if c = 'u' ∨ c = 'x' then none
    else if Json.isDigit c then
      if c = '0' ∧ rest.head?.any Json.isDigit = false then some (read.add '\x00', rest) else none
    else some (read.add (escapeMeaning c), rest)
  | [] => none

theorem length_lt_of_codePoint? {n m : Nat} {cs rest : List Char} (found : codePoint? n cs = some (m, rest)) :
    rest.length < cs.length := by
  induction cs generalizing n with
  | nil => cases found
  | cons c cs ih =>
    rw [codePoint?] at found
    split at found
    · cases found
      exact Nat.lt_succ_self _
    · split at found
      · cases found
      · split at found
        · exact Nat.lt_succ_of_lt (ih found)
        · cases found

theorem length_lt_of_escape? {read read' : Json.PartialString} {cs rest : List Char}
    (found : escape? read cs = some (read', rest)) : rest.length < cs.length := by
  unfold escape? at found
  split at found
  case h_1 =>
    obtain ⟨n, -, braced⟩ := Option.bind_eq_some_iff.1 found
    obtain ⟨code, closed, same⟩ := Option.map_eq_some_iff.1 braced
    cases same
    have shorter := length_lt_of_codePoint? closed
    simp only [List.length_cons]
    omega
  case h_2 | h_3 =>
    obtain ⟨n, -, same⟩ := Option.map_eq_some_iff.1 found
    cases same
    simp only [List.length_cons]
    omega
  case h_4 =>
    cases found
    simp only [List.length_cons]
    omega
  case h_5 =>
    split_ifs at found
    all_goals
      cases found
      exact Nat.lt_succ_self _
  case h_6 => cases found

/-- What a literal of a script stands for, from behind its opening quote on, and what follows it. -/
def scriptRest? (read : Json.PartialString) (cs : List Char) : Option (Json.PartialString × List Char) :=
  match cs with
  | [] => none
  | '"' :: rest => some (read, rest)
  | '\\' :: rest =>
    match found : escape? read rest with
    | none => none
    | some (read', behind) =>
      have := length_lt_of_escape? found
      scriptRest? read' behind
  -- The other characters that end a line may stand in a literal.
  | c :: rest => if isLineBreak c then none else scriptRest? (read.add c) rest
termination_by cs.length
decreasing_by
  · exact Nat.lt_succ_of_lt this
  · exact Nat.lt_succ_self _

/-- The string of a script's literal at the front, and what stands behind the literal. Half a surrogate pair
is no character, so a literal with one has no string. -/
def scriptLiteral? : List Char → Option (String × List Char)
  | '"' :: rest =>
    (scriptRest? .empty rest).bind fun found => found.1.finish?.map fun s => (s, found.2)
  | _ => none

theorem not_isLineBreak_of_le {c : Char} (high : 0x20 ≤ c.toNat) : isLineBreak c = false := by
  refine Bool.eq_false_iff.2 fun breaks => ?_
  rcases Bool.or_eq_true_iff.1 breaks with feed | feed
  all_goals
    obtain rfl := eq_of_beq feed
    exact absurd high (by decide)

theorem scriptRest?_escape {read read' : Json.PartialString} {cs behind : List Char}
    (found : escape? read cs = some (read', behind)) :
    scriptRest? read ('\\' :: cs) = scriptRest? read' behind := by
  rw [scriptRest?]
  split
  next none => simp [none] at found
  next same =>
    rw [found] at same
    cases same
    rfl

/-- Escapes of one sign in data texts are escapes of scripts. -/
theorem escape?_short {read : Json.PartialString} {c e : Char} (rest : List Char)
    (short : Json.shortEscape? c = some e) : escape? read (c :: rest) = some (read.add e, rest) := by
  unfold Json.shortEscape? at short
  split at short
  all_goals cases short
  all_goals rfl

theorem escape?_four {read : Json.PartialString} {a b c d : Char} {n : Nat} (rest : List Char)
    (four : Json.fourHex? a b c d = some n) :
    escape? read ('u' :: a :: b :: c :: d :: rest) = some (read.addUnit n, rest) := by
  have bracket : a ≠ '\x7b' := by
    rintro rfl
    cases four
  rw [escape?, four]
  · rfl
  · exact bracket

theorem scriptRest?_of_stringRest? {read : Json.PartialString} {cs rest : List Char} {found : Option String}
    (data : Json.stringRest? read cs = some (found, rest)) :
    ∃ script, scriptRest? read cs = some (script, rest) ∧ script.finish? = found := by
  fun_induction Json.stringRest? read cs with
  | case1 => cases data
  | case2 read rest =>
    cases data
    exact ⟨read, by rw [scriptRest?], rfl⟩
  | case3 => cases data
  | case4 read a b c d rest n four ih =>
    rw [scriptRest?_escape (escape?_four rest four)]
    exact ih data
  | case5 => cases data
  | case6 read c rest _ e short ih =>
    rw [scriptRest?_escape (escape?_short rest short)]
    exact ih data
  | case7 => cases data
  | case8 read c rest unquoted _ _ plain ih =>
    have unescaped : c ≠ '\\' := fun slash => plain (.inr slash)
    have unbroken : isLineBreak c = false :=
      not_isLineBreak_of_le (Nat.le_of_not_lt fun low => plain (.inl low))
    rw [scriptRest?, unbroken, if_neg Bool.false_ne_true]
    · exact ih data
    · exact unquoted
    · exact unescaped

/-- Strings of data texts are literals of scripts, with the same meaning. -/
theorem scriptLiteral?_of_literal? {chars rest : List Char} {s : String}
    (data : literal? chars = some (s, rest)) : scriptLiteral? chars = some (s, rest) := by
  unfold literal? at data
  split at data
  next chars =>
    obtain ⟨found, read, named⟩ := Option.bind_eq_some_iff.1 data
    obtain ⟨s', finished, same⟩ := Option.map_eq_some_iff.1 named
    cases same
    obtain ⟨script, ends, means⟩ := scriptRest?_of_stringRest? read
    rw [scriptLiteral?, ends, Option.bind_some, means, finished]
    rfl
  next => cases data

example : literal? "\"\\x41\"".toList = none ∧ scriptLiteral? "\"\\x41\"".toList = some ("A", []) := by
  decide +kernel

/-! ## Quoted strings -/

namespace Json

/-- No control character stands in a quoted string. -/
theorem le_of_mem_quote {s : String} {c : Char} (present : c ∈ (quote s).toList) : 0x20 ≤ c.toNat := by
  rw [quote, String.toList_ofList, quoteChars, List.cons_append, List.mem_cons, List.mem_append,
    List.mem_singleton, List.mem_flatMap] at present
  rcases present with rfl | ⟨d, -, inside⟩ | rfl
  · decide
  · exact le_of_mem_escapedChar inside
  · decide

/-- A quoted string begins and ends with a quote and holds no control character. The quotes inside are escaped,
and so are the backslashes, unless they escape a sign; so a lexer leaves the literal at its last quote, whatever
brackets are open there and whatever follows. Readers of data and scripts decode the literal to the string, so
different strings are written differently. -/
theorem quote_safe_and_faithful (s : String) :
    ∃ inside : List Char,
      (quote s).toList = '"' :: inside ++ ['"'] ∧
      (∀ c ∈ (quote s).toList, 0x20 ≤ c.toNat) ∧
      (∀ before behind, inside = before ++ '"' :: behind → Escaping before) ∧
      (∀ before behind, inside = before ++ '\\' :: behind →
        Escaping before ∨ ∃ sign more, behind = sign :: more ∧ sign ∈ escapeSigns) ∧
      (∀ awaited rest,
        Lexer.literalEnd? ⟨.literal .double, awaited⟩ (inside ++ '"' :: rest) = some (inside, rest)) ∧
      (∀ rest, literal? ((quote s).toList ++ rest) = some (s, rest)) ∧
      (∀ rest, scriptLiteral? ((quote s).toList ++ rest) = some (s, rest)) ∧
      ∀ s', quote s' = quote s → s' = s := by
  have enclosed : Enclosed (s.toList.flatMap escapedChar) := enclosed_flatMap s.toList
  have quotes : ∀ before behind, s.toList.flatMap escapedChar = before ++ '"' :: behind → Escaping before :=
    fun before behind split => (enclosed.escaping_or split).resolve_right fun plain => plain.1 rfl
  refine ⟨s.toList.flatMap escapedChar, ?_, fun c => le_of_mem_quote, quotes, ?_, ?_, ?_, ?_, ?_⟩
  · rw [quote, String.toList_ofList, quoteChars]
  · exact fun before behind split => (enclosed.escaping_or split).imp_right fun slash => slash.2 rfl
  · exact Lexer.literalEnd?_of_escaped quotes enclosed.not_escaping
  · exact literal?_quote s
  · exact fun rest => scriptLiteral?_of_literal? (literal?_quote s rest)
  · intro s' equal
    have decoded := literal?_quote s' []
    rw [equal, literal?_quote s []] at decoded
    cases decoded
    rfl

/-- Two backslashes, a quote and two control characters. -/
def slashed : String := "\\\\\"\n\x01"

/-- The same between quotes; five backslashes stand before the quote inside. -/
def slashedInside : List Char := "\\\\\\\\\\\"\\n\\u0001".toList

theorem quote_safe_and_faithful_slashed :
    (quote slashed).toList = '"' :: slashedInside ++ ['"'] ∧ 0x20 ≤ '\\'.toNat ∧
      Escaping "\\\\\\\\\\".toList ∧
      (∃ sign more, "n\\u0001".toList = sign :: more ∧ sign ∈ escapeSigns) ∧
      Lexer.literalEnd? ⟨.literal .double, [.round]⟩ (slashedInside ++ '"' :: ", \"\\\"".toList) =
        some (slashedInside, ", \"\\\"".toList) ∧
      literal? ((quote slashed).toList ++ ['"']) = some (slashed, ['"']) ∧
      scriptLiteral? ((quote slashed).toList ++ ['"']) = some (slashed, ['"']) ∧
      ∀ s', quote s' = quote slashed → s' = slashed := by
  obtain ⟨inside, chars, high, quotes, slashes, leaves, read, decoded, unique⟩ := quote_safe_and_faithful slashed
  have written : (quote slashed).toList = '"' :: slashedInside ++ ['"'] := by decide +kernel
  obtain rfl : inside = slashedInside :=
    List.append_cancel_right (List.cons.inj (chars.symm.trans written)).2
  refine ⟨written, high '\\' (by decide +kernel), ?_, ?_, leaves _ _, read _, decoded _, unique⟩
  · exact quotes _ "\\n\\u0001".toList (by decide +kernel)
  · exact (slashes "\\\\\\\\\\\"".toList _ (by decide +kernel)).resolve_left (by decide +kernel)

end Json

end ModScript
