import Mathlib.Data.List.TakeWhile
import ModScript.Json.Reader
import ModScript.Json.Text

/-!
# Numbers in data texts

A number is read up to the first character that no number contains. What was read to the end of a text is
therefore read alike in front of anything else that begins with no such character.

Results:
1. `Json.numberText?_append`: what stands behind a number does not change it.
2. `Json.numberText?_wholeChars`: a whole number reads back.
3. `Number.ReadsBack.numberText?`: so does every number that reads back when it stands alone.
-/

namespace ModScript

namespace Json

/-- The characters of numbers. -/
def isNumeral (c : Char) : Bool :=
  isDigit c || c == '-' || c == '+' || c == '.' || c == 'e' || c == 'E'

/-- No number goes on into the characters. -/
def Ends (rest : List Char) : Prop := ∀ c ∈ rest.head?, isNumeral c = false

theorem ends_nil : Ends [] := fun _ none => absurd none (by simp)

theorem ends_cons {c : Char} (other : isNumeral c = false) (rest : List Char) : Ends (c :: rest) := by
  intro first same
  obtain rfl : c = first := by simpa using same
  exact other

theorem Ends.head_ne {c d : Char} {rest : List Char} (ends : Ends (c :: rest))
    (numeral : isNumeral d = true) : c ≠ d := by
  rintro rfl
  simp [ends c rfl] at numeral

/-! ## What stands behind a number -/

section

variable {cs rest more digits : List Char} {value : Option Int} {text : NumberText}

theorem takeWhile_of_ends (ends : Ends more) : more.takeWhile isDigit = [] := by
  cases more with
  | nil => rfl
  | cons c more =>
    have other := ends c rfl
    simp only [isNumeral, Bool.or_eq_false_iff] at other
    simp [other.1.1.1.1.1]

/-- Digits end where they end in front of anything that goes on with no digit. -/
theorem digits?_append (ends : Ends more) (found : digits? cs = some (digits, rest)) :
    digits? (cs ++ more) = some (digits, rest ++ more) := by
  have none := takeWhile_of_ends ends
  have left : (cs ++ more).takeWhile isDigit = cs.takeWhile isDigit := by
    rw [List.takeWhile_append, none, List.append_nil]
    split
    next whole => exact ((List.takeWhile_prefix _).eq_of_length whole).symm
    next => rfl
  -- Both sides are what is left of the same text behind the same digits.
  have right : (cs ++ more).dropWhile isDigit = cs.dropWhile isDigit ++ more := by
    have split := List.takeWhile_append_dropWhile (p := isDigit) (l := cs ++ more)
    rw [left] at split
    have whole : cs.takeWhile isDigit ++ (cs ++ more).dropWhile isDigit =
        cs.takeWhile isDigit ++ (cs.dropWhile isDigit ++ more) := by
      rw [split, ← List.append_assoc, List.takeWhile_append_dropWhile]
    exact List.append_cancel_left whole
  unfold digits? at found ⊢
  rw [left, right]
  split at found
  · cases found
  · cases found
    rfl

theorem wholeDigits?_append (ends : Ends more) (found : wholeDigits? cs = some (digits, rest)) :
    wholeDigits? (cs ++ more) = some (digits, rest ++ more) := by
  unfold wholeDigits? at found ⊢
  split at found
  · cases found
  next notZero =>
    rw [digits?_append ends found]
    split
    next second tail _ same =>
      cases same
      exact absurd found (notZero second tail rest)
    next => rfl

theorem fractionDigits?_append (ends : Ends more) (found : fractionDigits? cs = some (digits, rest)) :
    fractionDigits? (cs ++ more) = some (digits, rest ++ more) := by
  unfold fractionDigits? at found
  split at found
  · exact digits?_append ends found
  next noPoint =>
    cases found
    unfold fractionDigits?
    split
    next tail begins =>
      cases cs with
      | nil =>
        have inMore : Ends ('.' :: tail) := begins ▸ (List.nil_append more).symm ▸ ends
        exact absurd rfl (inMore.head_ne (by decide))
      | cons c cs =>
        obtain ⟨rfl, -⟩ := List.cons.inj begins
        exact absurd rfl (noPoint cs)
    next => rfl

/-- The same for digits with a meaning. -/
theorem map_digits?_append {α : Type} (meaning : List Char → α) {value : α} (ends : Ends more)
    (found : ((digits? cs).map fun read => (meaning read.1, read.2)) = some (value, rest)) :
    ((digits? (cs ++ more)).map fun read => (meaning read.1, read.2)) =
      some (value, rest ++ more) := by
  obtain ⟨⟨digits, rest'⟩, read, same⟩ := Option.map_eq_some_iff.1 found
  cases same
  rw [digits?_append ends read]
  rfl

theorem exponentPart?_minus {c : Char} (marked : c = 'e' ∨ c = 'E') (cs : List Char) :
    exponentPart? (c :: '-' :: cs) =
      (digits? cs).map fun read => (some (-(digitsValue read.1 : Int)), read.2) := by
  simp [exponentPart?, marked]

theorem exponentPart?_plus {c : Char} (marked : c = 'e' ∨ c = 'E') (cs : List Char) :
    exponentPart? (c :: '+' :: cs) =
      (digits? cs).map fun read => (some (digitsValue read.1 : Int), read.2) := by
  simp [exponentPart?, marked]

theorem exponentPart?_unsigned {c sign : Char} (marked : c = 'e' ∨ c = 'E') (minus : sign ≠ '-')
    (plus : sign ≠ '+') (cs : List Char) :
    exponentPart? (c :: sign :: cs) =
      (digits? (sign :: cs)).map fun read => (some (digitsValue read.1 : Int), read.2) := by
  simp [exponentPart?, marked, minus, plus]

theorem exponentPart?_append (ends : Ends more) (found : exponentPart? cs = some (value, rest)) :
    exponentPart? (cs ++ more) = some (value, rest ++ more) := by
  cases cs with
  | nil =>
    cases found
    cases more with
    | nil => rfl
    | cons c more =>
      have small : c ≠ 'e' := ends.head_ne (by decide)
      have large : c ≠ 'E' := ends.head_ne (by decide)
      simp [exponentPart?, small, large]
  | cons c cs =>
    by_cases marked : c = 'e' ∨ c = 'E'
    · cases cs with
      | nil => simp [exponentPart?, marked, digits?] at found
      | cons sign cs =>
        rw [List.cons_append, List.cons_append]
        by_cases minus : sign = '-'
        · subst minus
          rw [exponentPart?_minus marked] at found ⊢
          exact map_digits?_append (fun digits => some (-(digitsValue digits : Int))) ends found
        · by_cases plus : sign = '+'
          · subst plus
            rw [exponentPart?_plus marked] at found ⊢
            exact map_digits?_append (fun digits => some (digitsValue digits : Int)) ends found
          · rw [exponentPart?_unsigned marked minus plus] at found ⊢
            exact map_digits?_append (fun digits => some (digitsValue digits : Int)) ends found
    · simp only [exponentPart?, marked, if_false] at found
      cases found
      simp [exponentPart?, marked]

/-- A number behind its sign. -/
def magnitude? (negative : Bool) (cs : List Char) : Option (NumberText × List Char) :=
  (wholeDigits? cs).bind fun whole =>
    (fractionDigits? whole.2).bind fun fraction =>
      (exponentPart? fraction.2).map fun exponent =>
        (⟨negative, whole.1, fraction.1, exponent.1⟩, exponent.2)

theorem numberText?_minus (cs : List Char) : numberText? ('-' :: cs) = magnitude? true cs := by
  grind [numberText?, magnitude?]

theorem numberText?_unsigned (unsigned : ∀ tail, cs ≠ '-' :: tail) :
    numberText? cs = magnitude? false cs := by
  rw [numberText?.eq_2 cs unsigned]
  grind [magnitude?]

theorem magnitude?_append {negative : Bool} (ends : Ends more)
    (found : magnitude? negative cs = some (text, rest)) :
    magnitude? negative (cs ++ more) = some (text, rest ++ more) := by
  obtain ⟨whole, readWhole, found⟩ := Option.bind_eq_some_iff.1 found
  obtain ⟨fraction, readFraction, found⟩ := Option.bind_eq_some_iff.1 found
  obtain ⟨exponent, readExponent, same⟩ := Option.map_eq_some_iff.1 found
  cases same
  simp [magnitude?, wholeDigits?_append ends readWhole, fractionDigits?_append ends readFraction,
    exponentPart?_append ends readExponent]

/-- What stands behind a number does not change it. -/
theorem numberText?_append (ends : Ends more) (found : numberText? cs = some (text, rest)) :
    numberText? (cs ++ more) = some (text, rest ++ more) := by
  by_cases signed : ∃ tail, cs = '-' :: tail
  · obtain ⟨tail, rfl⟩ := signed
    rw [numberText?_minus] at found
    exact (numberText?_minus _).trans (magnitude?_append ends found)
  · have unsigned : ∀ tail, cs ≠ '-' :: tail := fun tail same => signed ⟨tail, same⟩
    rw [numberText?_unsigned unsigned] at found
    have still : ∀ tail, cs ++ more ≠ '-' :: tail := by
      intro tail same
      cases cs with
      | nil => simp [magnitude?, wholeDigits?, digits?] at found
      | cons c cs => exact unsigned cs (by rw [(List.cons.inj same).1])
    exact (numberText?_unsigned still).trans (magnitude?_append ends found)

end

/-! ## Whole numbers -/

theorem isDigit_of_mem_toDigits {c : Char} {n : Nat} (present : c ∈ Nat.toDigits 10 n) :
    isDigit c = true := by
  have known : c.isDigit = true := Nat.isDigit_of_mem_toDigits (by decide) (by decide) present
  simpa [isDigit, Char.isDigit, Char.le_def] using known

theorem digits?_toDigits (n : Nat) : digits? (Nat.toDigits 10 n) = some (Nat.toDigits 10 n, []) := by
  have all : ∀ c ∈ Nat.toDigits 10 n, isDigit c = true := fun c => isDigit_of_mem_toDigits
  unfold digits?
  rw [List.takeWhile_eq_self_iff.2 all, List.dropWhile_eq_nil_iff.2 all]
  split
  next none => exact absurd none Nat.toDigits_ne_nil
  next => rfl

theorem digitsValue_toDigits (n : Nat) : digitsValue (Nat.toDigits 10 n) = n :=
  Nat.ofDigitChars_toDigits (by decide) (by decide)

theorem eq_zero_of_toDigits {b n : Nat} (base : 1 < b) (known : b ≤ 16) (zero : Nat.toDigits b n = ['0']) :
    n = 0 := by
  have each : ∀ k < 16, Nat.digitChar k = '0' → k = 0 := by decide
  rw [Nat.toDigits_eq_if base] at zero
  split at zero
  next small => exact each n (by omega) (List.cons.inj zero).1
  next large =>
    rcases List.append_eq_singleton_iff.1 zero with ⟨none, -⟩ | ⟨-, none⟩
    · exact absurd none Nat.toDigits_ne_nil
    · cases none

/-- Nothing stands behind a zero at the front. -/
theorem toDigits_ne_zero_cons {b : Nat} (base : 1 < b) (known : b ≤ 16) (n : Nat) (second : Char)
    (rest : List Char) : Nat.toDigits b n ≠ '0' :: second :: rest := by
  induction n using Nat.strongRecOn generalizing second rest with
  | ind n ih =>
    intro same
    rw [Nat.toDigits_eq_if base] at same
    split at same
    · exact absurd (congrArg List.length same) (by simp)
    next large =>
      have positive : n / b ≠ 0 := Nat.div_ne_zero_iff.2 ⟨by omega, by omega⟩
      have smaller : n / b < n := Nat.div_lt_self (by omega) base
      -- A lone zero in front would make the number too small for a second digit.
      cases digits : Nat.toDigits b (n / b) with
      | nil => exact Nat.toDigits_ne_nil digits
      | cons first more =>
        rw [digits] at same
        obtain ⟨rfl, -⟩ := List.cons.inj same
        cases more with
        | nil => exact positive (eq_zero_of_toDigits base known digits)
        | cons second' rest' => exact ih _ smaller _ _ digits

theorem wholeDigits?_toDigits (n : Nat) :
    wholeDigits? (Nat.toDigits 10 n) = some (Nat.toDigits 10 n, []) := by
  unfold wholeDigits?
  rw [digits?_toDigits]
  split
  next second rest _ same => exact absurd (congrArg Prod.fst (Option.some.inj same)) (toDigits_ne_zero_cons (by decide) (by decide) n _ _)
  next => rfl

theorem head_toDigits (n : Nat) : ∃ c tail, Nat.toDigits 10 n = c :: tail ∧ isDigit c = true := by
  obtain ⟨c, tail, digits⟩ := List.exists_cons_of_ne_nil (Nat.toDigits_ne_nil (b := 10) (n := n))
  exact ⟨c, tail, digits, isDigit_of_mem_toDigits (digits ▸ List.mem_cons_self)⟩

theorem magnitude?_toDigits (negative : Bool) (n : Nat) :
    magnitude? negative (Nat.toDigits 10 n) = some (⟨negative, Nat.toDigits 10 n, [], none⟩, []) := by
  simp [magnitude?, wholeDigits?_toDigits, fractionDigits?, exponentPart?]

/-- A whole number reads back. -/
theorem numberText?_wholeChars (n : Int) :
    numberText? (wholeChars n) = some (⟨n < 0, Nat.toDigits 10 n.natAbs, [], none⟩, []) := by
  unfold wholeChars
  split
  next negative => simp [numberText?_minus, magnitude?_toDigits, negative]
  next positive =>
    have unsigned : ∀ tail, Nat.toDigits 10 n.natAbs ≠ '-' :: tail := by
      intro tail same
      have digit := isDigit_of_mem_toDigits (same ▸ List.mem_cons_self)
      exact absurd digit (by decide)
    simp [numberText?_unsigned unsigned, magnitude?_toDigits, positive]

theorem number?_wholeChars {n : Int} (fits : FitsWord n) :
    NumberText.number? ⟨n < 0, Nat.toDigits 10 n.natAbs, [], none⟩ = some (.whole n fits) := by
  have value : (if n < 0 then -(n.natAbs : Int) else n.natAbs) = n := by
    split <;> omega
  have notNegativeZero : ¬ (n < 0 ∧ n.natAbs = 0) := by omega
  have whole : Number.whole? n = some (.whole n fits) := dif_pos fits
  simp only [NumberText.number?, digitsValue_toDigits, decide_eq_true_eq, and_self, if_true,
    if_neg notNegativeZero, value, whole, Option.some_or]

/-! ## The text of a number -/

/-- Every number begins with its sign or with a digit. -/
theorem head_numberChars (n : Number) :
    ∃ c tail, numberChars n = c :: tail ∧ (c = '-' ∨ isDigit c = true) := by
  have unsigned (d : Decimal) : ∃ c tail, Binary64.decimalChars d = c :: tail ∧ isDigit c = true := by
    obtain ⟨c, tail, digits, digit⟩ := head_toDigits d.digits
    unfold Binary64.decimalChars
    simp only [digits]
    split
    · unfold Binary64.positional
      split
      · exact ⟨_, _, rfl, by decide⟩
      next positive =>
        have count : (d.leadingExponent + 1).toNat = d.leadingExponent.toNat + 1 := by omega
        simp only [count, List.take_succ_cons, List.cons_append]
        exact ⟨_, _, rfl, digit⟩
    · exact ⟨_, _, rfl, digit⟩
  cases n with
  | whole n _ =>
    obtain ⟨c, tail, digits, digit⟩ := head_toDigits n.natAbs
    simp only [numberChars, wholeChars, digits]
    split
    · exact ⟨_, _, rfl, .inl rfl⟩
    · exact ⟨_, _, rfl, .inr digit⟩
  | real x _ =>
    obtain ⟨c, tail, chars, digit⟩ := unsigned x.shortest
    simp only [numberChars, Binary64.chars, chars]
    split
    · exact ⟨_, _, rfl, .inl rfl⟩
    · exact ⟨_, _, rfl, .inr digit⟩

theorem isNumeral_toDigits {c : Char} {n : Nat} (present : c ∈ Nat.toDigits 10 n) :
    isNumeral c = true := by
  simp [isNumeral, isDigit_of_mem_toDigits present]

/-- A number has no other characters than those of numbers. -/
theorem isNumeral_numberChars (n : Number) : (numberChars n).all isNumeral = true := by
  have digits (n : Nat) : (Nat.toDigits 10 n).all isNumeral = true :=
    List.all_eq_true.2 fun _ => isNumeral_toDigits
  have front (n k : Nat) : ((Nat.toDigits 10 n).take k).all isNumeral = true :=
    List.all_eq_true.2 fun _ present => isNumeral_toDigits (List.mem_of_mem_take present)
  have back (n k : Nat) : ((Nat.toDigits 10 n).drop k).all isNumeral = true :=
    List.all_eq_true.2 fun _ present => isNumeral_toDigits (List.mem_of_mem_drop present)
  have sign (negative : Prop) [Decidable negative] :
      (if negative then ['-'] else []).all isNumeral = true := by
    split <;> decide
  have zeros (k : Nat) : (List.replicate k '0').all isNumeral = true := by
    simp [isNumeral, isDigit]
  have decimal (d : Decimal) : (Binary64.decimalChars d).all isNumeral = true := by
    have point : isNumeral '.' = true := by decide
    have zero : isNumeral '0' = true := by decide
    unfold Binary64.decimalChars Binary64.positional Binary64.scientific
    dsimp only
    split
    · split
      · simp only [List.all_append, List.all_cons, zeros, digits, point, zero, Bool.and_self]
      · split <;> simp only [List.all_append, List.all_cons, List.all_nil, zeros, front, back, point,
          zero, Bool.and_self]
    · have mark : isNumeral 'e' = true := by decide
      have signs : isNumeral (if d.leadingExponent < 0 then '-' else '+') = true := by
        split <;> decide
      split <;> simp only [List.all_append, List.all_cons, List.all_nil, digits, front, back, point,
        mark, signs, Bool.and_self]
  cases n with
  | whole n _ => simp only [numberChars, wholeChars, List.all_append, sign, digits, Bool.and_self]
  | real x _ => simp only [numberChars, Binary64.chars, List.all_append, sign, decimal, Bool.and_self]

/-! ## Numbers that read back -/

theorem digits?_suffix {cs digits rest : List Char} (found : digits? cs = some (digits, rest)) :
    rest <:+ cs := by
  unfold digits? at found
  split at found
  · cases found
  · cases found
    exact List.dropWhile_suffix _

theorem fractionDigits?_suffix {cs digits rest : List Char}
    (found : fractionDigits? cs = some (digits, rest)) : rest <:+ cs := by
  unfold fractionDigits? at found
  split at found
  · exact (digits?_suffix found).trans (List.suffix_cons _ _)
  · cases found
    exact List.suffix_rfl

theorem exponentPart?_suffix {cs rest : List Char} {value : Option Int}
    (found : exponentPart? cs = some (value, rest)) : rest <:+ cs := by
  unfold exponentPart? at found
  split at found
  · split at found
    · obtain ⟨⟨digits, rest'⟩, read, same⟩ := Option.map_eq_some_iff.1 found
      cases same
      refine (digits?_suffix read).trans ?_
      split
      · exact (List.suffix_cons _ _).trans (List.suffix_cons _ _)
      · exact (List.suffix_cons _ _).trans (List.suffix_cons _ _)
      · exact List.suffix_cons _ _
    · cases found
      exact List.suffix_rfl
  · cases found
    exact List.suffix_rfl

theorem magnitude?_suffix {negative : Bool} {cs rest : List Char} {text : NumberText}
    (found : magnitude? negative cs = some (text, rest)) : rest <:+ cs := by
  obtain ⟨whole, readWhole, found⟩ := Option.bind_eq_some_iff.1 found
  obtain ⟨fraction, readFraction, found⟩ := Option.bind_eq_some_iff.1 found
  obtain ⟨exponent, readExponent, same⟩ := Option.map_eq_some_iff.1 found
  cases same
  have behindWhole : whole.2 <:+ cs := by
    unfold wholeDigits? at readWhole
    split at readWhole
    · cases readWhole
    · exact digits?_suffix readWhole
  exact (exponentPart?_suffix readExponent).trans
    ((fractionDigits?_suffix readFraction).trans behindWhole)

/-- What stands behind a number is the rest of the text. -/
theorem numberText?_suffix {cs rest : List Char} {text : NumberText}
    (found : numberText? cs = some (text, rest)) : rest <:+ cs := by
  by_cases signed : ∃ tail, cs = '-' :: tail
  · obtain ⟨tail, rfl⟩ := signed
    rw [numberText?_minus] at found
    exact (magnitude?_suffix found).trans (List.suffix_cons _ _)
  · rw [numberText?_unsigned fun tail same => signed ⟨tail, same⟩] at found
    exact magnitude?_suffix found

/-- A sign or a digit begins a number. -/
theorem value?_numeral {fuel room : Nat} {c : Char} (begins : c = '-' ∨ isDigit c = true)
    (cs : List Char) :
    value? (fuel + 1) room (c :: cs) =
      (numberText? (c :: cs)).map fun read => (numberTree read.1, read.2) := by
  have other (d : Char) (none : d ≠ '-' ∧ isDigit d = false) : c ≠ d := by
    rintro rfl
    simp [none] at begins
  have shown : skipSpaces (c :: cs) = c :: cs := by
    simp [skipSpaces, isSpace, other ' ' (by decide), other '\n' (by decide), other '\t' (by decide),
      other '\r' (by decide)]
  rw [value?, shown]
  -- The seventh case is the number; the six before it begin with other characters.
  split
  case h_7 => rfl
  all_goals
    next same =>
      exact absurd (List.cons.inj same).1 (other _ (by decide))

/-- No number contains a blank. -/
theorem isNumeral_of_isSpace {c : Char} (blank : isSpace c = true) : isNumeral c = false := by
  simp only [isSpace, Bool.or_eq_true, beq_iff_eq] at blank
  rcases blank with ((rfl | rfl) | rfl) | rfl <;> rfl

theorem skipSpaces_eq_nil {cs : List Char} (numeral : cs.all isNumeral = true)
    (blank : skipSpaces cs = []) : cs = [] := by
  cases cs with
  | nil => rfl
  | cons c cs =>
    have isBlank : isSpace c = true := List.dropWhile_eq_nil_iff.1 blank c List.mem_cons_self
    have isPart : isNumeral c = true := List.all_eq_true.1 numeral c List.mem_cons_self
    simp [isNumeral_of_isSpace isBlank] at isPart

end Json

/-- The text of a number is read as the number. Whole numbers always are; of a floating point number it is
the promise that printing and reading agree. -/
def Number.ReadsBack (n : Number) : Prop := Json.parse? (Json.number n).compact = some (.number n)

/-- It is enough that the characters of the number are one number, whose meaning it is. -/
theorem Number.readsBack_of_numberText? {n : Number} {text : Json.NumberText}
    (number : Json.numberText? (Json.numberChars n) = some (text, [])) (meaning : text.number? = some n) :
    n.ReadsBack := by
  obtain ⟨c, tail, chars, begins⟩ := Json.head_numberChars n
  have spelled : (Json.number n).compact.toList = Json.numberChars n := String.toList_ofList
  rw [chars] at number
  have read : Json.read? (Json.number n).compact = some (.number n) := by
    simp [Json.read?, Json.readChars?, spelled, chars, Json.value?_numeral begins, number, Json.numberTree,
      meaning, Json.skipSpaces]
  rw [ReadsBack, Json.parse?, read]
  rfl

/-- A number that reads back is one number of the text, whose meaning it is. -/
theorem Number.ReadsBack.numberText? {n : Number} (readsBack : n.ReadsBack) :
    ∃ text, Json.numberText? (Json.numberChars n) = some (text, []) ∧ text.number? = some n := by
  obtain ⟨t, read, meaning⟩ := Option.bind_eq_some_iff.1 readsBack
  obtain ⟨c, tail, chars, begins⟩ := Json.head_numberChars n
  have spelled : (Json.number n).compact.toList = Json.numberChars n := String.toList_ofList
  simp only [Json.read?, Json.readChars?, spelled, chars, Json.value?_numeral begins] at read
  split at read
  next t' rest found =>
    obtain ⟨⟨text, behind⟩, number, same⟩ := Option.map_eq_some_iff.1 found
    cases same
    split at read
    next blank =>
      cases read
      -- What stands behind the number is part of its text, so it has no blanks to be passed over.
      have suffix := Json.numberText?_suffix number
      rw [← chars] at suffix number
      have numeral : behind.all Json.isNumeral = true := List.all_eq_true.2 fun c present =>
        List.all_eq_true.1 (Json.isNumeral_numberChars n) c (suffix.subset present)
      obtain rfl := Json.skipSpaces_eq_nil numeral (List.isEmpty_iff.1 blank)
      refine ⟨text, number, ?_⟩
      unfold Json.numberTree at meaning
      split at meaning
      next value known =>
        cases meaning
        exact known
      next => cases meaning
    next => cases read
  next => cases read

end ModScript
