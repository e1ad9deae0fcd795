import Mathlib.Data.Nat.Digits.Defs
import ModScript.Proofs.Json.Tables

/-!
# Addresses in writing

An address is written as a text of a mark and hexadecimal digits, between blanks, or in a data file as a whole
number. Every number below `2 ^ 64` is read in every form that its digits may have: in either case, with any
number of zeros in front, and also with a plus sign between the mark and the digits, which no description of
addresses allows. It is rendered in one form only.

Results:
1. `Address.parse_eq_ok_iff`: the texts that are read, by their parts.
2. `Address.reads_signed_digits`, `Address.reads_sign`: the same, with the sign set apart.
3. `Address.Spelling.read?_eq_some_iff`: what is read is what is written, in a text or in a data file.
4. `Address.text_canonical`: an address is rendered in one form, which is read back.
-/

namespace ModScript

namespace Address

/-! ## Digits -/

/-- The hexadecimal digits of either case, with their values. -/
def hexDigits : List (Char × Nat) :=
  [('0', 0), ('1', 1), ('2', 2), ('3', 3), ('4', 4), ('5', 5), ('6', 6), ('7', 7), ('8', 8), ('9', 9),
    ('a', 10), ('b', 11), ('c', 12), ('d', 13), ('e', 14), ('f', 15),
    ('A', 10), ('B', 11), ('C', 12), ('D', 13), ('E', 14), ('F', 15)]

/-- One or more digits stand for a number. -/
def Numeral (digits : List Char) (n : Nat) : Prop :=
  digits ≠ [] ∧ ∃ values, List.Forall₂ (fun c value => (c, value) ∈ hexDigits) digits values ∧
    n = Nat.ofDigits 16 values.reverse

theorem lt_of_hexValue? {c : Char} {value : Nat} (read : Json.hexValue? c = some value) : c.toNat < 128 := by
  simp only [Json.hexValue?, Char.le_def, UInt32.le_iff_toNat_le] at read
  have bound {last : Char} (below : c.val.toNat ≤ last.val.toNat) (small : last.val.toNat < 128) :
      c.toNat < 128 := Nat.lt_of_le_of_lt below small
  split at read
  next digit => exact bound digit.2 (by decide)
  next =>
    split at read
    next lower => exact bound lower.2 (by decide)
    next =>
      split at read
      next upper => exact bound upper.2 (by decide)
      next => cases read

/-- The digits that are read are those that are listed. -/
theorem hexValue?_eq_some_iff {c : Char} {value : Nat} :
    Json.hexValue? c = some value ↔ (c, value) ∈ hexDigits := by
  constructor
  · intro read
    have listed : ∀ n < 128, (Json.hexValue? (Char.ofNat n)).all fun k =>
        decide ((Char.ofNat n, k) ∈ hexDigits) := by decide
    have known := listed c.toNat (lt_of_hexValue? read)
    rw [Char.ofNat_toNat, read, Option.all_some, decide_eq_true_eq] at known
    exact known
  · intro listed
    have each : hexDigits.all fun digit => Json.hexValue? digit.1 == some digit.2 := by decide
    exact eq_of_beq (List.all_eq_true.1 each _ listed)

theorem le_foldl_digits (values : List Nat) (n : Nat) : n ≤ values.foldl (fun n value => 16 * n + value) n := by
  induction values generalizing n with
  | nil => exact Nat.le_refl n
  | cons value rest ih =>
    calc n ≤ 16 * n + value := by omega
      _ ≤ rest.foldl (fun n value => 16 * n + value) (16 * n + value) := ih _

theorem ofDigits_reverse (values : List Nat) :
    Nat.ofDigits 16 values.reverse = values.foldl (fun n value => 16 * n + value) 0 := by
  rw [Nat.ofDigits_eq_foldr, List.foldr_reverse]
  simp only [Nat.cast_id, Nat.add_comm]

/-- Digits are appended up to their end if the number that they make fits. -/
theorem appendDigits_eq_ok_iff {m n : Nat} {digits : List Char} (fits : m < UInt64.size) :
    appendDigits m digits = .ok n ↔
      ∃ values, List.Forall₂ (fun c value => (c, value) ∈ hexDigits) digits values ∧
        n = values.foldl (fun n value => 16 * n + value) m ∧ n < UInt64.size := by
  induction digits generalizing m with
  | nil =>
    constructor
    · intro read
      cases read
      exact ⟨[], .nil, rfl, fits⟩
    · rintro ⟨_, ⟨⟩, rfl, -⟩
      rfl
  | cons c rest ih =>
    constructor
    · intro read
      unfold appendDigits at read
      split at read
      next => cases read
      next value known =>
        split at read
        next still =>
          obtain ⟨values, listed, same, small⟩ := (ih still).1 read
          exact ⟨value :: values, .cons (hexValue?_eq_some_iff.1 known) listed, same, small⟩
        next => cases read
    · rintro ⟨_, all, same, small⟩
      obtain ⟨value, values, known, listed, rfl⟩ := List.forall₂_cons_left_iff.1 all
      -- A number that is too large at some digit stays too large.
      have still : 16 * m + value < UInt64.size :=
        Nat.lt_of_le_of_lt (le_foldl_digits values _) (same ▸ small)
      unfold appendDigits
      rw [hexValue?_eq_some_iff.2 known]
      dsimp only
      rw [if_pos still]
      exact (ih still).2 ⟨values, listed, same, small⟩

theorem appendDigits_zero_eq_ok_iff {n : Nat} {digits : List Char} (some : digits ≠ []) :
    appendDigits 0 digits = .ok n ↔ Numeral digits n ∧ n < UInt64.size := by
  rw [appendDigits_eq_ok_iff (by decide)]
  constructor
  · rintro ⟨values, listed, same, small⟩
    exact ⟨⟨some, values, listed, same.trans (ofDigits_reverse values).symm⟩, small⟩
  · rintro ⟨⟨-, values, listed, same⟩, small⟩
    exact ⟨values, listed, same.trans (ofDigits_reverse values), small⟩

/-! ## Texts -/

theorem readDigits_signed {digits : List Char} (some : digits ≠ []) :
    readDigits ('+' :: digits) = appendDigits 0 digits := by
  cases digits with
  | nil => exact absurd rfl some
  | cons first rest => rfl

theorem readDigits_unsigned {first : Char} (unsigned : first ≠ '+') (rest : List Char) :
    readDigits (first :: rest) = appendDigits 0 (first :: rest) := by
  unfold readDigits
  split
  next none => cases none
  next sign => exact absurd (List.cons.inj sign).1 unsigned
  next sign => exact absurd (List.cons.inj sign).1 unsigned
  next => rfl

theorem Numeral.not_signed {digits : List Char} {n : Nat} : ¬Numeral ('+' :: digits) n := by
  rintro ⟨-, values, listed, -⟩
  obtain ⟨value, _, digit, -⟩ := List.forall₂_cons_left_iff.1 listed
  exact absurd (hexValue?_eq_some_iff.2 digit) (by simp [Json.hexValue?])

/-- The digits that are read are a numeral, which may follow one plus sign. -/
theorem readDigits_eq_ok_iff {n : Nat} {signed : List Char} :
    readDigits signed = .ok n ↔
      ∃ sign digits, signed = sign ++ digits ∧ (sign = [] ∨ sign = ['+']) ∧ Numeral digits n ∧
        n < UInt64.size := by
  constructor
  · intro read
    cases signed with
    | nil => cases read
    | cons first rest =>
      by_cases plus : first = '+'
      · subst plus
        have some : rest ≠ [] := by
          rintro rfl
          cases read
        rw [readDigits_signed some] at read
        exact ⟨['+'], rest, rfl, .inr rfl, (appendDigits_zero_eq_ok_iff some).1 read⟩
      · rw [readDigits_unsigned plus] at read
        exact ⟨[], first :: rest, rfl, .inl rfl, (appendDigits_zero_eq_ok_iff (List.cons_ne_nil _ _)).1 read⟩
  · rintro ⟨sign, digits, rfl, rfl | rfl, numeral, fits⟩
    · obtain ⟨first, rest, rfl⟩ := List.exists_cons_of_ne_nil numeral.1
      have unsigned : first ≠ '+' := by
        rintro rfl
        exact numeral.not_signed
      rw [List.nil_append, readDigits_unsigned unsigned]
      exact (appendDigits_zero_eq_ok_iff numeral.1).2 ⟨numeral, fits⟩
    · rw [List.singleton_append, readDigits_signed numeral.1]
      exact (appendDigits_zero_eq_ok_iff numeral.1).2 ⟨numeral, fits⟩

theorem afterMark?_eq_some_iff {cs digits : List Char} :
    afterMark? cs = some digits ↔ ∃ mark, (mark = ['0', 'x'] ∨ mark = ['0', 'X']) ∧ cs = mark ++ digits := by
  constructor
  · intro found
    unfold afterMark? at found
    split at found
    next => 
      cases found
      exact ⟨['0', 'x'], .inl rfl, rfl⟩
    next => 
      cases found
      exact ⟨['0', 'X'], .inr rfl, rfl⟩
    next => cases found
  · rintro ⟨mark, rfl | rfl, rfl⟩ <;> rfl

/-- A text of blanks, the mark, a sign, digits of the number and blanks. -/
def Spells (s : String) (sign : List Char) (n : Nat) : Prop :=
  ∃ front mark digits back, s.toList = front ++ (mark ++ sign ++ digits ++ back) ∧
    (∀ c ∈ front, Text.isBlank c = true) ∧ (mark = ['0', 'x'] ∨ mark = ['0', 'X']) ∧ Numeral digits n ∧
    ∀ c ∈ back, Text.isBlank c = true

theorem Numeral.shown {digits : List Char} {n : Nat} (numeral : Numeral digits n) :
    ∀ c ∈ digits, Text.isBlank c = false := by
  obtain ⟨-, values, listed, -⟩ := numeral
  have each : hexDigits.all fun digit => !Text.isBlank digit.1 := by decide
  intro c present
  obtain ⟨value, -, digit⟩ := OrderedMap.exists_of_mem_left listed present
  simpa using List.all_eq_true.1 each _ digit

/-- The number that is read is the value of the address. -/
theorem readChars_eq_ok_iff {cs : List Char} {a : Address} :
    readChars cs = .ok a ↔ ∃ mark signed, Text.trimChars cs = mark ++ signed ∧
      (mark = ['0', 'x'] ∨ mark = ['0', 'X']) ∧ readDigits signed = .ok a.value.toNat := by
  constructor
  · intro read
    unfold readChars at read
    split at read
    next => cases read
    next signed marked =>
      obtain ⟨mark, isMark, core⟩ := afterMark?_eq_some_iff.1 marked
      refine ⟨mark, signed, core, isMark, ?_⟩
      cases digits : readDigits signed with
      | error fault =>
        rw [digits] at read
        cases read
      | ok n =>
        rw [digits] at read
        cases read
        obtain ⟨_, _, -, -, -, fits⟩ := readDigits_eq_ok_iff.1 digits
        exact congrArg Except.ok (Nat.mod_eq_of_lt fits).symm
  · rintro ⟨mark, signed, core, isMark, digits⟩
    have marked := afterMark?_eq_some_iff.2 ⟨mark, isMark, core⟩
    unfold readChars
    rw [marked]
    dsimp only
    rw [digits]
    exact congrArg Except.ok (congrArg Address.mk UInt64.ofNat_toNat)

theorem shown_before_digits {mark sign : List Char} (isMark : mark = ['0', 'x'] ∨ mark = ['0', 'X'])
    (isSign : sign = [] ∨ sign = ['+']) : ∀ c ∈ mark ++ sign, Text.isBlank c = false := by
  have all : ((mark ++ sign).all fun c => !Text.isBlank c) = true := by
    rcases isMark with rfl | rfl <;> rcases isSign with rfl | rfl <;> rfl
  intro c present
  simpa using List.all_eq_true.1 all c present

/-- Without its blanks a text that spells a number is its mark, its sign and its digits. -/
theorem Spells.trimChars_eq {s : String} {sign : List Char} {n : Nat} (spells : Spells s sign n)
    (isSign : sign = [] ∨ sign = ['+']) :
    ∃ mark digits, Text.trimChars s.toList = mark ++ (sign ++ digits) ∧
      (mark = ['0', 'x'] ∨ mark = ['0', 'X']) ∧ Numeral digits n := by
  obtain ⟨front, mark, digits, back, split, blankFront, isMark, numeral, blankBack⟩ := spells
  have shown : ∀ c ∈ mark ++ sign ++ digits, Text.isBlank c = false := by
    intro c present
    rcases List.mem_append.1 present with ahead | inDigits
    · exact shown_before_digits isMark isSign c ahead
    · exact numeral.shown c inDigits
  refine ⟨mark, digits, ?_, isMark, numeral⟩
  rw [split, Text.trimChars_between blankFront shown blankBack, List.append_assoc]

/-- An address is read from a text that spells it, with or without a plus sign. -/
theorem parse_eq_ok_iff {s : String} {a : Address} :
    parse s = .ok a ↔ ∃ sign, (sign = [] ∨ sign = ['+']) ∧ Spells s sign a.value.toNat := by
  rw [parse, readChars_eq_ok_iff]
  constructor
  · rintro ⟨mark, signed, core, isMark, read⟩
    obtain ⟨sign, digits, rfl, isSign, numeral, -⟩ := readDigits_eq_ok_iff.1 read
    obtain ⟨front, back, split, blankFront, blankBack⟩ := Text.trimChars_eq s.toList
    refine ⟨sign, isSign, front, mark, digits, back, ?_, blankFront, isMark, numeral, blankBack⟩
    rw [split, core]
    simp only [List.append_assoc]
  · rintro ⟨sign, isSign, spells⟩
    obtain ⟨mark, digits, core, isMark, numeral⟩ := spells.trimChars_eq isSign
    refine ⟨mark, sign ++ digits, core, isMark, ?_⟩
    exact readDigits_eq_ok_iff.2 ⟨sign, digits, rfl, isSign, numeral, a.value.toNat_lt⟩

/-! ## Accepted texts -/

/-- A text is read as an address exactly if it spells one, and refused otherwise. One plus sign may stand between
the mark and the digits; of texts without it those with a mark and digits are read, and no others. -/
theorem reads_signed_digits (s : String) :
    (∀ a, parse s = .ok a ↔ Spells s [] a.value.toNat ∨ Spells s ['+'] a.value.toNat) ∧
    ((∃ fault, parse s = .error fault) ↔
      ¬∃ a : Address, Spells s [] a.value.toNat ∨ Spells s ['+'] a.value.toNat) := by
  have accepted (a : Address) : parse s = .ok a ↔ Spells s [] a.value.toNat ∨ Spells s ['+'] a.value.toNat := by
    rw [parse_eq_ok_iff]
    constructor
    · rintro ⟨sign, rfl | rfl, spells⟩
      · exact .inl spells
      · exact .inr spells
    · rintro (plain | signed)
      · exact ⟨[], .inl rfl, plain⟩
      · exact ⟨['+'], .inr rfl, signed⟩
  refine ⟨accepted, ?_⟩
  simp only [← accepted]
  cases parse s with
  | error fault => simp
  | ok a => simp

/-- A sign is no digit, and is read all the same. -/
theorem reads_sign : parse "0x+1F" = .ok ⟨31⟩ ∧ ¬∃ n, Spells "0x+1F" [] n := by
  refine ⟨by decide, ?_⟩
  rintro ⟨n, spells⟩
  obtain ⟨mark, digits, core, isMark, numeral⟩ := spells.trimChars_eq (.inl rfl)
  have text : Text.trimChars "0x+1F".toList = ['0', 'x', '+', '1', 'F'] := by decide
  rw [text] at core
  rcases isMark with rfl | rfl
  · simp only [List.nil_append, List.cons_append, List.cons.injEq, true_and] at core
    exact (core ▸ numeral).not_signed
  · simp at core

/-! ## Rendering -/

/-- Lowercase digits, and no zero in front of others. -/
structure Canonical (digits : List Char) : Prop where
  some : digits ≠ []
  lowercase : ∀ c ∈ digits, c ∈ ['0', '1', '2', '3', '4', '5', '6', '7', '8', '9', 'a', 'b', 'c', 'd', 'e', 'f']
  leading : ∀ rest, digits = '0' :: rest → rest = []

theorem canonical_toDigits (n : Nat) : Canonical (Nat.toDigits 16 n) := by
  refine ⟨Nat.toDigits_ne_nil, ?_, ?_⟩
  · intro c present
    obtain ⟨k, small, rfl⟩ := mem_toDigits_sixteen present
    have each : ∀ k < 16, Nat.digitChar k ∈
        ['0', '1', '2', '3', '4', '5', '6', '7', '8', '9', 'a', 'b', 'c', 'd', 'e', 'f'] := by decide
    exact each k small
  · intro rest zero
    cases rest with
    | nil => rfl
    | cons second rest => exact absurd zero (Json.toDigits_ne_zero_cons (by decide) (by decide) n second rest)

theorem text_injective {a b : Address} (same : a.text = b.text) : a = b := by
  have read := parse_text a
  rw [same, parse_text b] at read
  exact (Except.ok.inj read).symm

/-! ## Spellings -/

theorem Numeral.unique {digits : List Char} {n m : Nat} (numeral : Numeral digits n)
    (other : Numeral digits m) : n = m := by
  obtain ⟨-, values, listed, rfl⟩ := numeral
  obtain ⟨-, values', listed', rfl⟩ := other
  have same : values = values' := by
    induction listed generalizing values' with
    | nil => 
      cases listed'
      rfl
    | cons digit _ ih =>
      obtain ⟨value', rest', digit', others, rfl⟩ := List.forall₂_cons_left_iff.1 listed'
      have read := hexValue?_eq_some_iff.2 digit
      rw [hexValue?_eq_some_iff.2 digit'] at read
      rw [ih rest' others, Option.some.inj read]
  rw [same]

/-- A text spells one number at most. -/
theorem Spells.unique {s : String} {sign sign' : List Char} {n m : Nat} (spells : Spells s sign n)
    (isSign : sign = [] ∨ sign = ['+']) (other : Spells s sign' m) (isSign' : sign' = [] ∨ sign' = ['+']) :
    n = m := by
  obtain ⟨mark, digits, core, isMark, numeral⟩ := spells.trimChars_eq isSign
  obtain ⟨mark', digits', core', isMark', numeral'⟩ := other.trimChars_eq isSign'
  have long : mark.length = mark'.length := by
    rcases isMark with rfl | rfl <;> rcases isMark' with rfl | rfl <;> rfl
  have signed := (List.append_inj (core.symm.trans core') long).2
  -- A plus sign is no digit, so one of the texts has it exactly if the other one does.
  rcases isSign with rfl | rfl <;> rcases isSign' with rfl | rfl
  · obtain rfl : digits = digits' := signed
    exact numeral.unique numeral'
  · obtain rfl : digits = '+' :: digits' := signed
    exact absurd numeral Numeral.not_signed
  · obtain rfl : '+' :: digits = digits' := signed
    exact absurd numeral' Numeral.not_signed
  · obtain rfl : digits = digits' := (List.cons.inj signed).2
    exact numeral.unique numeral'

/-- A way to write an address: as a text, or as a document. -/
inductive Spelling
  | text (s : String)
  | document (content : String)

/-- The number that is written. -/
inductive Spelling.Denotes : Spelling → Nat → Prop
  | text {s : String} {sign : List Char} {n : Nat} : sign = [] ∨ sign = ['+'] → Spells s sign n →
    Denotes (.text s) n
  | quoted {content s : String} {n : Nat} : Json.read? content = some (.text s) → Denotes (.text s) n →
    Denotes (.document content) n
  | integer {content : String} {n : Nat} {fits : FitsWord n} :
    Json.read? content = some (.number (.whole n fits)) → Denotes (.document content) n

/-- The address that is read. -/
def Spelling.read? : Spelling → Option Address
  | .text s => (parse s).toOption
  | .document content => (Json.read? content).bind ofTree?

theorem toOption_parse_iff {s : String} {a : Address} : (parse s).toOption = some a ↔ parse s = .ok a := by
  cases parse s with
  | error fault => simp [Except.toOption]
  | ok b => simp [Except.toOption]

theorem read?_text_iff {s : String} {a : Address} :
    (Spelling.text s).read? = some a ↔ (Spelling.text s).Denotes a.value.toNat := by
  rw [Spelling.read?, toOption_parse_iff, parse_eq_ok_iff]
  constructor
  · rintro ⟨sign, isSign, spells⟩
    exact .text isSign spells
  · rintro ⟨isSign, spells⟩
    exact ⟨_, isSign, spells⟩

theorem word?_eq_some_iff {t : Tree} {v : UInt64} : t.word? = some v ↔ t = .number (.ofUInt64 v) := by
  constructor
  · intro whole
    unfold Tree.word? at whole
    split at whole
    next n fits =>
      split at whole
      next positive =>
        cases whole
        have below : n.toNat < UInt64.size := by
          have := fits.2
          simp only [UInt64.size]
          omega
        have value : n = ((UInt64.ofNat n.toNat).toNat : Int) := by
          rw [UInt64.toNat_ofNat_of_lt' below]
          exact (Int.toNat_of_nonneg positive).symm
        simp only [Number.ofUInt64, ← value]
      next => cases whole
    next => cases whole
  · rintro rfl
    exact Tree.word?_ofUInt64 v

theorem ofTree?_eq_some_iff {t : Tree} {a : Address} :
    ofTree? t = some a ↔ (∃ s, t = .text s ∧ parse s = .ok a) ∨ t = .number (.ofUInt64 a.value) := by
  by_cases text : ∃ s, t = .text s
  · obtain ⟨s, rfl⟩ := text
    have read : ofTree? (.text s) = (parse s).toOption := rfl
    rw [read, toOption_parse_iff]
    simp
  · have read : ofTree? t = t.word?.map Address.mk := by
      unfold ofTree?
      split
      next s => exact absurd ⟨s, rfl⟩ text
      next => rfl
    rw [read, Option.map_eq_some_iff]
    constructor
    · rintro ⟨v, whole, rfl⟩
      exact .inr (word?_eq_some_iff.1 whole)
    · rintro (⟨s, same, -⟩ | whole)
      · exact absurd ⟨s, same⟩ text
      · exact ⟨a.value, word?_eq_some_iff.2 whole, rfl⟩

/-- What is read is what is written, for every way to write an address. -/
theorem Spelling.read?_eq_some_iff {spelling : Spelling} {a : Address} :
    spelling.read? = some a ↔ spelling.Denotes a.value.toNat := by
  cases spelling with
  | text s => exact read?_text_iff
  | document content =>
    rw [Spelling.read?, Option.bind_eq_some_iff]
    constructor
    · rintro ⟨t, tree, read⟩
      rcases ofTree?_eq_some_iff.1 read with ⟨s, rfl, parsed⟩ | rfl
      · refine .quoted tree (read?_text_iff.1 ?_)
        rw [Spelling.read?, parsed]
        rfl
      · exact .integer tree
    · intro denotes
      cases denotes with
      | quoted tree denotes => exact ⟨_, tree, read?_text_iff.2 denotes⟩
      | integer tree => exact ⟨_, tree, ofTree?_eq_some_iff.2 (.inr rfl)⟩

/-- No address is written for two numbers. -/
theorem Spelling.Denotes.unique {spelling : Spelling} {n m : Nat} (denotes : spelling.Denotes n)
    (other : spelling.Denotes m) : n = m := by
  have ofText {s : String} {n m : Nat} (denotes : (Spelling.text s).Denotes n)
      (other : (Spelling.text s).Denotes m) : n = m := by
    obtain ⟨isSign, spells⟩ := denotes
    obtain ⟨isSign', spells'⟩ := other
    exact spells.unique isSign spells' isSign'
  cases denotes with
  | text isSign spells => exact ofText (.text isSign spells) other
  | quoted tree denotes =>
    cases other with
    | quoted tree' other =>
      rw [tree] at tree'
      cases tree'
      exact ofText denotes other
    | integer tree' =>
      rw [tree] at tree'
      cases tree'
  | integer tree =>
    cases other with
    | quoted tree' other =>
      rw [tree] at tree'
      cases tree'
    | integer tree' =>
      rw [tree] at tree'
      cases tree'
      rfl

theorem read?_digits (v : UInt64) : Json.read? (toString v.toNat) = some (.number (.ofUInt64 v)) := by
  have read := Json.read?_compact (Json.readable_ofUInt64 v)
  have written : (Json.number (.ofUInt64 v)).compact = toString v.toNat := by
    have positive : ¬(v.toNat : Int) < 0 := by omega
    simp only [Json.compact, Json.compactChars, Json.numberChars, Json.wholeChars, Number.ofUInt64, positive,
      if_false, List.nil_append, Int.natAbs_natCast]
    rfl
  rwa [written] at read

/-- The text of an address is read back, in a document as well; it is in one form, whatever was read. A
plain whole number is a way to write an address, and two ways to write addresses give one text exactly
if they stand for one number. -/
theorem text_canonical :
    (∀ a : Address, parse a.text = .ok a ∧ readDocument ofTree? a.toJson.compact = .ok a) ∧
    (∀ s a, parse s = .ok a → ∃ digits, a.text = "0x" ++ String.ofList digits ∧ Canonical digits) ∧
    (∀ v : UInt64, (Spelling.document (toString v.toNat)).Denotes v.toNat) ∧
    ∀ x y : Spelling, ∀ a b n m, x.read? = some a → y.read? = some b → x.Denotes n → y.Denotes m →
      (a.text = b.text ↔ n = m) := by
  refine ⟨fun a => ⟨parse_text a, ?_⟩, ?_, fun v => .integer (read?_digits v), ?_⟩
  · have readable : a.toJson.Readable Json.depthLimit := Json.readable_string a.text
    rw [readDocument, Json.read?_compact readable, Option.bind_some, ofTree?_toJson]
  · intro s a _
    refine ⟨Nat.toDigits 16 a.value.toNat, ?_, canonical_toDigits _⟩
    rw [text, chars]
    exact @String.ofList_append ['0', 'x'] _
  · intro x y a b n m readX readY ofX ofY
    obtain rfl := ofX.unique (Spelling.read?_eq_some_iff.1 readX)
    obtain rfl := ofY.unique (Spelling.read?_eq_some_iff.1 readY)
    constructor
    · intro same
      rw [text_injective same]
    · intro same
      rw [text, text, chars, chars, same]

theorem text_canonical_spellings :
    let mixed := Spelling.text "\t0X00fF"
    let plain := Spelling.document "255"
    let quoted := Spelling.document "\"0xfe\""
    mixed.read? = some ⟨255⟩ ∧ plain.read? = some ⟨255⟩ ∧ quoted.read? = some ⟨254⟩ ∧
    mixed.Denotes 255 ∧ plain.Denotes 255 ∧ quoted.Denotes 254 ∧
    (∃ digits, (⟨255⟩ : Address).text = "0x" ++ String.ofList digits ∧ Canonical digits) ∧
    (⟨255⟩ : Address).text ≠ (⟨254⟩ : Address).text := by
  intro mixed plain quoted
  have readMixed : mixed.read? = some ⟨255⟩ := by decide +kernel
  have readPlain : plain.read? = some ⟨255⟩ := by decide +kernel
  have readQuoted : quoted.read? = some ⟨254⟩ := by decide +kernel
  have ofMixed : mixed.Denotes 255 := Spelling.read?_eq_some_iff.1 readMixed
  have ofPlain : plain.Denotes 255 := Spelling.read?_eq_some_iff.1 readPlain
  have ofQuoted : quoted.Denotes 254 := Spelling.read?_eq_some_iff.1 readQuoted
  have parsed : parse "\t0X00fF" = .ok ⟨255⟩ := toOption_parse_iff.1 readMixed
  obtain ⟨-, rendered, -, same⟩ := text_canonical
  refine ⟨readMixed, readPlain, readQuoted, ofMixed, ofPlain, ofQuoted, rendered _ _ parsed, ?_⟩
  exact fun equal => absurd ((same plain quoted _ _ _ _ readPlain readQuoted ofPlain ofQuoted).1 equal) (by decide)

end Address

end ModScript
