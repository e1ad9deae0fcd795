import ModScript.Json.Reader

/-!
# Scalars of configuration files

A scalar that is no string is one word: a truth value, a whole number, a floating point number or a
moment. Whole numbers have 64 bits with a sign. Digits may be set apart by single underscores.
-/

namespace ModScript.Toml

/-! ## Numbers -/

/-- Digits without the underscores between them. -/
def plainDigits? (isDigit : Char → Bool) : List Char → Option (List Char)
  | [] => none
  | [c] => if isDigit c then some [c] else none
  | c :: '_' :: rest => if isDigit c then (plainDigits? isDigit rest).map (c :: ·) else none
  | c :: rest => if isDigit c then (plainDigits? isDigit rest).map (c :: ·) else none

/-- Decimal digits that begin with a zero only if that is all. -/
def wholeDigits? (cs : List Char) : Option (List Char) :=
  match plainDigits? Json.isDigit cs with
  | some ('0' :: _ :: _) => none
  | found => found

/-- A sign, if there is one, and the rest. -/
def splitSign : List Char → Bool × List Char
  | '-' :: rest => (true, rest)
  | '+' :: rest => (false, rest)
  | rest => (false, rest)

/-- The number of digits in a base up to sixteen. -/
def valueIn (base : Nat) (digits : List Char) : Nat :=
  digits.foldl (fun n c => base * n + (Json.hexValue? c).getD 0) 0

/-- A digit in a base up to sixteen. -/
def isDigitIn (base : Nat) (c : Char) : Bool := (Json.hexValue? c).any (· < base)

/-- A whole number that 64 bits with a sign hold. -/
def wholeTree? (n : Int) : Option Tree :=
  if n < 9223372036854775808 then (Number.whole? n).map .number else none

/-- A whole number: decimal with a sign, or in another base without one. -/
def integer? (word : List Char) : Option Tree :=
  match word with
  | '0' :: 'x' :: digits => (plainDigits? (isDigitIn 16) digits).bind (wholeTree? <| valueIn 16 ·)
  | '0' :: 'o' :: digits => (plainDigits? (isDigitIn 8) digits).bind (wholeTree? <| valueIn 8 ·)
  | '0' :: 'b' :: digits => (plainDigits? (isDigitIn 2) digits).bind (wholeTree? <| valueIn 2 ·)
  | word =>
    let (negative, digits) := splitSign word
    (wholeDigits? digits).bind fun digits =>
      let n : Int := Json.digitsValue digits
      wholeTree? (if negative then -n else n)

/-- An exponent behind its mark. -/
def exponent? (cs : List Char) : Option Int :=
  let (negative, digits) := splitSign cs
  (plainDigits? Json.isDigit digits).map fun digits =>
    let n : Int := Json.digitsValue digits
    if negative then -n else n

/-- A character that ends the digits before the exponent. -/
def isExponentMark (c : Char) : Bool := c == 'e' || c == 'E'

/-- The digits behind the point and the exponent, at least one of the two. -/
def realTail? (cs : List Char) : Option (List Char × Int) :=
  let mantissa := cs.takeWhile fun c => !isExponentMark c
  let exponent : Option Int :=
    match cs.dropWhile fun c => !isExponentMark c with
    | [] => if mantissa.isEmpty then none else some 0
    | _ :: rest => exponent? rest
  match mantissa with
  | [] => exponent.map fun e => ([], e)
  | '.' :: places =>
    match plainDigits? Json.isDigit places, exponent with
    | some places, some e => some (places, e)
    | _, _ => none
  | _ => none

/-- The tree of a floating point number. A number that is too far below zero is infinite, one that is
too large is refused. -/
def realTree? (negative : Bool) (digits : List Char) (exponent : Int) : Option Tree :=
  match Number.real? (.ofDecimal negative ⟨Json.digitsValue digits, exponent⟩) with
  | some n => some (.number n)
  | none => if negative then some .unbounded else none

/-- A floating point number. -/
def real? (word : List Char) : Option Tree :=
  let (negative, rest) := splitSign word
  match rest with
  | ['i', 'n', 'f'] => some .unbounded
  | ['n', 'a', 'n'] => some .unbounded
  | rest =>
    let isWhole (c : Char) : Bool := Json.isDigit c || c == '_'
    match wholeDigits? (rest.takeWhile isWhole), realTail? (rest.dropWhile isWhole) with
    | some whole, some (places, exponent) =>
      realTree? negative (whole ++ places) (exponent - places.length)
    | _, _ => none

/-! ## Moments -/

/-- A number of exactly `count` digits within bounds, and the rest. -/
def field? (count low high : Nat) (cs : List Char) : Option (List Char × List Char) :=
  let digits := cs.take count
  let n := Json.digitsValue digits
  if digits.length = count ∧ digits.all Json.isDigit ∧ low ≤ n ∧ n ≤ high then
    some (digits, cs.drop count)
  else none

/-- How many days a month has. -/
def daysIn (year month : Nat) : Nat :=
  if month = 2 then
    if year % 4 = 0 ∧ (year % 100 ≠ 0 ∨ year % 400 = 0) then 29 else 28
  else if month = 4 ∨ month = 6 ∨ month = 9 ∨ month = 11 then 30
  else 31

/-- A date at the front. -/
def date? (cs : List Char) : Option (List Char × List Char) :=
  match field? 4 0 9999 cs with
  | some (year, '-' :: rest) =>
    match field? 2 1 12 rest with
    | some (month, '-' :: rest) =>
      let days := daysIn (Json.digitsValue year) (Json.digitsValue month)
      (field? 2 1 days rest).map fun (day, rest) =>
        (year ++ '-' :: month ++ '-' :: day, rest)
    | _ => none
  | _ => none

/-- The fraction of a second: nine places count, zeros at the end do not show. -/
def fractionText (places : List Char) : List Char :=
  match ((places.take 9).reverse.dropWhile (· == '0')).reverse with
  | [] => []
  | kept => '.' :: kept

/-- A time of day at the front. -/
def time? (cs : List Char) : Option (List Char × List Char) :=
  match field? 2 0 23 cs with
  | some (hour, ':' :: rest) =>
    match field? 2 0 59 rest with
    | some (minute, ':' :: rest) =>
      match field? 2 0 60 rest with
      | some (second, rest) =>
        let whole := hour ++ ':' :: minute ++ ':' :: second
        match rest with
        | '.' :: rest =>
          match rest.takeWhile Json.isDigit with
          | [] => none
          | places => some (whole ++ fractionText places, rest.dropWhile Json.isDigit)
        | rest => some (whole, rest)
      | none => none
    | _ => none
  | _ => none

/-- The offset from universal time that ends a moment; an offset of zero is written with a plus. -/
def offset? : List Char → Option (List Char)
  | [] => some []
  | ['Z'] => some ['Z']
  | ['z'] => some ['Z']
  | sign :: rest =>
    if sign = '+' ∨ sign = '-' then
      match field? 2 0 23 rest with
      | some (hour, ':' :: rest) =>
        match field? 2 0 59 rest with
        | some (minute, []) =>
          let zero := Json.digitsValue (hour ++ minute) = 0
          some ((if zero then '+' else sign) :: hour ++ ':' :: minute)
        | _ => none
      | _ => none
    else none

/-- The name of the only member of a moment's table. -/
def momentKey : String := "$__toml_private_datetime"

def momentTree (text : List Char) : Tree := .table [(momentKey, .text (String.ofList text))]

/-- The text of a time of day with its offset. -/
def clock? (cs : List Char) : Option (List Char) :=
  match time? cs with
  | some (time, rest) => (offset? rest).map (time ++ ·)
  | none => none

/-- A moment: a date, a time of day, or both with an offset. -/
def moment? (word : List Char) : Option Tree :=
  match date? word with
  | some (date, []) => some (momentTree date)
  | some (date, c :: rest) =>
    if c = 'T' ∨ c = 't' ∨ c = ' ' then
      (clock? rest).map fun time => momentTree (date ++ 'T' :: time)
    else none
  | none =>
    match time? word with
    | some (time, []) => some (momentTree time)
    | _ => none

/-! ## Words -/

/-- What a word means. -/
def scalar? (word : List Char) : Option Tree :=
  match word with
  | ['t', 'r', 'u', 'e'] => some (.bool true)
  | ['f', 'a', 'l', 's', 'e'] => some (.bool false)
  | word => (moment? word).or ((real? word).or (integer? word))

/-- A character that ends a word. -/
def endsWord (c : Char) : Bool :=
  c == ' ' || c == '\t' || c == '\n' || c == '\r' || c == ',' || c == ']' || c == '\x7d' || c == '#'

/-- The word at the front, and the rest. -/
def splitWord (cs : List Char) : List Char × List Char := cs.span fun c => !endsWord c

/-- A scalar at the front. A date and a time of day may stand apart by one blank. -/
def scalarAt? (cs : List Char) : Option (Tree × List Char) :=
  let (word, rest) := splitWord cs
  let joined : Option (Tree × List Char) :=
    match date? word, rest with
    | some (_, []), ' ' :: later =>
      let (time, rest) := splitWord later
      (moment? (word ++ ' ' :: time)).map fun t => (t, rest)
    | _, _ => none
  joined.or ((scalar? word).map fun t => (t, rest))

end ModScript.Toml
