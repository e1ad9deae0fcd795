import ModScript.Binary64.Basic

/-!
# Decimal text of floating point numbers

`ofDecimal` is the number nearest to a decimal. `shortest` is the decimal with the fewest digits that
reads back as the number: of the decimals of one length that do, the one nearest to the number, a tie
to the even digit. `text` writes it: positional notation with at least one decimal place when the first
digit stands for a power of ten from -5 to 15, and an exponent with its sign otherwise.
-/

namespace ModScript

/-- The value `digits * 10 ^ exponent`. -/
structure Decimal where
  digits : Nat
  exponent : Int
deriving DecidableEq, Repr

namespace Decimal

/-- How many decimal digits a number has; zero has one. -/
def digitCount (n : Nat) : Nat := (Nat.toDigits 10 n).length

/-- The power of ten that the first digit stands for. -/
def leadingExponent (d : Decimal) : Int := d.exponent + digitCount d.digits - 1

/-- The same value without zeros at the end of the digits; `fuel` bounds how many are dropped. -/
def dropZeros : Nat → Decimal → Decimal
  | 0, d => d
  | fuel + 1, d =>
    if d.digits ≠ 0 ∧ d.digits % 10 = 0 then dropZeros fuel ⟨d.digits / 10, d.exponent + 1⟩ else d

end Decimal

namespace Binary64

/-- The power of ten of an exponent that is not negative, and one of any other. -/
def powerOfTen (exponent : Int) : Nat := Nat.pow 10 exponent.toNat

/-- The number nearest to a decimal. Decimals outside the range of numbers are told by their length. -/
def ofDecimal (negative : Bool) (d : Decimal) : Binary64 :=
  if d.digits = 0 then withSign negative 0
  else if d.leadingExponent > 400 then infinity negative
  else if d.leadingExponent < -400 then withSign negative 0
  else round negative (d.digits * powerOfTen d.exponent) (powerOfTen (-d.exponent))

/-- The decimals that read back as a number lie between two bounds, here over one denominator; the
bounds themselves read back as well if `closed`. -/
structure Interval where
  low : Nat
  value : Nat
  high : Nat
  den : Nat
  closed : Bool
deriving DecidableEq, Repr

/-- The decimals that round to the magnitude of a finite number. Its lower neighbour is half as far
away when the significand is the lowest of its scale. -/
def interval (x : Binary64) : Interval :=
  let m := x.significand
  let scale := x.exponent - 2
  let up := 1 <<< scale.toNat
  let lowestOfScale := x.fractionField = 0 ∧ 1 < x.exponentField
  { low := (4 * m - (if lowestOfScale then 1 else 2)) * up
    value := 4 * m * up
    high := (4 * m + 2) * up
    den := 1 <<< (-scale).toNat
    closed := m % 2 = 0 }

/-- Whether a decimal lies in the interval. -/
def Interval.holds (i : Interval) (d : Decimal) : Bool :=
  let point := d.digits * powerOfTen d.exponent * i.den
  let unit := powerOfTen (-d.exponent)
  if i.closed then i.low * unit ≤ point && point ≤ i.high * unit
  else i.low * unit < point && point < i.high * unit

/-- The power of ten of the first digit of the middle of the interval. -/
def Interval.leadingExponent (i : Interval) : Int :=
  if i.den ≤ i.value then (Decimal.digitCount (i.value / i.den) : Int) - 1
  else -(Decimal.digitCount ((i.den - 1) / i.value) : Int)

/-- The decimal of at most `count` digits nearest to the middle, if it lies in the interval. -/
def Interval.nearest? (i : Interval) (count : Nat) : Option Decimal :=
  let k := i.leadingExponent - count + 1
  let num := i.value * powerOfTen (-k)
  let den := i.den * powerOfTen k
  let below : Decimal := ⟨num / den, k⟩
  let above : Decimal := ⟨num / den + 1, k⟩
  let closest : Decimal := ⟨divideToEven num den, k⟩
  if i.holds closest then some closest
  else if i.holds below then some below
  else if i.holds above then some above
  else none

/-- The shortest decimal that reads back as the magnitude of a finite number. -/
def shortest (x : Binary64) : Decimal :=
  if x.significand = 0 then ⟨0, 0⟩
  else
    let found := (List.range 17).findSome? fun n => x.interval.nearest? (n + 1)
    (found.getD ⟨0, 0⟩).dropZeros 20

/-- Digits with a point after the first `whole` of them, and at least one on either side. -/
def positional (digits : List Char) (whole : Int) : List Char :=
  if whole ≤ 0 then
    '0' :: '.' :: List.replicate (-whole).toNat '0' ++ digits
  else
    let n := whole.toNat
    let places := digits.drop n
    digits.take n ++ List.replicate (n - digits.length) '0' ++
      '.' :: (if places.isEmpty then ['0'] else places)

/-- One digit, the other digits after a point, and the exponent with its sign. -/
def scientific (digits : List Char) (exponent : Int) : List Char :=
  let sign := if exponent < 0 then '-' else '+'
  let places := digits.drop 1
  digits.take 1 ++ (if places.isEmpty then [] else '.' :: places) ++
    'e' :: sign :: Nat.toDigits 10 exponent.natAbs

/-- A decimal in the notation for floating point numbers. -/
def decimalChars (d : Decimal) : List Char :=
  let digits := Nat.toDigits 10 d.digits
  let e := d.leadingExponent
  if -5 ≤ e ∧ e < 16 then positional digits (e + 1) else scientific digits e

/-- A finite number as text. -/
def chars (x : Binary64) : List Char :=
  (if x.isNegative then ['-'] else []) ++ decimalChars x.shortest

end Binary64

end ModScript
