/-!
# Binary floating point numbers of 64 bits

A number is kept as its 64 bits. A finite one is `significand * 2 ^ exponent`, with its sign. `round`
gives the number nearest to an exact fraction, of two equally near ones the one with the even
significand.
-/

namespace ModScript

/-- A sign bit, eleven exponent bits and fifty-two fraction bits, from the highest bit down. -/
structure Binary64 where
  bits : UInt64
deriving DecidableEq, Repr

namespace Binary64

/-- The value of the sign bit, above all others. -/
def signUnit : Nat := 0x8000000000000000

/-- The value of the lowest exponent bit, just above the fraction bits. -/
def exponentUnit : Nat := 0x10000000000000

def isNegative (x : Binary64) : Bool := signUnit ≤ x.bits.toNat

def exponentField (x : Binary64) : Nat := x.bits.toNat / exponentUnit % 2048

def fractionField (x : Binary64) : Nat := x.bits.toNat % exponentUnit

/-- Neither infinite nor undefined. -/
def isFinite (x : Binary64) : Bool := x.exponentField < 2047

/-- The whole number that is scaled by `2 ^ x.exponent`. -/
def significand (x : Binary64) : Nat :=
  if x.exponentField = 0 then x.fractionField else exponentUnit + x.fractionField

/-- The power of two that scales the significand of a finite number. -/
def exponent (x : Binary64) : Int :=
  if x.exponentField = 0 then -1074 else (x.exponentField : Int) - 1075

/-- The number with the given sign and the given bits below it. -/
def withSign (negative : Bool) (magnitude : Nat) : Binary64 :=
  ⟨UInt64.ofNat ((if negative then signUnit else 0) + magnitude % signUnit)⟩

/-- The infinity of the given sign. -/
def infinity (negative : Bool) : Binary64 := withSign negative (2047 * exponentUnit)

/-- A quotient rounded to a whole number, a half to the even neighbour. -/
def divideToEven (num den : Nat) : Nat :=
  let quotient := num / den
  let twice := 2 * (num % den)
  if twice < den then quotient
  else if den < twice then quotient + 1
  else quotient + quotient % 2

/-- `num * 2 ^ (-scale) / den` rounded to a whole number. -/
def scaledQuotient (num den : Nat) (scale : Int) : Nat :=
  divideToEven (num <<< (-scale).toNat) (den <<< scale.toNat)

/-- The scale at which the quotient of two positive numbers has fifty-three bits, or the lowest one. -/
def roundingScale (num den : Nat) : Int :=
  let guess := (Nat.log2 num : Int) - Nat.log2 den - 53
  let fits := (num <<< (-guess).toNat) / (den <<< guess.toNat) < 2 * exponentUnit
  max (-1074) (if fits then guess else guess + 1)

/-- The number nearest to `num / den`; too large a quotient gives an infinity. -/
def round (negative : Bool) (num den : Nat) : Binary64 :=
  if num = 0 then withSign negative 0
  else
    let scale := roundingScale num den
    let rounded := scaledQuotient num den scale
    let magnitude := (scale + 1074).toNat * exponentUnit + rounded
    if 2047 * exponentUnit ≤ magnitude then infinity negative else withSign negative magnitude

end Binary64

end ModScript
