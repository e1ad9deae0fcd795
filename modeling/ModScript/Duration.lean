/-!
# Spans of time

A span is a whole number of nanoseconds. Its text uses the largest unit that it reaches, with the
decimal places that it needs.
-/

namespace ModScript

/-- A span of time. -/
structure Duration where
  nanoseconds : Nat
deriving DecidableEq, Repr

namespace Duration

def ofMilliseconds (n : Nat) : Duration := ⟨n * 1000000⟩

def ofSeconds (n : Nat) : Duration := ⟨n * 1000000000⟩

/-- The last time that a clock can tell: its whole seconds have 63 bits. -/
def last : Duration := ⟨9223372036854775808 * 1000000000 - 1⟩

/-- Whole milliseconds, a fraction cut off. -/
def milliseconds (d : Duration) : Nat := d.nanoseconds / 1000000

@[simp]
theorem milliseconds_ofMilliseconds (n : Nat) : (ofMilliseconds n).milliseconds = n := by
  unfold milliseconds ofMilliseconds
  exact Nat.mul_div_cancel n (by decide)

/-- Decimal places of a remainder below `10 ^ places`, without zeros at the end. -/
def placesText (places remainder : Nat) : String :=
  let digits := Nat.toDigits 10 remainder
  let padded := List.replicate (places - digits.length) '0' ++ digits
  let kept := (padded.reverse.dropWhile (· == '0')).reverse
  if kept.isEmpty then "" else "." ++ String.ofList kept

/-- The span in a unit of `10 ^ places` nanoseconds. -/
def inUnit (d : Duration) (places : Nat) (unit : String) : String :=
  let n := d.nanoseconds
  let unitSize := Nat.pow 10 places
  toString (n / unitSize) ++ placesText places (n % unitSize) ++ unit

def text (d : Duration) : String :=
  if 1000000000 ≤ d.nanoseconds then d.inUnit 9 "s"
  else if 1000000 ≤ d.nanoseconds then d.inUnit 6 "ms"
  else if 1000 ≤ d.nanoseconds then d.inUnit 3 "µs"
  else d.inUnit 0 "ns"

end Duration

end ModScript
