import ModScript.Binary64.Basic
import ModScript.OrderedMap

/-!
# Free data values

The values that data files and messages carry without a fixed shape: constants of a game, values that
a callback writes or returns, payloads of events. A whole number is kept exactly when 64 bits hold it,
signed or not; any other number is a finite floating point number.
-/

namespace ModScript

/-- Whether 64 bits hold a whole number, with a sign or without one. -/
abbrev FitsWord (n : Int) : Prop := -9223372036854775808 ≤ n ∧ n < 18446744073709551616

/-- A number of a data value. -/
inductive Number
  | whole (value : Int) (fits : FitsWord value)
  | real (value : Binary64) (finite : value.isFinite = true)
deriving DecidableEq

/-- A data value; the members of an object are in order. -/
inductive Json
  | null
  | bool (value : Bool)
  | number (value : Number)
  | string (value : String)
  | array (items : List Json)
  | object (members : List (String × Json))

namespace Number

/-- The whole number, if 64 bits hold it. -/
def whole? (n : Int) : Option Number :=
  if h : FitsWord n then some (.whole n h) else none

/-- The floating point number, if it is finite. -/
def real? (x : Binary64) : Option Number :=
  if h : x.isFinite = true then some (.real x h) else none

/-- A number below `2 ^ 64` as a data value. -/
def ofUInt64 (n : UInt64) : Number :=
  .whole n.toNat (by have := n.toNat_lt; constructor <;> omega)

end Number

namespace Json

instance : Inhabited Json := ⟨.null⟩

def isNumber : Json → Bool
  | .number _ => true
  | _ => false

/-- The text of a string value. -/
def string? : Json → Option String
  | .string s => some s
  | _ => none

/-- The value of the member `key` of an object. -/
def member? (key : String) : Json → Option Json
  | .object members => members.lookup key
  | _ => none

mutual

/-- How deep arrays and objects are nested in each other. -/
def depth : Json → Nat
  | .array items => depthOfItems items + 1
  | .object members => depthOfMembers members + 1
  | _ => 0

def depthOfItems : List Json → Nat
  | [] => 0
  | item :: rest => max (depth item) (depthOfItems rest)

def depthOfMembers : List (String × Json) → Nat
  | [] => 0
  | (_, value) :: rest => max (depth value) (depthOfMembers rest)

end

mutual

/-- No object of the value has two members of one name. -/
def HasDistinctKeys : Json → Prop
  | .array items => ItemsHaveDistinctKeys items
  | .object members => (members.map Prod.fst).Nodup ∧ MembersHaveDistinctKeys members
  | _ => True

def ItemsHaveDistinctKeys : List Json → Prop
  | [] => True
  | item :: rest => HasDistinctKeys item ∧ ItemsHaveDistinctKeys rest

def MembersHaveDistinctKeys : List (String × Json) → Prop
  | [] => True
  | (_, value) :: rest => HasDistinctKeys value ∧ MembersHaveDistinctKeys rest

end

end Json

end ModScript
