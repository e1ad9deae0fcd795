/-!
# Paths

A path is text whose segments stand between slashes. Empty segments and `.` do not count, except that
an empty first segment makes a path absolute and a first `.` stays.
-/

namespace ModScript.Path

/-- The pieces between the slashes. -/
def pieces : List Char → List (List Char)
  | [] => [[]]
  | c :: rest =>
    match pieces rest with
    | [] => [[c]]
    | piece :: others => if c = '/' then [] :: piece :: others else (c :: piece) :: others

/-- The segments of a path, the empty ones included. -/
def segments (path : String) : List String := (pieces path.toList).map String.ofList

def isRelative (path : String) : Bool := path.toList.head? != some '/'

/-- `path` seen from the directory `base`. -/
def join (base path : String) : String :=
  if !isRelative path || base.isEmpty then path
  else if base.toList.getLast? == some '/' then base ++ path
  else base ++ "/" ++ path

/-- A segment that counts wherever it stands. -/
def counts (segment : String) : Bool := segment != "" && segment != "."

/-- Segments up to the last one that counts; the first one stays. -/
def trimmed : List String → List String
  | [] => []
  | first :: rest => first :: (rest.reverse.dropWhile fun segment => !counts segment).reverse

/-- The path of segments, of which an empty first one stands for the root. -/
def ofSegments : List String → String
  | [""] => "/"
  | kept => "/".intercalate kept

/-- The path without its last segment; the empty path and the root have none. -/
def parent? (path : String) : Option String :=
  match trimmed (segments path) with
  | [""] => none
  | [] => none
  | [_] => some ""
  | kept => some (ofSegments (trimmed kept.dropLast))

end ModScript.Path
