import ModScript.Error

/-!
# Failures of the program

What the program says when it cannot do what it was asked: a first line, and below it the causes, which
are numbered if there are several.
-/

namespace ModScript

/-- Why the program gave up. -/
inductive Failure
  | error (cause : Error)
  | during (activity : String) (cause : Error)
  | file (fault : FileFault)
  | inconsistent (count : Nat)
deriving DecidableEq, Repr

/-- What lies behind an error of files and documents. -/
def Error.causes : Error → List String
  | .file fault => [fault.text]
  | .malformedJson => ["malformed document"]
  | .malformedToml => ["malformed document"]
  | _ => []

namespace Failure

/-- The first line. -/
def headline : Failure → String
  | error cause => cause.message
  | during activity _ => "failed to " ++ activity
  | file fault => fault.text
  | inconsistent count => toString count ++ " consistency issue(s) found"

/-- What is behind it, from near to far. -/
def causes : Failure → List String
  | error cause => cause.causes
  | during _ cause => cause.message :: cause.causes
  | _ => []

/-- Text behind a label, later lines as far in as the first one. -/
def indented (label : List Char) (s : String) : String :=
  String.ofList (label ++ s.toList.flatMap fun c =>
    if c = '\n' then '\n' :: List.replicate label.length ' ' else [c])

/-- The label of a numbered cause. -/
def numberLabel (n : Nat) : List Char :=
  let digits := Nat.toDigits 10 n
  List.replicate (5 - digits.length) ' ' ++ digits ++ [':', ' ']

/-- The causes as they are listed. -/
def causesText : List String → String
  | [] => ""
  | [cause] => "\n\nCaused by:\n" ++ indented [' ', ' ', ' ', ' '] cause
  | causes =>
    "\n\nCaused by:\n" ++
      "\n".intercalate (causes.mapIdx fun n cause => indented (numberLabel n) cause)

def text (failure : Failure) : String := failure.headline ++ causesText failure.causes

end Failure

end ModScript
