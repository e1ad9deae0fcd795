import ModScript.Text.Blank
import ModScript.Table.Types

/-!
# Callbacks

What a mod wants to happen when a hook, a loop or a command fires, as data. The script renders each
kind as one function. `fault?` tells the callbacks that could never do anything: a blank script, an
event or a variable without a name.
-/

namespace ModScript

/-- The levels that the logging functions of a script know. -/
inductive LogLevel
  | info | warning | error
deriving DecidableEq, Repr

namespace LogLevel

def all : List LogLevel := [info, warning, error]

def name : LogLevel → String
  | info => "info"
  | warning => "warning"
  | error => "error"

/-- The level of that name. -/
def ofName? (s : String) : Option LogLevel := all.find? fun level => level.name == s

/-- The function of a script that logs at the level. -/
def helper : LogLevel → String
  | info => "log"
  | warning => "warn"
  | error => "error"

/-- A level by its name; as a table its payload is `null` or empty. -/
def ofTree? : Tree → Option LogLevel :=
  Tree.named? (fun t => nullPayload t || match t with | .table [] => true | _ => false) ofName?

end LogLevel

/-- The body of a callback. -/
inductive Callback
  | script (source : String)
  | noop
  | log (level : LogLevel) (message : String)
  | emit (event : String)
  | writeVariable (name : String) (value : Json)
  | returnValue (value : Json)

namespace Callback

/-- Why a callback could never do anything. -/
inductive Fault
  | blankScript
  | unnamedEvent
  | unnamedVariable
deriving DecidableEq, Repr

/-- What is wrong with the callback, if anything is. -/
def fault? : Callback → Option Fault
  | script source => if Text.isBlankText source then some .blankScript else none
  | emit event => if event.isEmpty then some .unnamedEvent else none
  | writeVariable name _ => if name.isEmpty then some .unnamedVariable else none
  | _ => none

/-- The name of the kind in data files. -/
def kindName : Callback → String
  | script _ => "script"
  | noop => "noop"
  | log _ _ => "log"
  | emit _ => "emit"
  | writeVariable _ _ => "write_var"
  | returnValue _ => "return"

/-- The fields beside the kind. -/
def fields : Callback → List (String × Json)
  | script source => [("source", .string source)]
  | noop => []
  | log level message => [("level", .string level.name), ("message", .string message)]
  | emit event => [("event", .string event)]
  | writeVariable name value => [("name", .string name), ("value", value)]
  | returnValue value => [("value", value)]

/-- A callback as data: its kind, then its fields. -/
def toJson (c : Callback) : Json := .object (("kind", .string c.kindName) :: c.fields)

/-- The callback of a kind with the given fields. -/
def ofKind? (kind : String) (t : Tree) : Option Callback :=
  match kind with
  | "script" =>
    match t.record? [.required "source"] with
    | some [some source] => source.text?.map script
    | _ => none
  | "noop" =>
    match t with
    | .table _ => some noop
    | .list [] => some noop
    | _ => none
  | "log" =>
    match t.record? [.defaulted "level", .required "message"] with
    | some [level, some message] =>
      match Tree.fieldOr? .info LogLevel.ofTree? level, message.text? with
      | some level, some message => some (log level message)
      | _, _ => none
    | _ => none
  | "emit" =>
    match t.record? [.required "event"] with
    | some [some event] => event.text?.map emit
    | _ => none
  | "write_var" =>
    match t.record? [.required "name", .required "value"] with
    | some [some name, some value] =>
      match name.text?, value.toJson? with
      | some name, some value => some (writeVariable name value)
      | _, _ => none
    | _ => none
  | "return" =>
    match t.record? [.required "value"] with
    | some [some value] => value.toJson?.map returnValue
    | _ => none
  | _ => none

/-- The callback that a sound tree describes. -/
def ofTree? (t : Tree) : Option Callback :=
  if t.isSound then
    match t.kind? "kind" with
    | some (kind, rest) => ofKind? kind rest
    | none => none
  else none

end Callback

end ModScript
