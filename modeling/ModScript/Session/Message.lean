import ModScript.Tree
import ModScript.Json.Text

/-!
# Messages between host and script

A host sends commands and the request to clean up; a script sends events, faults and console lines.
-/

namespace ModScript

/-- Host to script. -/
inductive Inbound
  | command (name : String) (data : Json)
  | cleanup

/-- Script to host: an event, an uncaught fault, or a line of console output. -/
inductive Outbound
  | send (event : String) (data : Json)
  | fault (description : String) (stack : Option String)
  | log (level : String) (payload : Json)

/-! ## Names of events that scripts and sessions reserve -/

namespace Event

/-- The script is installed. -/
def ready : String := "__ready"

/-- The script has undone its changes. -/
def cleanupDone : String := "__cleanupDone"

/-- The process went away. -/
def detached : String := "__detached"

/-- The script has faulted. -/
def fault : String := "__error"

/-- The script has logged a line. -/
def log : String := "__log"

end Event

namespace Inbound

def toJson : Inbound → Json
  | command name data =>
    .object [("type", .string "command"), ("name", .string name), ("data", data)]
  | cleanup => .object [("type", .string "cleanup")]

/-- The message of a kind with the given fields. -/
def ofKind? (kind : String) (t : Tree) : Option Inbound :=
  match kind with
  | "command" =>
    match t.record? [.required "name", .required "data"] with
    | some [some name, some data] =>
      match name.text?, data.toJson? with
      | some name, some data => some (command name data)
      | _, _ => none
    | _ => none
  | "cleanup" =>
    match t with
    | .table _ => some cleanup
    | .list [] => some cleanup
    | _ => none
  | _ => none

/-- The message that a sound tree describes. -/
def ofTree? (t : Tree) : Option Inbound :=
  if t.isSound then
    match t.kind? "type" with
    | some (kind, rest) => ofKind? kind rest
    | none => none
  else none

end Inbound

namespace Outbound

/-- The name of the event that the message sends. -/
def event? : Outbound → Option String
  | send event _ => some event
  | _ => none

def toJson : Outbound → Json
  | send event data =>
    .object [("type", .string "send"),
      ("payload", .object [("event", .string event), ("data", data)])]
  | fault description none =>
    .object [("type", .string "error"), ("description", .string description)]
  | fault description (some stack) =>
    .object [("type", .string "error"), ("description", .string description),
      ("stack", .string stack)]
  | log level payload =>
    .object [("type", .string "log"), ("level", .string level), ("payload", payload)]

/-- The event and the data of a payload; data that is absent is `null`. -/
def ofPayload? (t : Tree) : Option Outbound :=
  match t.record? [.required "event", .defaulted "data"] with
  | some [some event, data] =>
    match event.text?, Tree.fieldOr? .null Tree.toJson? data with
    | some event, some data => some (send event data)
    | _, _ => none
  | _ => none

/-- The message of a kind with the given fields. -/
def ofKind? (kind : String) (t : Tree) : Option Outbound :=
  match kind with
  | "send" =>
    match t.record? [.required "payload"] with
    | some [some payload] => ofPayload? payload
    | _ => none
  | "error" =>
    match t.record? [.defaulted "description", .defaulted "stack"] with
    | some [description, stack] =>
      match Tree.fieldOr? "" Tree.text? description,
          Tree.fieldOr? none (Tree.nullable? Tree.text?) stack with
      | some description, some stack => some (fault description stack)
      | _, _ => none
    | _ => none
  | "log" =>
    match t.record? [.defaulted "level", .required "payload"] with
    | some [level, some payload] =>
      match Tree.fieldOr? "info" Tree.text? level, payload.toJson? with
      | some level, some payload => some (log level payload)
      | _, _ => none
    | _ => none
  | _ => none

/-- The message that a sound tree describes. -/
def ofTree? (t : Tree) : Option Outbound :=
  if t.isSound then
    match t.kind? "type" with
    | some (kind, rest) => ofKind? kind rest
    | none => none
  else none

end Outbound

end ModScript
