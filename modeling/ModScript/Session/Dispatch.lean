import ModScript.Session.Basic

/-!
# Dispatch of messages

What a message of the script leads to: log lines are noted, events go to the handler that the mod has for
them, and everything is shown. A handler that fails is noted and changes nothing else.
-/

namespace ModScript

/-- The severity of a script's level. -/
def severityOf : String → Severity
  | "error" => .error
  | "warning" => .warning
  | _ => .info

/-- The line of a script's log data, with defaults for what is missing. -/
def scriptLine (data : Json) : Notice :=
  .scriptLine (severityOf (((data.member? "level").bind Json.string?).getD "info"))
    (((data.member? "message").bind Json.string?).getD "")

/-- A payload of the console as text. -/
def consoleText : Json → String
  | .string s => s
  | value => value.compact

/-- The data of a console line. -/
def consoleData (level : String) (payload : Json) : Json :=
  .object [("level", .string level), ("message", .string (consoleText payload))]

/-- Where a message goes: what is let out before the handler of the host, the label of that handler if it
has one, and what is shown in the end. -/
structure Delivery where
  before : List Output
  label : Option String
  event : String
  data : Json

/-- The delivery of a message to a mod. -/
def Declaration.delivery (mod : Declaration) : Outbound → Delivery
  | .send event data =>
    let noted := if event = Event.log then [.notice (scriptLine data)] else []
    match mod.events.get? event with
    | some (.host label) => ⟨noted, some label, event, data⟩
    | some .note => ⟨noted ++ [.notice (.eventReceived event data)], none, event, data⟩
    | none => ⟨noted, none, event, data⟩
  | .fault description stack =>
    let text := stack.getD description
    ⟨[.notice (.scriptFault text)], none, Event.fault, .object [("message", .string text)]⟩
  | .log level payload =>
    let data := consoleData level payload
    ⟨[.notice (scriptLine data)], none, Event.log, data⟩

/-- What is let out when the host has handled an event. -/
def handledOutputs (event : String) (data : Json) : Except String Unit → List Output
  | .ok _ => [.event (.game event data)]
  | .error reason => [.notice (.handlerFailed event reason), .event (.game event data)]

end ModScript
