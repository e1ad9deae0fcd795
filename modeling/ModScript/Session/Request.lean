import ModScript.Duration
import ModScript.Error
import ModScript.Files.SystemPath
import ModScript.Session.Message

/-!
# Requests of a session

Everything for which a session needs the world outside: the instrumentation engine, the clock, files, and
the handlers of the host. Each request says what kind of answer it takes. A reply also tells whether
somebody triggered the cancel signal before the answer was there.
-/

namespace ModScript

/-- What comes from the events of an attached process. -/
inductive Received
  | message (message : Outbound)
  | detached (reason : String)
  /-- Nothing came in time. -/
  | nothing
  /-- Nothing is left and nothing can come any more. -/
  | closed

/-- What a session asks for. -/
inductive Request
  /-- Look for a running process of that name. -/
  | findProcess (name : String)
  /-- Start the executable at a path. -/
  | spawn (path : SystemPath)
  /-- Wait, unless the session is cancelled. -/
  | pause (span : Duration)
  | attach (pid : Nat)
  /-- Take the stream of events of the attached process. -/
  | takeEvents
  /-- Where the main module of the attached process lies on disk. -/
  | mainModule
  | fileContent (path : String)
  | loadScript (text : String)
  /-- The time since some fixed moment. -/
  | clock
  /-- The next event, waiting for it at most so long. -/
  | receive (limit : Duration)
  /-- Let the host handle an event. -/
  | handle (label event : String) (data : Json)
  | post (message : Inbound)
  | unloadScript
  | detach

namespace Request

/-- What the world answers. -/
def Answer : Request → Type
  | findProcess _ => Except Error (Option Nat)
  | spawn _ => Except Error Unit
  | pause _ => Unit
  | attach _ => Except Error Unit
  | takeEvents => Except Error Unit
  | mainModule => Except Error String
  | fileContent _ => Except Error ByteArray
  | loadScript _ => Except Error Unit
  | clock => Duration
  | receive _ => Received
  | handle _ _ _ => Except String Unit
  | post _ => Except Error Unit
  | unloadScript => Except Error Unit
  | detach => Except Error Unit

end Request

/-- An answer, and whether the session was cancelled before it came. -/
structure Reply (request : Request) where
  answer : request.Answer
  cancelled : Bool

end ModScript
