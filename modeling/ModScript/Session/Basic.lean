import ModScript.Config
import ModScript.Game.Catalog
import ModScript.Notice
import ModScript.Script.Text
import ModScript.Session.CancelSignal
import ModScript.Session.Request

/-!
# Sessions

A session attaches one mod at a time to the process of its game. Its status changes only through
`Session.withStatus`, which shows every change once. What an operation does between two requests is a
turn; where it goes on after an answer is a point.
-/

namespace ModScript

/-- What a session is about. -/
inductive Status
  | idle
  | waiting (process : String)
  | attaching
  | injecting
  | active
  | error (message : String)
deriving DecidableEq, Repr

def Status.text : Status → String
  | idle => "idle"
  | waiting process => "waiting for " ++ process
  | attaching => "attaching"
  | injecting => "injecting"
  | active => "active"
  | error message => "error: " ++ message

/-- What a session shows: a change of its status, or an event of the game. -/
inductive SessionEvent
  | status (status : Status)
  | game (event : String) (data : Json)

/-- What a turn lets out, in order. -/
inductive Output
  | notice (notice : Notice)
  | event (event : SessionEvent)

/-- A session between two turns. `mod` is the mod that is attached. -/
structure Session where
  catalog : GameCatalog
  timing : Timing
  cancel : CancelSignal
  status : Status
  mod : Option Declaration

/-- A start under way: the mod, the executable to start if the game does not run, and the name of the
process. -/
structure Job where
  mod : Declaration
  executable : Option SystemPath
  process : String

/-- What follows when a mod was stopped: nothing, or the start of another one. -/
inductive AfterStop
  | finish
  | start (mod : Declaration) (executable : Option SystemPath)

/-- What a session waits for: that a script is ready for a patch, or that it has cleaned up. -/
inductive Wait
  | ready (job : Job) (patch : String)
  | cleanup (mod : Declaration) (next : AfterStop)

/-- How a wait ends. -/
inductive WaitEnd
  | found
  | timedOut
  | detached (reason : String)

/-- Who goes on when a message is dispatched: a wait, which may have found its event, or the delivery of
pending events with the number of those delivered. -/
inductive Listener
  | waiting (wait : Wait) (deadline : Duration) (found : Bool)
  | delivering (mod : Declaration) (count : Nat)

/-- Where an operation stands while a request is under way. -/
inductive Point
  | finding (job : Job) (spawned : Bool)
  | spawning (job : Job) (path : SystemPath)
  | pausing (job : Job) (spawned : Bool) (span : Duration)
  | attaching (job : Job) (pid : Nat)
  | detachingCancelled
  | takingEvents (job : Job)
  | locating (job : Job)
  | reading (job : Job) (path : String)
  | loading (job : Job) (resolution : Resolution)
  | settingDeadline (wait : Wait)
  | readingClock (wait : Wait) (deadline : Duration)
  | receiving (wait : Wait) (deadline limit : Duration)
  | handling (listener : Listener) (label event : String) (data : Json)
  | unloadingFailed (cause : Error)
  | detachingFailed (cause : Error)
  | requestingCleanup (mod : Declaration) (next : AfterStop)
  | unloadingStopped (next : AfterStop)
  | detachingStopped (next : AfterStop)
  | commanding (name : String) (data : Json)
  | delivering (mod : Declaration) (count : Nat) (limit : Duration)

/-- How an operation ends. -/
inductive Outcome
  | started (patch : String)
  | cancelled
  | failed (cause : Error)
  | stopped
  | sent
  | delivered (count : Nat)

instance : Inhabited Outcome := ⟨.stopped⟩

/-- What comes after a turn: a request at a point, the end of the operation, or a crash, since the deadline of a
wait cannot be told. -/
inductive Next
  | ask (point : Point)
  | finish (outcome : Outcome)
  | crash (wait : Wait)

/-- What an operation does without help from outside. -/
structure Turn where
  session : Session
  outputs : List Output
  next : Next

namespace Wait

/-- The mod whose messages are dispatched. -/
def mod : Wait → Declaration
  | ready job _ => job.mod
  | cleanup mod _ => mod

/-- The event that ends the wait. -/
def event : Wait → String
  | ready _ _ => Event.ready
  | cleanup _ _ => Event.cleanupDone

/-- How long the wait may last. -/
def span (timing : Timing) : Wait → Duration
  | ready _ _ => timing.ready
  | cleanup _ _ => timing.cleanup

/-- When a wait that begins at a time has to end, if a clock can ever tell so. -/
def deadline? (wait : Wait) (timing : Timing) (start : Duration) : Option Duration :=
  let deadline : Duration := ⟨start.nanoseconds + (wait.span timing).nanoseconds⟩
  if deadline.nanoseconds ≤ Duration.last.nanoseconds then some deadline else none

section

variable {wait : Wait} {timing : Timing} {start : Duration}

theorem deadline?_eq_some
    (fits : start.nanoseconds + (wait.span timing).nanoseconds ≤ Duration.last.nanoseconds) :
    wait.deadline? timing start = some ⟨start.nanoseconds + (wait.span timing).nanoseconds⟩ := if_pos fits

end

end Wait

/-- What is asked for at a point. -/
def Point.request : Point → Request
  | finding job _ => .findProcess job.process
  | spawning _ path => .spawn path
  | pausing _ _ span => .pause span
  | attaching _ pid => .attach pid
  | detachingCancelled => .detach
  | takingEvents _ => .takeEvents
  | locating _ => .mainModule
  | reading _ path => .fileContent path
  | loading job resolution => .loadScript (job.mod.script resolution.game resolution.patch)
  | settingDeadline _ => .clock
  | readingClock _ _ => .clock
  | receiving _ _ limit => .receive limit
  | handling _ label event data => .handle label event data
  | unloadingFailed _ => .unloadScript
  | detachingFailed _ => .detach
  | requestingCleanup _ _ => .post .cleanup
  | unloadingStopped _ => .unloadScript
  | detachingStopped _ => .detach
  | commanding name data => .post (.command name data)
  | delivering _ _ limit => .receive limit

namespace Turn

/-- The turn with outputs before its own. -/
def after (outputs : List Output) (turn : Turn) : Turn :=
  { turn with outputs := outputs ++ turn.outputs }

end Turn

namespace Session

/-- A session that has done nothing yet. -/
def new (catalog : GameCatalog) (timing : Timing) : Session :=
  ⟨catalog, timing, .armed, .idle, none⟩

instance : Inhabited Session := ⟨new .empty {}⟩

/-- Whether a mod is attached. -/
def isActive (session : Session) : Bool := session.mod.isSome

/-- The session with its cancel signal triggered. -/
def cancelNow (session : Session) : Session := { session with cancel := session.cancel.trigger }

def ask (session : Session) (point : Point) : Turn := ⟨session, [], .ask point⟩

def finish (session : Session) (outcome : Outcome) : Turn := ⟨session, [], .finish outcome⟩

/-- Goes down before a wait, and leaves everything as it is. -/
def crash (session : Session) (wait : Wait) : Turn := ⟨session, [], .crash wait⟩

/-- Goes on with another status; a status that does not change is not shown. -/
def withStatus (session : Session) (status : Status) (next : Session → Turn) : Turn :=
  if session.status = status then next session
  else (next { session with status }).after [.event (.status status)]

/-- Ends a start with an error. -/
def fail (session : Session) (cause : Error) : Turn :=
  (session.withStatus (.error cause.message) fun s => s.finish (.failed cause)).after
    [.notice (.attachFailed cause)]

/-- Ends a start that was cancelled. -/
def abandon (session : Session) : Turn :=
  session.withStatus .idle fun s => s.finish .cancelled

end Session

end ModScript
