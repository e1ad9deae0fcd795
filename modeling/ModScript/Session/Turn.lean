import ModScript.Session.Dispatch

/-!
# Turns of a session

The operations of a session and how each goes on after an answer. A start looks for the process, starts
the game at most once, attaches, chooses the patch, loads the script and waits until it is ready; if
something fails on the way, what was done is undone before the start ends. A stop asks the script to clean
up, waits for it, and then unloads and detaches whatever the answers were.

Both set a deadline for their wait. If no clock can ever tell that time, the operation crashes there: nothing is
unloaded or detached, and the status stays what it was.
-/

namespace ModScript

namespace Session

/-! ## Start -/

/-- Looks for the process of a start, unless it was cancelled. -/
def look (session : Session) (job : Job) (spawned : Bool) : Turn :=
  if session.cancel.triggered then session.abandon else session.ask (.finding job spawned)

/-- Waits before the next look, unless the start was cancelled. -/
def waitToLook (session : Session) (job : Job) (spawned : Bool) (span : Duration) : Turn :=
  if session.cancel.triggered then session.abandon
  else session.ask (.pausing job spawned span)

/-- The name of the process: that of the executable's file if it is text, or else of the game's executable. -/
def processName (game : Game) (executable : Option SystemPath) : String :=
  (executable.bind SystemPath.name?).getD game.executable

/-- Begins a start while no mod is attached. -/
def begin (session : Session) (mod : Declaration) (executable : Option SystemPath) : Turn :=
  let session := { session with cancel := session.cancel.reset }
  match session.catalog.get mod.game with
  | .error e => session.fail e
  | .ok game =>
    let job : Job := ⟨mod, executable, processName game executable⟩
    session.withStatus (.waiting job.process) fun s => s.look job false

/-- Goes on when no process was found: the game is started once, if its executable is known. -/
def notFound (session : Session) (job : Job) (spawned : Bool) : Turn :=
  match job.executable, spawned with
  | some path, false => (session.ask (.spawning job path)).after [.notice (.starting path)]
  | _, _ => session.waitToLook job spawned session.timing.poll

/-- Goes on with the patch that was chosen for the process. -/
def inject (session : Session) (job : Job) (choice : Except Error Resolution × List Notice) :
    Turn :=
  let turn : Turn :=
    match choice.1 with
    | .error e => session.ask (.detachingFailed e)
    | .ok resolution =>
      session.withStatus .injecting fun s =>
        (s.ask (.loading job resolution)).after
          ((Script.notices job.mod resolution.game resolution.patch).map .notice)
  turn.after (choice.2.map .notice)

/-! ## Waits -/

/-- Goes on when a wait has ended. -/
def endWait (session : Session) (wait : Wait) (how : WaitEnd) : Turn :=
  match wait, how with
  | .ready job patch, .found =>
    { session with mod := some job.mod }.withStatus .active fun s => s.finish (.started patch)
  | .ready _ _, .timedOut => session.ask (.unloadingFailed (.notReady session.timing.ready))
  | .ready _ _, .detached reason => session.ask (.unloadingFailed (.detachedEarly reason))
  | .cleanup _ next, .timedOut =>
    (session.ask (.unloadingStopped next)).after [.notice (.cleanupLate session.timing.cleanup)]
  | .cleanup _ next, .found => session.ask (.unloadingStopped next)
  | .cleanup _ next, .detached _ => session.ask (.unloadingStopped next)

/-- Goes on when a message has been dispatched. -/
def proceed (session : Session) : Listener → Turn
  | .waiting wait _ true => session.endWait wait .found
  | .waiting wait deadline false => session.ask (.readingClock wait deadline)
  | .delivering mod count => session.ask (.delivering mod count ⟨0⟩)

/-- Dispatches a message to a mod. -/
def dispatch (session : Session) (mod : Declaration) (message : Outbound) (listener : Listener) :
    Turn :=
  let delivery := mod.delivery message
  match delivery.label with
  | some label =>
    (session.ask (.handling listener label delivery.event delivery.data)).after delivery.before
  | none =>
    (session.proceed listener).after
      (delivery.before ++ [.event (.game delivery.event delivery.data)])

/-- Goes on with what a wait has received. -/
def heard (session : Session) (wait : Wait) (deadline : Duration) : Received → Turn
  | .message message =>
    session.dispatch wait.mod message
      (.waiting wait deadline (message.event? == some wait.event))
  | .detached reason => session.endWait wait (.detached reason)
  | .nothing => session.endWait wait .timedOut
  | .closed => session.endWait wait (.detached "event channel closed")

/-! ## Stop, commands and pending events -/

/-- Stops a mod that is attached, and goes on. -/
def stopMod (session : Session) (mod : Declaration) (next : AfterStop) : Turn :=
  { session with cancel := session.cancel.trigger, mod := none }.ask
    (.requestingCleanup mod next)

/-- Goes on when a mod was stopped. -/
def afterStop (session : Session) : AfterStop → Turn
  | .finish => session.finish .stopped
  | .start mod executable => session.begin mod executable

/-- The process went away while events were delivered. -/
def lost (session : Session) (reason : String) (count : Nat) : Turn :=
  let session := { session with mod := none }
  if session.status = .idle then session.finish (.delivered count)
  else
    (session.withStatus .idle fun s =>
      (s.finish (.delivered count)).after
        [.event (.game Event.detached (.object [("reason", .string reason)]))]).after
      [.notice (.detached reason)]

/-- Goes on with what came of pending events. -/
def deliver (session : Session) (mod : Declaration) (count : Nat) : Received → Turn
  | .message message => session.dispatch mod message (.delivering mod (count + 1))
  | .detached reason => session.lost reason (count + 1)
  | .nothing => session.finish (.delivered count)
  | .closed => session.finish (.delivered count)

/-! ## Operations -/

/-- Attaches a mod to its game, whose executable is started if it does not run. A mod that is attached is
stopped first. -/
def start (session : Session) (mod : Declaration) (executable : Option SystemPath) : Turn :=
  match session.mod with
  | some attached => session.stopMod attached (.start mod executable)
  | none => session.begin mod executable

/-- Stops the mod that is attached. -/
def stop (session : Session) : Turn :=
  match session.mod with
  | some attached => session.stopMod attached .finish
  | none => session.cancelNow.withStatus .idle fun s => s.finish .stopped

/-- Sends a command to the script. -/
def send (session : Session) (name : String) (data : Json) : Turn :=
  match session.mod with
  | some _ => session.ask (.commanding name data)
  | none => session.finish (.failed (.noSession name))

/-- Delivers pending events, waiting at most `limit` for the first. -/
def pump (session : Session) (limit : Duration) : Turn :=
  match session.mod with
  | some mod => session.ask (.delivering mod 0 limit)
  | none => session.finish (.delivered 0)

/-- Ends the session. -/
def close (session : Session) : Turn :=
  match session.mod with
  | some _ => session.stop
  | none => session.finish .stopped

/-! ## Answers -/

/-- How an operation goes on after the answer to its request. -/
def answered (session : Session) : (point : Point) → point.request.Answer → Turn
  | .finding job spawned, answer =>
    match answer with
    | .ok (some pid) => session.withStatus .attaching fun s => s.ask (.attaching job pid)
    | .ok none => session.notFound job spawned
    | .error _ => session.notFound job spawned
  | .spawning job _, answer =>
    match answer with
    | .ok _ => session.waitToLook job true session.timing.grace
    | .error e => session.fail e
  | .pausing job spawned _, _ => session.look job spawned
  | .attaching job pid, answer =>
    match answer with
    | .error e => session.fail (.notAttached e)
    | .ok _ =>
      (if session.cancel.triggered then session.ask .detachingCancelled
        else session.ask (.takingEvents job)).after [.notice (.attached job.process pid)]
  | .detachingCancelled, _ => session.abandon
  | .takingEvents job, answer =>
    match answer with
    | .ok _ => session.ask (.locating job)
    | .error e => session.ask (.detachingFailed (.notAttached e))
  | .locating job, answer =>
    match answer with
    | .ok path => session.ask (.reading job path)
    | .error e =>
      (session.inject job (session.catalog.resolve job.mod.game none)).after
        [.notice (.detectionFailed e)]
  | .reading job path, answer =>
    session.inject job (session.catalog.resolveContent job.mod.game path answer)
  | .loading job resolution, answer =>
    match answer with
    | .ok _ => session.ask (.settingDeadline (.ready job resolution.key))
    | .error e => session.ask (.detachingFailed (.notLoaded e))
  | .settingDeadline wait, now =>
    match wait.deadline? session.timing now with
    | some deadline => session.ask (.readingClock wait deadline)
    | none => session.crash wait
  | .readingClock wait deadline, now =>
    let now : Duration := now
    session.ask (.receiving wait deadline ⟨deadline.nanoseconds - now.nanoseconds⟩)
  | .receiving wait deadline _, received => session.heard wait deadline received
  | .handling listener _ event data, answer =>
    (session.proceed listener).after (handledOutputs event data answer)
  | .unloadingFailed cause, _ => session.ask (.detachingFailed cause)
  | .detachingFailed cause, _ => session.fail cause
  | .requestingCleanup mod next, answer =>
    match answer with
    | .ok _ => session.ask (.settingDeadline (.cleanup mod next))
    | .error e =>
      (session.ask (.unloadingStopped next)).after [.notice (.cleanupRefused e)]
  | .unloadingStopped next, _ =>
    session.withStatus .idle fun s => s.ask (.detachingStopped next)
  | .detachingStopped next, _ => session.afterStop next
  | .commanding _ _, answer =>
    match answer with
    | .ok _ => session.finish .sent
    | .error e => session.finish (.failed e)
  | .delivering mod count _, received => session.deliver mod count received

/-- How an operation goes on after a reply. -/
def resume (session : Session) (point : Point) (reply : Reply point.request) : Turn :=
  { session with cancel := session.cancel.after reply.cancelled }.answered point reply.answer

end Session

end ModScript
