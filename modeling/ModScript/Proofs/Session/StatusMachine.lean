import ModScript.Proofs.Catalog
import ModScript.Proofs.Session.Crashes

/-!
# Status of a session

A session goes from status to status by the steps of one machine, `Status.Follows`, and shows every change
once. Between two operations it is active exactly while a mod is attached, and otherwise idle or in error.
So the statuses that lead to an active session are all shown by one start: none of them may stand between
two operations. A session that has crashed is not active, but keeps the status in which its wait would have begun.

The invariant says, for every point, which status the session has there.

Results:
1. `Path.ends_active`: the only way from a session at rest to an active one.
2. `moves_perform`, `moves_answered`: the statuses that one turn shows.
3. `Underway.moves`, `Run.moves`: the statuses of an operation and of a whole run.
4. `Run.status_follows_machine`: the statuses of every run.
-/

namespace ModScript

/-! ## The machine -/

/-- A session may go from one status to another. -/
inductive Status.Follows : Status → Status → Prop
  | waiting (process : String) : Follows .idle (.waiting process)
  | refused (message : String) : Follows .idle (.error message)
  | waitingAgain (message process : String) : Follows (.error message) (.waiting process)
  | refusedAgain (message message' : String) : Follows (.error message) (.error message')
  | cleared (message : String) : Follows (.error message) .idle
  | found (process : String) : Follows (.waiting process) .attaching
  | waitCancelled (process : String) : Follows (.waiting process) .idle
  | waitFailed (process message : String) : Follows (.waiting process) (.error message)
  | attached : Follows .attaching .injecting
  | attachCancelled : Follows .attaching .idle
  | attachFailed (message : String) : Follows .attaching (.error message)
  | injected : Follows .injecting .active
  | injectFailed (message : String) : Follows .injecting (.error message)
  | stopped : Follows .active .idle

/-- The status changes, by a step of the machine. -/
def Status.Changes (status status' : Status) : Prop := status ≠ status' ∧ status.Follows status'

/-- The statuses that are shown between one status and another. -/
inductive Path : Status → List Status → Status → Prop
  | nil (status : Status) : Path status [] status
  | cons {status status' last : Status} {statuses : List Status} : status.Changes status' →
    Path status' statuses last → Path status (status' :: statuses) last

section

variable {status status' status'' : Status} {statuses statuses' : List Status}

theorem Path.single (changes : status.Changes status') : Path status [status'] status' :=
  .cons changes (.nil status')

theorem Path.append (path : Path status statuses status') (path' : Path status' statuses' status'') :
    Path status (statuses ++ statuses') status'' := by
  induction path with
  | nil => exact path'
  | cons changes _ ih => exact .cons changes (ih path')

theorem Path.split {before : List Status} (path : Path status (before ++ status' :: statuses) status'') :
    Path status (before ++ [status']) status' := by
  induction before generalizing status with
  | nil =>
    cases path with
    | cons changes _ => exact .single changes
  | cons first before ih =>
    cases path with
    | cons changes rest => exact .cons changes (ih rest)

theorem Path.getLast? (path : Path status statuses status') :
    (status :: statuses).getLast? = some status' := by
  induction path with
  | nil => rfl
  | cons _ _ ih => rw [List.getLast?_cons_cons, ih]

/-- The statuses that a session can have between two operations. -/
inductive Status.Resting : Status → Prop
  | idle : Resting .idle
  | error (message : String) : Resting (.error message)
  | active : Resting .active

end

/-! ## The invariant -/

/-- A session between two operations: active with a mod, and otherwise idle or in error. -/
def Session.Rests (session : Session) : Prop :=
  session.mod = none ∧ (session.status = .idle ∨ ∃ message, session.status = .error message) ∨
    session.mod ≠ none ∧ session.status = .active

theorem Session.Rests.resting {session : Session} (rests : session.Rests) :
    session.status.Resting := by
  rcases rests with ⟨-, idle | ⟨message, error⟩⟩ | ⟨-, active⟩
  · exact idle ▸ .idle
  · exact error ▸ .error message
  · exact active ▸ .active

/-- The status during a wait. -/
def Wait.status : Wait → Status
  | ready _ _ => .injecting
  | cleanup _ _ => .active

/-- What holds while a message is dispatched. -/
def Listener.Fits (session : Session) : Listener → Prop
  | waiting wait _ _ => session.mod = none ∧ session.status = wait.status
  | delivering _ _ => session.mod ≠ none ∧ session.status = .active

/-- Which status a session has at a point, and whether a mod is attached. -/
def Point.Fits (session : Session) : Point → Prop
  | finding job _ | spawning job _ | pausing job _ _ =>
    session.mod = none ∧ session.status = .waiting job.process
  | attaching _ _ | detachingCancelled | takingEvents _ | locating _ | reading _ _ =>
    session.mod = none ∧ session.status = .attaching
  | loading _ _ | unloadingFailed _ => session.mod = none ∧ session.status = .injecting
  | detachingFailed _ =>
    session.mod = none ∧ (session.status = .attaching ∨ session.status = .injecting)
  | settingDeadline wait | readingClock wait _ | receiving wait _ _ =>
    session.mod = none ∧ session.status = wait.status
  | handling listener _ _ _ => listener.Fits session
  | requestingCleanup _ _ | unloadingStopped _ => session.mod = none ∧ session.status = .active
  | detachingStopped _ => session.mod = none ∧ session.status = .idle
  | commanding _ _ | delivering _ _ _ => session.mod ≠ none ∧ session.status = .active

/-- The status that is shown, if one is. -/
def Output.status? : Output → Option Status
  | .event (.status status) => some status
  | .event (.game _ _) | .notice _ => none

def Happening.status? : Happening → Option Status
  | .shown output => output.status?
  | .performed _ | .triggered | .exchanged _ _ | .ended _ _ => none

/-- The statuses that are shown, in order. -/
def statusesOf (happenings : List Happening) : List Status := happenings.filterMap Happening.status?

def Turn.statuses (turn : Turn) : List Status := turn.outputs.filterMap Output.status?

/-- A turn shows its way from one status to that of its session, and gets to a point or an end that the
status fits. It shows an active session only when a start has attached its mod. -/
structure Turn.Moves (turn : Turn) (status : Status) : Prop where
  path : Path status turn.statuses turn.session.status
  started : .active ∈ turn.statuses → ∃ patch, turn.next = .finish (.started patch)
  fits : match turn.next with
    | .ask point => point.Fits turn.session
    | .finish _ => turn.session.Rests
    | .crash wait => turn.session.mod = none ∧ turn.session.status = wait.status

theorem statusesOf_append (happenings happenings' : List Happening) :
    statusesOf (happenings ++ happenings') = statusesOf happenings ++ statusesOf happenings' :=
  List.filterMap_append

theorem statusesOf_happenings (turn : Turn) (operation : Operation) :
    statusesOf (turn.happenings operation) = turn.statuses := by
  obtain ⟨session, outputs, next⟩ := turn
  have shown : statusesOf (outputs.map .shown) = outputs.filterMap Output.status? :=
    List.filterMap_map
  unfold Turn.happenings
  rw [statusesOf_append, shown]
  cases next <;> exact List.append_nil _

/-! ## Turns -/

section

variable {status : Status} {job : Job}

/-- Outputs that show no status change nothing. -/
theorem Turn.Moves.after {outputs : List Output} {turn : Turn} (moves : turn.Moves status)
    (silent : outputs.filterMap Output.status? = []) : (turn.after outputs).Moves status := by
  have same : (turn.after outputs).statuses = turn.statuses := by
    unfold Turn.statuses Turn.after
    rw [List.filterMap_append, silent, List.nil_append]
  exact ⟨same ▸ moves.path, same ▸ moves.started, moves.fits⟩

theorem notices_silent (notices : List Notice) :
    (notices.map Output.notice).filterMap Output.status? = [] := by
  simp [Output.status?]

variable (session : Session)

theorem moves_ask {point : Point} (fits : point.Fits session) :
    (session.ask point).Moves session.status where
  path := .nil _
  started := nofun
  fits := fits

theorem moves_crash {wait : Wait} (during : session.mod = none ∧ session.status = wait.status) :
    (session.crash wait).Moves session.status where
  path := .nil _
  started := nofun
  fits := during

theorem moves_finish {outcome : Outcome} (rests : session.Rests) :
    (session.finish outcome).Moves session.status where
  path := .nil _
  started := nofun
  fits := rests

/-- A change of the status to one that is not active. -/
theorem moves_withStatus {next : Session → Turn} (inactive : status ≠ .active)
    (follows : session.status = status ∨ session.status.Follows status)
    (moves : (next { session with status }).Moves status) :
    (session.withStatus status next).Moves session.status := by
  unfold Session.withStatus
  split
  · next same =>
    subst same
    exact moves
  · next changed =>
    have step : session.status.Changes status := ⟨changed, follows.resolve_left changed⟩
    refine ⟨.cons step moves.path, fun active => ?_, moves.fits⟩
    rcases List.mem_cons.1 active with now | later
    · exact absurd now.symm inactive
    · exact moves.started later

/-! ### Start -/

theorem moves_fail (cause : Error) (free : session.mod = none)
    (follows : session.status.Follows (.error cause.message)) :
    (session.fail cause).Moves session.status := by
  refine Turn.Moves.after (moves_withStatus session nofun (.inr follows) ?_) rfl
  exact moves_finish _ (.inl ⟨free, .inr ⟨_, rfl⟩⟩)

theorem moves_abandon (free : session.mod = none)
    (follows : session.status = .idle ∨ session.status.Follows .idle) :
    session.abandon.Moves session.status :=
  moves_withStatus session nofun follows (moves_finish _ (.inl ⟨free, .inl rfl⟩))

theorem moves_look (spawned : Bool) (free : session.mod = none)
    (waiting : session.status = .waiting job.process) :
    (session.look job spawned).Moves session.status := by
  unfold Session.look
  split
  · exact moves_abandon session free (.inr (waiting ▸ .waitCancelled _))
  · exact moves_ask session ⟨free, waiting⟩

theorem moves_waitToLook (spawned : Bool) (span : Duration) (free : session.mod = none)
    (waiting : session.status = .waiting job.process) :
    (session.waitToLook job spawned span).Moves session.status := by
  unfold Session.waitToLook
  split
  · exact moves_abandon session free (.inr (waiting ▸ .waitCancelled _))
  · exact moves_ask session ⟨free, waiting⟩

theorem moves_notFound (spawned : Bool) (free : session.mod = none)
    (waiting : session.status = .waiting job.process) :
    (session.notFound job spawned).Moves session.status := by
  unfold Session.notFound
  split
  · exact Turn.Moves.after (moves_ask session ⟨free, waiting⟩) rfl
  · exact moves_waitToLook session _ _ free waiting

theorem moves_begin (mod : Declaration) (executable : Option SystemPath) (free : session.mod = none)
    (rests : session.status = .idle ∨ ∃ message, session.status = .error message) :
    (session.begin mod executable).Moves session.status := by
  unfold Session.begin
  dsimp only
  split
  · next cause _ =>
    refine moves_fail { session with cancel := session.cancel.reset } cause free ?_
    rcases rests with idle | ⟨message, error⟩
    · exact idle ▸ .refused _
    · exact error ▸ .refusedAgain _ _
  · refine moves_withStatus { session with cancel := session.cancel.reset } nofun (.inr ?_)
      (moves_look _ false free rfl)
    rcases rests with idle | ⟨message, error⟩
    · exact idle ▸ .waiting _
    · exact error ▸ .waitingAgain _ _

theorem moves_inject {choice : Except Error Resolution × List Notice} (free : session.mod = none)
    (attaching : session.status = .attaching) : (session.inject job choice).Moves session.status := by
  obtain ⟨resolution | resolution, notices⟩ := choice
  · exact Turn.Moves.after (moves_ask session ⟨free, .inl attaching⟩) (notices_silent notices)
  · refine Turn.Moves.after (moves_withStatus session nofun (.inr (attaching ▸ .attached)) ?_)
      (notices_silent notices)
    exact Turn.Moves.after (moves_ask _ ⟨free, rfl⟩) (notices_silent _)

/-! ### Waits -/

/-- The only place at which a session becomes active. -/
theorem moves_ready {patch : String} (injecting : session.status = .injecting) :
    (session.endWait (.ready job patch) .found).Moves session.status := by
  have step : session.status.Changes .active := by
    rw [injecting]
    exact ⟨nofun, .injected⟩
  have shown : session.endWait (.ready job patch) .found =
      ⟨{ session with mod := some job.mod, status := .active }, [.event (.status .active)],
        .finish (.started patch)⟩ := by
    simp only [Session.endWait, Session.withStatus, step.1, if_false]
    rfl
  rw [shown]
  exact ⟨.single step, fun _ => ⟨patch, rfl⟩, .inr ⟨Option.some_ne_none job.mod, rfl⟩⟩

theorem moves_endWait {wait : Wait} (how : WaitEnd) (free : session.mod = none)
    (during : session.status = wait.status) : (session.endWait wait how).Moves session.status := by
  cases wait with
  | ready job patch =>
    cases how with
    | found => exact moves_ready session during
    | timedOut => exact moves_ask session ⟨free, during⟩
    | detached reason => exact moves_ask session ⟨free, during⟩
  | cleanup mod next =>
    cases how with
    | found => exact moves_ask session ⟨free, during⟩
    | timedOut => exact Turn.Moves.after (moves_ask session ⟨free, during⟩) rfl
    | detached reason => exact moves_ask session ⟨free, during⟩

theorem moves_proceed {listener : Listener} (fits : listener.Fits session) :
    (session.proceed listener).Moves session.status := by
  match listener, fits with
  | .waiting _ _ true, fits => exact moves_endWait session .found fits.1 fits.2
  | .waiting _ _ false, fits => exact moves_ask session fits
  | .delivering _ _, fits => exact moves_ask session fits

theorem delivery_silent (mod : Declaration) (message : Outbound) :
    (mod.delivery message).before.filterMap Output.status? = [] := by
  cases message with
  | send event data =>
    unfold Declaration.delivery
    dsimp only
    split <;> split <;> rfl
  | fault description stack => rfl
  | log level payload => rfl

theorem moves_dispatch {mod : Declaration} {message : Outbound} {listener : Listener}
    (fits : listener.Fits session) :
    (session.dispatch mod message listener).Moves session.status := by
  unfold Session.dispatch
  dsimp only
  split
  · exact Turn.Moves.after (moves_ask session fits) (delivery_silent mod message)
  · refine Turn.Moves.after (moves_proceed session fits) ?_
    rw [List.filterMap_append, delivery_silent]
    rfl

theorem moves_heard {wait : Wait} {deadline : Duration} (received : Received)
    (free : session.mod = none) (during : session.status = wait.status) :
    (session.heard wait deadline received).Moves session.status := by
  cases received with
  | message message => exact moves_dispatch session ⟨free, during⟩
  | detached reason => exact moves_endWait session _ free during
  | nothing => exact moves_endWait session _ free during
  | closed => exact moves_endWait session _ free during

/-! ### Stop and delivery -/

theorem moves_afterStop (next : AfterStop) (free : session.mod = none)
    (idle : session.status = .idle) : (session.afterStop next).Moves session.status := by
  cases next with
  | finish => exact moves_finish session (.inl ⟨free, .inl idle⟩)
  | start mod executable => exact moves_begin session mod executable free (.inl idle)

theorem moves_lost (reason : String) (count : Nat) (active : session.status = .active) :
    (session.lost reason count).Moves session.status := by
  unfold Session.lost
  simp only [active, reduceCtorEq, if_false]
  refine Turn.Moves.after ?_ rfl
  rw [← active]
  refine moves_withStatus { session with mod := none } nofun (.inr ?_) ?_
  · exact active ▸ .stopped
  · exact Turn.Moves.after (moves_finish _ (.inl ⟨rfl, .inl rfl⟩)) rfl

theorem moves_deliver {mod : Declaration} {count : Nat} (received : Received)
    (attached : session.mod ≠ none) (active : session.status = .active) :
    (session.deliver mod count received).Moves session.status := by
  have rests : session.Rests := .inr ⟨attached, active⟩
  cases received with
  | message message => exact moves_dispatch session ⟨attached, active⟩
  | detached reason => exact moves_lost session reason _ active
  | nothing => exact moves_finish session rests
  | closed => exact moves_finish session rests

/-! ### Operations and answers -/

theorem moves_stopMod (mod : Declaration) (next : AfterStop) (active : session.status = .active) :
    (session.stopMod mod next).Moves session.status :=
  moves_ask { session with cancel := session.cancel.trigger, mod := none } ⟨rfl, active⟩

theorem moves_perform (operation : Operation) (rests : session.Rests) :
    (session.perform operation).Moves session.status := by
  rcases rests with ⟨free, inactive⟩ | ⟨attached, active⟩
  · have rests : session.Rests := .inl ⟨free, inactive⟩
    cases operation with
    | start mod executable =>
      simp only [Session.perform, Session.start, free]
      exact moves_begin session mod executable free inactive
    | stop =>
      simp only [Session.perform, Session.stop, free]
      refine moves_withStatus session.cancelNow (by simp) ?_ (moves_finish _ (.inl ⟨free, .inl rfl⟩))
      rcases inactive with idle | ⟨message, error⟩
      · exact .inl idle
      · exact .inr (error ▸ .cleared message)
    | send name data =>
      simp only [Session.perform, Session.send, free]
      exact moves_finish session rests
    | pump limit =>
      simp only [Session.perform, Session.pump, free]
      exact moves_finish session rests
    | close =>
      simp only [Session.perform, Session.close, free]
      exact moves_finish session rests
  · obtain ⟨mod, some⟩ := Option.ne_none_iff_exists'.1 attached
    cases operation with
    | start next executable =>
      simp only [Session.perform, Session.start, some]
      exact moves_stopMod session mod _ active
    | stop =>
      simp only [Session.perform, Session.stop, some]
      exact moves_stopMod session mod _ active
    | send name data =>
      simp only [Session.perform, Session.send, some]
      exact moves_ask session ⟨attached, active⟩
    | pump limit =>
      simp only [Session.perform, Session.pump, some]
      exact moves_ask session ⟨attached, active⟩
    | close =>
      simp only [Session.perform, Session.close, Session.stop, some]
      exact moves_stopMod session mod _ active

theorem moves_answered {point : Point} (fits : point.Fits session)
    (answer : point.request.Answer) : (session.answered point answer).Moves session.status := by
  cases point with
  | finding job spawned =>
    obtain ⟨free, waiting⟩ := fits
    change Except Error (Option Nat) at answer
    cases answer with
    | error e => exact moves_notFound session spawned free waiting
    | ok found =>
      cases found with
      | none => exact moves_notFound session spawned free waiting
      | some pid =>
        show (session.withStatus .attaching fun s => s.ask (.attaching job pid)).Moves session.status
        exact moves_withStatus session (by simp) (.inr (waiting ▸ .found _)) (moves_ask _ ⟨free, rfl⟩)
  | spawning job path =>
    obtain ⟨free, waiting⟩ := fits
    change Except Error Unit at answer
    cases answer with
    | error e => exact moves_fail session e free (waiting ▸ .waitFailed _ _)
    | ok => exact moves_waitToLook session true _ free waiting
  | pausing job spawned span => exact moves_look session spawned fits.1 fits.2
  | attaching job pid =>
    change Except Error Unit at answer
    cases answer with
    | error e => exact moves_fail session _ fits.1 (fits.2 ▸ .attachFailed _)
    | ok =>
      simp only [Session.answered]
      split <;> exact Turn.Moves.after (moves_ask session fits) rfl
  | detachingCancelled => exact moves_abandon session fits.1 (.inr (fits.2 ▸ .attachCancelled))
  | takingEvents job =>
    change Except Error Unit at answer
    cases answer with
    | error e => exact moves_ask session ⟨fits.1, .inl fits.2⟩
    | ok => exact moves_ask session fits
  | locating job =>
    change Except Error String at answer
    cases answer with
    | error e => exact Turn.Moves.after (moves_inject session fits.1 fits.2) rfl
    | ok path => exact moves_ask session fits
  | reading job path => exact moves_inject session fits.1 fits.2
  | loading job resolution =>
    change Except Error Unit at answer
    cases answer with
    | error e => exact moves_ask session ⟨fits.1, .inr fits.2⟩
    | ok => exact moves_ask session fits
  | settingDeadline wait =>
    simp only [Session.answered]
    split
    · exact moves_ask session fits
    · exact moves_crash session fits
  | readingClock wait deadline => exact moves_ask session fits
  | receiving wait deadline limit => exact moves_heard session answer fits.1 fits.2
  | handling listener label event data =>
    refine Turn.Moves.after (moves_proceed session fits) ?_
    change Except String Unit at answer
    cases answer <;> rfl
  | unloadingFailed cause => exact moves_ask session ⟨fits.1, .inr fits.2⟩
  | detachingFailed cause =>
    rcases fits with ⟨free, attaching | injecting⟩
    · exact moves_fail session cause free (attaching ▸ .attachFailed _)
    · exact moves_fail session cause free (injecting ▸ .injectFailed _)
  | requestingCleanup mod next =>
    change Except Error Unit at answer
    cases answer with
    | error e => exact Turn.Moves.after (moves_ask session fits) rfl
    | ok => exact moves_ask session fits
  | unloadingStopped next =>
    show (session.withStatus .idle fun s => s.ask (.detachingStopped next)).Moves session.status
    exact moves_withStatus session (by simp) (.inr (fits.2 ▸ .stopped)) (moves_ask _ ⟨fits.1, rfl⟩)
  | detachingStopped next => exact moves_afterStop session next fits.1 fits.2
  | commanding name data =>
    change Except Error Unit at answer
    cases answer <;> exact moves_finish session (.inr fits)
  | delivering mod count limit => exact moves_deliver session answer fits.1 fits.2

theorem moves_resume {point : Point} (fits : point.Fits session) (reply : Reply point.request) :
    (session.resume point reply).Moves session.status := by
  refine moves_answered { session with cancel := session.cancel.after reply.cancelled } ?_ reply.answer
  cases point with
  | handling listener label event data => cases listener <;> exact fits
  | _ => exact fits

end

/-! ## Operations and runs -/

section

variable {session : Session} {operation : Operation} {during trace : List Happening} {turn : Turn}

/-- The statuses that an operation shows, and the way they go. -/
theorem Underway.moves (underway : Underway session operation during turn) (rests : session.Rests) :
    ∃ status, Path session.status (statusesOf during) status ∧ .active ∉ statusesOf during ∧
      turn.Moves status := by
  induction underway with
  | first => exact ⟨session.status, .nil _, List.not_mem_nil, moves_perform session operation rests⟩
  | @reply during turn point reply _ asks ih =>
    obtain ⟨status, path, inactive, moves⟩ := ih
    have fits := moves.fits
    rw [asks] at fits
    have shown : statusesOf (during ++ turn.happenings operation ++
        [.exchanged point.request reply]) = statusesOf during ++ turn.statuses := by
      rw [statusesOf_append, statusesOf_append, statusesOf_happenings]
      exact List.append_nil _
    refine ⟨turn.session.status, ?_, ?_, moves_resume turn.session fits reply⟩
    · exact shown ▸ path.append moves.path
    · rw [shown, List.mem_append]
      rintro (before | now)
      · exact inactive before
      · obtain ⟨patch, finishes⟩ := moves.started now
        cases asks.symm.trans finishes

/-- What holds at a stage of a run. -/
def Stage.Fits : Stage → Prop
  | resting session => session.Rests
  | asking _ session point => point.Fits session
  | closed session => session.Rests
  | crashed _ session wait => session.mod = none ∧ session.status = wait.status

theorem Stage.fits_after {status : Status} (moves : turn.Moves status) (operation : Operation) :
    (Stage.after operation turn).Fits := by
  have fits := moves.fits
  obtain ⟨session, outputs, next⟩ := turn
  cases next with
  | ask point => exact fits
  | finish outcome => cases operation <;> exact fits
  | crash wait => exact fits

/-- The statuses that one step of a run shows. -/
theorem Step.moves {stage stage' : Stage} {happenings : List Happening} (fits : stage.Fits)
    (step : Step stage happenings stage') :
    stage'.Fits ∧ Path stage.session.status (statusesOf happenings) stage'.session.status := by
  cases step with
  | perform session operation =>
    have moves := moves_perform session operation fits
    refine ⟨Stage.fits_after moves operation, ?_⟩
    rw [Stage.session_after]
    exact (statusesOf_happenings _ operation).symm ▸ moves.path
  | trigger session => exact ⟨fits, .nil _⟩
  | reply operation session point reply =>
    have moves := moves_resume session fits reply
    refine ⟨Stage.fits_after moves operation, ?_⟩
    rw [Stage.session_after]
    exact (statusesOf_happenings _ operation).symm ▸ moves.path

/-- The statuses that a run shows. -/
theorem Run.moves {stage : Stage} (rests : session.Rests) (run : Run session trace stage) :
    stage.Fits ∧ Path session.status (statusesOf trace) stage.session.status := by
  induction run with
  | start => exact ⟨rests, .nil _⟩
  | step _ step ih =>
    obtain ⟨fits, path⟩ := step.moves ih.1
    exact ⟨fits, statusesOf_append _ _ ▸ ih.2.append path⟩

end

end ModScript
