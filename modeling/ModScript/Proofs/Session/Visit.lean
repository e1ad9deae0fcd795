import ModScript.Proofs.Session.Operation

/-!
# Visits to attached processes

What the host gets to know of an attached process, from what the process tells. A trace is sorted into
visits, one for each successful attach: for which mod, what was taken from the events of the process, and
what the host saw of it, in order. Every message that is taken is dispatched once, before anything else is
taken: it is the handler of the mod, if there is one for the event, and then one event that is shown. When
the process is lost nothing more is taken.

The invariant says, for every point, which messages of the newest visit were dispatched.

Results:
1. `Declaration.effects`: what the host sees of one message.
2. `Journal.told_perform`, `Journal.told_answered`: what an operation and an answer add to the visits.
3. `Journal.atStage_run`: the visits of a whole run.
4. `Run.started_visit`: a start that succeeds has taken the messages up to the first that tells that the
   script is ready.
5. `Run.delivered_count`: a pump tells how much it has taken.
-/

namespace ModScript

/-! ## Messages and what the host sees of them -/

/-- What an attached process tells. -/
inductive Arrival
  | message (message : Outbound)
  | detached (reason : String)

/-- What was received, if anything was. -/
def Received.arrival? : Received → Option Arrival
  | .message sent => some (.message sent)
  | .detached reason => some (.detached reason)
  | .nothing | .closed => none

/-- What a host sees of an attached process: a handler is called, or an event is shown. -/
inductive Effect
  | handled (handler : EventHandler) (event : String) (data : Json)
  | shown (event : String) (data : Json)

/-- The handler of an event is called, if the mod has one, and the event is shown. Faults and lines of the
console have no handler. -/
def Declaration.effects (mod : Declaration) : Outbound → List Effect
  | .send event data =>
    (mod.events.get? event).toList.map (fun handler => .handled handler event data) ++
      [.shown event data]
  | .fault description stack =>
    [.shown Event.fault (.object [("message", .string (stack.getD description))])]
  | .log level payload =>
    [.shown Event.log (.object [("level", .string level), ("message", .string (consoleText payload))])]

/-- The event that tells that a process was lost. -/
def lostEffect (reason : String) : Effect :=
  .shown Event.detached (.object [("reason", .string reason)])

def Output.effect? : Output → Option Effect
  | .notice (.eventReceived name data) => some (.handled .note name data)
  | .event (.game name data) => some (.shown name data)
  | _ => none

namespace Happening

/-- The mod whose start begins. -/
def starts? : Happening → Option Declaration
  | performed (.start mod _) => some mod
  | _ => none

/-- The answer of the events of the process. -/
def received? : Happening → Option Received
  | exchanged (.receive _) reply => some reply.answer
  | _ => none

/-- What is taken from the events of the process. -/
def arrival? (happening : Happening) : Option Arrival := happening.received?.bind Received.arrival?

def effect? : Happening → Option Effect
  | exchanged (.handle label event data) _ => some (.handled (.host label) event data)
  | shown output => output.effect?
  | _ => none

end Happening

/-! ## Visits -/

/-- What a session has had of an attached process. -/
structure Visit where
  mod : Declaration
  heard : List Arrival
  effects : List Effect

namespace Visit

def add (visit : Visit) (happening : Happening) : Visit :=
  { visit with
    heard := visit.heard ++ happening.arrival?.toList
    effects := visit.effects ++ happening.effect?.toList }

/-- The messages were dispatched to the mod. -/
def after (mod : Declaration) (messages : List Outbound) : Visit :=
  ⟨mod, messages.map .message, messages.flatMap mod.effects⟩

/-- One more message was taken, and this was done about it so far. -/
def amid (mod : Declaration) (messages : List Outbound) (message : Outbound) (done : List Effect) :
    Visit :=
  ⟨mod, (messages ++ [message]).map .message, messages.flatMap mod.effects ++ done⟩

/-- Every message that was taken was dispatched, in order; a process that was lost told so last. A loss is
shown unless the session was waiting for the script. -/
inductive Over : Visit → Prop
  | heard (mod : Declaration) (messages : List Outbound) : Over (after mod messages)
  | detached (mod : Declaration) (messages : List Outbound) (reason : String) :
    Over ⟨mod, messages.map .message ++ [.detached reason], messages.flatMap mod.effects⟩
  | lost (mod : Declaration) (messages : List Outbound) (reason : String) :
    Over ⟨mod, messages.map .message ++ [.detached reason],
      messages.flatMap mod.effects ++ [lostEffect reason]⟩

theorem amid_effects (mod : Declaration) (messages : List Outbound) (message : Outbound) :
    amid mod messages message (mod.effects message) = after mod (messages ++ [message]) := by
  simp [after, amid]

end Visit

/-- The mod whose start began last, the visits, the newest first, and whether a process was attached
before any start, or something was taken or seen before the first visit. -/
structure Journal where
  begun : Option Declaration
  visits : List Visit
  strayed : Bool

namespace Journal

def empty : Journal := ⟨none, [], false⟩

/-- A visit begins when a process is attached, for the mod whose start began last. -/
def attach (journal : Journal) : Journal :=
  { journal with
    visits := (journal.begun.toList.map fun mod => ⟨mod, [], []⟩) ++ journal.visits
    strayed := journal.strayed || journal.begun.isNone }

/-- The journal after something happened. -/
def note (journal : Journal) (happening : Happening) : Journal :=
  if happening.attaches then journal.attach
  else
    { begun := happening.starts?.or journal.begun
      visits := journal.visits.modifyHead fun visit => visit.add happening
      strayed := journal.strayed ||
        journal.visits.isEmpty && (happening.arrival?.isSome || happening.effect?.isSome) }

/-- The journal after a part of a trace. -/
def noteAll (journal : Journal) (happenings : List Happening) : Journal := happenings.foldl note journal

/-- The journal of a trace. -/
def ofTrace (trace : List Happening) : Journal := empty.noteAll trace

/-- The journal after outputs. -/
def letOut (journal : Journal) (outputs : List Output) : Journal := journal.noteAll (outputs.map .shown)

theorem noteAll_append (journal : Journal) (happenings happenings' : List Happening) :
    journal.noteAll (happenings ++ happenings') = (journal.noteAll happenings).noteAll happenings' :=
  List.foldl_append

theorem ofTrace_append (trace happenings : List Happening) :
    ofTrace (trace ++ happenings) = (ofTrace trace).noteAll happenings :=
  noteAll_append _ _ _

theorem letOut_append (journal : Journal) (outputs outputs' : List Output) :
    journal.letOut (outputs ++ outputs') = (journal.letOut outputs).letOut outputs' := by
  rw [letOut, List.map_append, noteAll_append]
  rfl

/-- What is neither taken nor seen leaves the visits as they are. -/
theorem note_of_unseen {journal : Journal} {happening : Happening} (calm : happening.attaches = false)
    (hears : happening.arrival? = none) (silent : happening.effect? = none) :
    journal.note happening = { journal with begun := happening.starts?.or journal.begun } := by
  have same : (fun visit : Visit => visit.add happening) = id := by
    funext visit
    simp [Visit.add, hears, silent]
  simp [note, calm, hears, silent, same]

theorem note_of_silent {journal : Journal} {happening : Happening} (calm : happening.attaches = false)
    (starts : happening.starts? = none) (hears : happening.arrival? = none)
    (silent : happening.effect? = none) : journal.note happening = journal := by
  rw [note_of_unseen calm hears silent, starts]
  rfl

theorem letOut_of_silent {journal : Journal} {outputs : List Output}
    (silent : ∀ output ∈ outputs, output.effect? = none) : journal.letOut outputs = journal := by
  induction outputs with
  | nil => rfl
  | cons output rest ih =>
    have now : journal.note (.shown output) = journal :=
      note_of_silent rfl rfl rfl (silent output List.mem_cons_self)
    show (journal.note (.shown output)).letOut rest = journal
    rw [now]
    exact ih fun other present => silent other (List.mem_cons_of_mem _ present)

theorem begun_note {journal : Journal} {happening : Happening} (starts : happening.starts? = none) :
    (journal.note happening).begun = journal.begun := by
  unfold note
  split
  · rfl
  · simp [starts]

theorem begun_noteAll {journal : Journal} {happenings : List Happening}
    (starts : ∀ happening ∈ happenings, happening.starts? = none) :
    (journal.noteAll happenings).begun = journal.begun := by
  induction happenings generalizing journal with
  | nil => rfl
  | cons happening rest ih =>
    have first : (journal.note happening).begun = journal.begun :=
      begun_note (starts happening List.mem_cons_self)
    exact (ih fun other present => starts other (List.mem_cons_of_mem _ present)).trans first

/-! ### Nothing is told outside a visit -/

/-- What was taken and what was seen in all visits, in order. -/
def Accounts (journal : Journal) (trace : List Happening) : Prop :=
  journal.strayed = false →
    trace.filterMap Happening.arrival? = journal.visits.reverse.flatMap Visit.heard ∧
      trace.filterMap Happening.effect? = journal.visits.reverse.flatMap Visit.effects

theorem attaches_silent {happening : Happening} (attaches : happening.attaches = true) :
    happening.arrival? = none ∧ happening.effect? = none := by
  unfold Happening.attaches at attaches
  split at attaches
  · exact ⟨rfl, rfl⟩
  · cases attaches

theorem Accounts.note {journal : Journal} {trace : List Happening} (accounts : journal.Accounts trace)
    (happening : Happening) : (journal.note happening).Accounts (trace ++ [happening]) := by
  intro kept
  obtain ⟨begun, visits, strayed⟩ := journal
  unfold Journal.note at kept ⊢
  split at kept
  next attaches =>
    obtain ⟨hears, silent⟩ := attaches_silent attaches
    simp only [attach, Bool.or_eq_false_iff] at kept
    obtain ⟨heard, effects⟩ := accounts kept.1
    cases begun <;> simp_all [attach]
  next calm =>
    simp only [Bool.or_eq_false_iff] at kept
    obtain ⟨heard, effects⟩ := accounts kept.1
    cases visits with
    | nil =>
      have quiet : happening.arrival? = none ∧ happening.effect? = none := by simpa using kept.2
      simp_all
    | cons visit older =>
      cases hears : happening.arrival? <;> cases sees : happening.effect? <;>
        simp_all [Visit.add]

theorem accounts_ofTrace (trace : List Happening) : (ofTrace trace).Accounts trace := by
  suffices grows : ∀ (journal : Journal) (before : List Happening), journal.Accounts before →
      (journal.noteAll trace).Accounts (before ++ trace) from grows empty [] fun _ => ⟨rfl, rfl⟩
  induction trace with
  | nil => exact fun journal before accounts => by rwa [List.append_nil]
  | cons happening rest ih =>
    intro journal before accounts
    have later := ih _ _ (accounts.note happening)
    rwa [List.append_assoc] at later

/-! ### The newest visit -/

/-- Nothing is left to do in any visit. -/
def AllOver (journal : Journal) : Prop :=
  journal.strayed = false ∧ ∀ visit ∈ journal.visits, visit.Over

/-- The newest visit, while all others are over. -/
def Newest (journal : Journal) (visit : Visit) : Prop :=
  journal.strayed = false ∧ ∃ older, journal.visits = visit :: older ∧ ∀ old ∈ older, old.Over

theorem Newest.allOver {journal : Journal} {visit : Visit} (newest : journal.Newest visit)
    (isOver : visit.Over) : journal.AllOver := by
  obtain ⟨kept, older, visits, allOver⟩ := newest
  refine ⟨kept, fun other present => ?_⟩
  rw [visits] at present
  rcases List.mem_cons.1 present with rfl | inOlder
  · exact isOver
  · exact allOver other inOlder

theorem Newest.note {journal : Journal} {visit : Visit} (newest : journal.Newest visit)
    (happening : Happening) (calm : happening.attaches = false) :
    (journal.note happening).Newest (visit.add happening) := by
  obtain ⟨kept, older, visits, allOver⟩ := newest
  exact ⟨by simp [Journal.note, calm, kept, visits], older, by simp [Journal.note, calm, visits], allOver⟩

/-- Outputs are seen in the newest visit. -/
theorem Newest.letOut {journal : Journal} {visit : Visit} (newest : journal.Newest visit)
    (outputs : List Output) : (journal.letOut outputs).Newest
      { visit with effects := visit.effects ++ outputs.filterMap Output.effect? } := by
  induction outputs generalizing journal visit with
  | nil => rwa [List.filterMap_nil, List.append_nil]
  | cons output rest ih =>
    have now := ih (newest.note (.shown output) rfl)
    have same : visit.effects ++ (output :: rest).filterMap Output.effect? =
        (visit.add (.shown output)).effects ++ rest.filterMap Output.effect? := by
      show _ = visit.effects ++ output.effect?.toList ++ _
      cases seen : output.effect? <;> simp [seen]
    rw [same]
    have heard : visit.heard = (visit.add (.shown output)).heard :=
      (List.append_nil visit.heard).symm
    rw [heard]
    exact now

/-- A process that is attached begins a new visit. -/
theorem AllOver.attach {journal : Journal} {mod : Declaration} (allOver : journal.AllOver)
    (begun : journal.begun = some mod) : journal.attach.Newest (.after mod []) :=
  ⟨by simp [Journal.attach, begun, allOver.1], journal.visits, by simp [Journal.attach, begun, Visit.after],
    allOver.2⟩

end Journal

/-- None of the messages ends the wait for a script. -/
def Wait.Misses (messages : List Outbound) : Wait → Prop
  | ready _ _ => ∀ message ∈ messages, message.event? ≠ some Event.ready
  | cleanup _ _ => True

/-- The mod to which messages are dispatched. -/
def Listener.mod : Listener → Declaration
  | waiting wait _ _ => wait.mod
  | delivering mod _ => mod

/-- A message was taken after others. -/
def Listener.Took (session : Session) (messages : List Outbound) (message : Outbound) : Listener → Prop
  | waiting wait _ found => session.mod = none ∧ wait.Misses messages ∧
    (found = true ↔ message.event? = some wait.event)
  | delivering mod _ => session.mod = some mod

namespace Journal

variable {journal : Journal} {session : Session} {job : Job}

/-- While a session rests, it goes on with the newest visit exactly if a mod is attached. -/
def AtRest (journal : Journal) (session : Session) : Prop :=
  session.mod = none ∧ journal.AllOver ∨
    ∃ mod messages, session.mod = some mod ∧ journal.Newest (.after mod messages)

/-- The script of the newest visit has just told that it is ready. -/
def JustReady (journal : Journal) (mod : Declaration) : Prop :=
  ∃ messages message, (∀ other ∈ messages, other.event? ≠ some Event.ready) ∧
    message.event? = some Event.ready ∧ journal.Newest (.after mod (messages ++ [message]))

/-- What holds when an operation has ended. -/
def AtEnd (journal : Journal) (session : Session) (outcome : Outcome) : Prop :=
  journal.AtRest session ∧
    ∀ patch, outcome = .started patch → ∃ mod, session.mod = some mod ∧ journal.JustReady mod

/-- What holds at a point before its request is answered. -/
def AtPoint (journal : Journal) (session : Session) : Point → Prop
  | .finding _ _ | .spawning _ _ | .pausing _ _ _ | .attaching _ _ | .detachingCancelled
  | .unloadingFailed _ | .detachingFailed _ | .unloadingStopped _ | .detachingStopped _ =>
    session.mod = none ∧ journal.AllOver
  | .takingEvents job | .locating job | .reading job _ | .loading job _ =>
    session.mod = none ∧ journal.Newest (.after job.mod [])
  | .settingDeadline wait | .readingClock wait _ | .receiving wait _ _ =>
    session.mod = none ∧
      ∃ messages, wait.Misses messages ∧ journal.Newest (.after wait.mod messages)
  | .handling listener label event data =>
    ∃ messages, listener.Took session messages (.send event data) ∧
      listener.mod.events.get? event = some (.host label) ∧
      journal.Newest (.amid listener.mod messages (.send event data) [])
  | .requestingCleanup mod _ => session.mod = none ∧ ∃ messages, journal.Newest (.after mod messages)
  | .commanding _ _ => ∃ mod messages, session.mod = some mod ∧ journal.Newest (.after mod messages)
  | .delivering mod _ _ => session.mod = some mod ∧ ∃ messages, journal.Newest (.after mod messages)

/-- What holds after a turn, for the journal before its outputs. -/
def AfterTurn (journal : Journal) (turn : Turn) : Prop :=
  match turn.next with
  | .ask point => (journal.letOut turn.outputs).AtPoint turn.session point
  | .finish outcome => (journal.letOut turn.outputs).AtEnd turn.session outcome
  | .crash wait => (journal.letOut turn.outputs).AtPoint turn.session (.settingDeadline wait)

/-! ## Turns -/

theorem AfterTurn.after {outputs : List Output} {turn : Turn}
    (told : (journal.letOut outputs).AfterTurn turn) : journal.AfterTurn (turn.after outputs) := by
  unfold AfterTurn at told ⊢
  simp only [Turn.after, letOut_append]
  exact told

theorem AfterTurn.after_silent {outputs : List Output} {turn : Turn} (told : journal.AfterTurn turn)
    (silent : ∀ output ∈ outputs, output.effect? = none) : journal.AfterTurn (turn.after outputs) :=
  AfterTurn.after ((letOut_of_silent silent).symm ▸ told)

/-- The turn after an answer that nothing is taken from. -/
theorem AfterTurn.unnoticed {turn : Turn} {request : Request} {reply : Reply request}
    (told : journal.AfterTurn turn) (calm : (Happening.exchanged request reply).attaches = false)
    (hears : (Happening.exchanged request reply).arrival? = none)
    (silent : (Happening.exchanged request reply).effect? = none) :
    (journal.note (.exchanged request reply)).AfterTurn turn := by
  rwa [note_of_silent calm rfl hears silent]

theorem AtRest.finish {outcome : Outcome} (rests : journal.AtRest session)
    (notStarted : ∀ patch, outcome ≠ .started patch) :
    journal.AfterTurn (session.finish outcome) :=
  ⟨rests, fun patch started => absurd started (notStarted patch)⟩

theorem told_withStatus {status : Status} {next : Session → Turn}
    (told : ∀ status, journal.AfterTurn (next { session with status })) :
    journal.AfterTurn (session.withStatus status next) := by
  unfold Session.withStatus
  split
  · exact told session.status
  · exact (told status).after_silent (by simp [Output.effect?])

variable (session)

/-! ### Start -/

theorem told_fail (cause : Error) (free : session.mod = none) (allOver : journal.AllOver) :
    journal.AfterTurn (session.fail cause) := by
  refine AfterTurn.after_silent (told_withStatus fun _ => ?_) (by simp [Output.effect?])
  exact AtRest.finish (.inl ⟨free, allOver⟩) nofun

theorem told_abandon (free : session.mod = none) (allOver : journal.AllOver) :
    journal.AfterTurn session.abandon :=
  told_withStatus fun _ => AtRest.finish (.inl ⟨free, allOver⟩) nofun

theorem told_look (spawned : Bool) (free : session.mod = none) (allOver : journal.AllOver) :
    journal.AfterTurn (session.look job spawned) := by
  unfold Session.look
  split
  · exact told_abandon session free allOver
  · exact ⟨free, allOver⟩

theorem told_waitToLook (spawned : Bool) (span : Duration) (free : session.mod = none)
    (allOver : journal.AllOver) : journal.AfterTurn (session.waitToLook job spawned span) := by
  unfold Session.waitToLook
  split
  · exact told_abandon session free allOver
  · exact ⟨free, allOver⟩

theorem told_notFound (spawned : Bool) (free : session.mod = none) (allOver : journal.AllOver) :
    journal.AfterTurn (session.notFound job spawned) := by
  unfold Session.notFound
  split
  · exact AfterTurn.after_silent ⟨free, allOver⟩ (by simp [Output.effect?])
  · exact told_waitToLook session _ _ free allOver

theorem told_begin (mod : Declaration) (executable : Option SystemPath) (free : session.mod = none)
    (allOver : journal.AllOver) : journal.AfterTurn (session.begin mod executable) := by
  unfold Session.begin
  dsimp only
  split
  · exact told_fail { session with cancel := session.cancel.reset } _ free allOver
  · exact told_withStatus fun status =>
      told_look { session with cancel := session.cancel.reset, status } false free allOver

/-- None of the notices tells of an event. -/
def Unseen (notices : List Notice) : Prop :=
  ∀ output ∈ notices.map Output.notice, output.effect? = none

theorem unseen_resolve (catalog : GameCatalog) (id : String) (fingerprint : Option String) :
    Unseen (catalog.resolve id fingerprint).2 := by
  unfold GameCatalog.resolve
  split
  · simp [Unseen]
  · unfold GameCatalog.resolveIn
    split
    · simp [Unseen]
    · split <;> simp [Unseen, Output.effect?]

theorem unseen_resolveContent (catalog : GameCatalog) (id path : String)
    (content : Except Error ByteArray) : Unseen (catalog.resolveContent id path content).2 := by
  cases content with
  | ok content => exact unseen_resolve catalog id _
  | error e =>
    have resolved := unseen_resolve catalog id none
    simpa [GameCatalog.resolveContent, Unseen, Output.effect?] using resolved

theorem unseen_notices (mod : Declaration) (game : Game) (patch : Patch) :
    Unseen (Script.notices mod game patch) := by
  intro output present
  obtain ⟨notice, inNotices, rfl⟩ := List.mem_map.1 present
  simp only [Script.notices, List.mem_append, List.mem_map, List.mem_filterMap] at inNotices
  rcases inNotices with (⟨_, -, rfl⟩ | ⟨step, -, told⟩) | ⟨step, -, told⟩
  · rfl
  · cases step <;> cases told <;> rfl
  · cases step with
    | foreign nop =>
      cases told
      rfl
    | delete nop => cases told

theorem told_inject {choice : Except Error Resolution × List Notice} (unseen : Unseen choice.2)
    (free : session.mod = none) (newest : journal.Newest (.after job.mod [])) :
    journal.AfterTurn (session.inject job choice) := by
  refine AfterTurn.after_silent ?_ unseen
  split
  · exact ⟨free, newest.allOver (.heard job.mod [])⟩
  · exact told_withStatus fun _ => AfterTurn.after_silent ⟨free, newest⟩ (unseen_notices _ _ _)

/-! ### Messages -/

variable {message : Outbound} {messages : List Outbound}

theorem told_endWait {wait : Wait} {how : WaitEnd} (unfound : how ≠ .found)
    (free : session.mod = none) (allOver : journal.AllOver) :
    journal.AfterTurn (session.endWait wait how) := by
  cases wait with
  | ready job patch =>
    cases how with
    | found => exact absurd rfl unfound
    | timedOut => exact ⟨free, allOver⟩
    | detached reason => exact ⟨free, allOver⟩
  | cleanup mod next =>
    cases how with
    | found => exact absurd rfl unfound
    | timedOut => exact AfterTurn.after_silent ⟨free, allOver⟩ (by simp [Output.effect?])
    | detached reason => exact ⟨free, allOver⟩

/-- A wait that has found its event ends right after the message. -/
theorem told_found {wait : Wait} (free : session.mod = none) (misses : wait.Misses messages)
    (awaited : message.event? = some wait.event)
    (newest : journal.Newest (.after wait.mod (messages ++ [message]))) :
    journal.AfterTurn (session.endWait wait .found) := by
  cases wait with
  | ready job patch =>
    refine told_withStatus fun _ => ⟨.inr ⟨job.mod, _, rfl, newest⟩, fun patch' started => ?_⟩
    exact ⟨job.mod, rfl, messages, message, misses, awaited, newest⟩
  | cleanup mod next => exact ⟨free, newest.allOver (.heard mod _)⟩

theorem told_proceed {listener : Listener} (took : listener.Took session messages message)
    (newest : journal.Newest (.after listener.mod (messages ++ [message]))) :
    journal.AfterTurn (session.proceed listener) := by
  match listener, took, newest with
  | .waiting wait _ true, ⟨free, misses, awaited⟩, newest =>
    exact told_found session free misses (awaited.1 rfl) newest
  | .waiting wait _ false, ⟨free, misses, unawaited⟩, newest =>
    refine ⟨free, messages ++ [message], ?_, newest⟩
    cases wait with
    | ready job patch =>
      intro other present
      rcases List.mem_append.1 present with inMessages | isMessage
      · exact misses other inMessages
      · rw [List.mem_singleton.1 isMessage]
        exact fun ready => absurd (unawaited.2 ready) (by simp)
    | cleanup mod next => trivial
  | .delivering mod _, attached, newest => exact ⟨attached, _, newest⟩

theorem effects_handled (event : String) (data : Json) (answer : Except String Unit) :
    (handledOutputs event data answer).filterMap Output.effect? = [.shown event data] := by
  cases answer <;> rfl

/-- A message without a handler of the host has all its effects at once. -/
theorem effects_delivery {mod : Declaration} (unhandled : (mod.delivery message).label = none) :
    List.filterMap Output.effect? ((mod.delivery message).before ++
      [.event (.game (mod.delivery message).event (mod.delivery message).data)]) =
      mod.effects message := by
  cases message with
  | send event data =>
    have line : (Output.notice (scriptLine data)).effect? = none := rfl
    have noted : (Output.notice (.eventReceived event data)).effect? =
      some (.handled .note event data) := rfl
    have shown : (Output.event (.game event data)).effect? = some (.shown event data) := rfl
    simp only [Declaration.delivery] at unhandled ⊢
    split at unhandled
    next => cases unhandled
    all_goals
      next found => split <;> simp [line, noted, shown, Declaration.effects, found]
  | fault description stack => rfl
  | log level payload => rfl

/-- A message with a handler of the host is an event; until it is handled nothing is seen of it. -/
theorem delivery_of_label {mod : Declaration} {label : String}
    (handled : (mod.delivery message).label = some label) :
    message = .send (mod.delivery message).event (mod.delivery message).data ∧
      mod.events.get? (mod.delivery message).event = some (.host label) ∧
      ∀ output ∈ (mod.delivery message).before, output.effect? = none := by
  cases message with
  | send event data =>
    simp only [Declaration.delivery] at handled ⊢
    split at handled
    next found =>
      cases handled
      refine ⟨rfl, found, fun output present => ?_⟩
      split at present
      · rw [List.mem_singleton.1 present]
        rfl
      · cases present
    all_goals cases handled
  | fault description stack => cases handled
  | log level payload => cases handled

theorem told_dispatch {listener : Listener} (took : listener.Took session messages message)
    (newest : journal.Newest (.amid listener.mod messages message [])) :
    journal.AfterTurn (session.dispatch listener.mod message listener) := by
  unfold Session.dispatch
  dsimp only
  split
  next label handled =>
    obtain ⟨same, found, silent⟩ := delivery_of_label handled
    refine AfterTurn.after_silent ⟨messages, ?_, found, ?_⟩ silent
    · rwa [← same]
    · rwa [← same]
  next unhandled =>
    refine AfterTurn.after (told_proceed session took ?_)
    have seen := newest.letOut
      ((listener.mod.delivery message).before ++
        [.event (.game (listener.mod.delivery message).event (listener.mod.delivery message).data)])
    rw [effects_delivery unhandled] at seen
    rw [← Visit.amid_effects]
    simpa [Visit.amid] using seen

/-- A message that is taken begins to be dispatched. -/
theorem Newest.take {mod : Declaration} (newest : journal.Newest (.after mod messages))
    (limit : Duration) (cancelled : Bool) :
    (journal.note (.exchanged (.receive limit) ⟨.message message, cancelled⟩)).Newest
      (.amid mod messages message []) := by
  have taken := newest.note (.exchanged (.receive limit) ⟨.message message, cancelled⟩) rfl
  simpa [Visit.amid, Visit.after, Visit.add, Happening.arrival?, Happening.received?,
    Received.arrival?, Happening.effect?] using taken

theorem told_heard {wait : Wait} {deadline limit : Duration} (free : session.mod = none)
    (misses : wait.Misses messages) (newest : journal.Newest (.after wait.mod messages))
    (received : Received) (cancelled : Bool) :
    (journal.note (.exchanged (.receive limit) ⟨received, cancelled⟩)).AfterTurn
      (session.heard wait deadline received) := by
  have allOver : journal.AllOver := newest.allOver (.heard wait.mod messages)
  cases received with
  | message message =>
    have took : (Listener.waiting wait deadline (message.event? == some wait.event)).Took session
        messages message := ⟨free, misses, by simp⟩
    exact told_dispatch session took (newest.take limit cancelled)
  | detached reason =>
    refine told_endWait session nofun free (Newest.allOver ?_ (.detached wait.mod messages reason))
    have taken := newest.note (.exchanged (.receive limit) ⟨.detached reason, cancelled⟩) rfl
    simpa [Visit.after, Visit.add, Happening.arrival?, Happening.received?, Received.arrival?,
      Happening.effect?] using taken
  | nothing =>
    refine AfterTurn.unnoticed ?_ rfl rfl rfl
    exact told_endWait session nofun free allOver
  | closed =>
    refine AfterTurn.unnoticed ?_ rfl rfl rfl
    exact told_endWait session nofun free allOver

/-! ### Stop, commands and pending events -/

theorem told_afterStop (next : AfterStop) (free : session.mod = none) (allOver : journal.AllOver) :
    journal.AfterTurn (session.afterStop next) := by
  cases next with
  | finish => exact AtRest.finish (.inl ⟨free, allOver⟩) nofun
  | start mod executable => exact told_begin session mod executable free allOver

theorem told_lost {mod : Declaration} (newest : journal.Newest (.after mod messages))
    (limit : Duration) (reason : String) (count : Nat) (cancelled : Bool) :
    (journal.note (.exchanged (.receive limit) ⟨.detached reason, cancelled⟩)).AfterTurn
      (session.lost reason count) := by
  have taken : (journal.note (.exchanged (.receive limit) ⟨.detached reason, cancelled⟩)).Newest
      ⟨mod, messages.map .message ++ [.detached reason], messages.flatMap mod.effects⟩ := by
    have noted := newest.note (.exchanged (.receive limit) ⟨.detached reason, cancelled⟩) rfl
    simpa [Visit.after, Visit.add, Happening.arrival?, Happening.received?, Received.arrival?,
      Happening.effect?] using noted
  unfold Session.lost
  dsimp only
  split
  · exact AtRest.finish (.inl ⟨rfl, taken.allOver (.detached mod messages reason)⟩) nofun
  · refine AfterTurn.after_silent (told_withStatus fun _ => AfterTurn.after ?_) (by simp [Output.effect?])
    have seen := taken.letOut
      [.event (.game Event.detached (.object [("reason", .string reason)]))]
    exact AtRest.finish (.inl ⟨rfl, seen.allOver (.lost mod messages reason)⟩) nofun

theorem told_deliver {mod : Declaration} (attached : session.mod = some mod)
    (newest : journal.Newest (.after mod messages)) (limit : Duration) (count : Nat)
    (received : Received) (cancelled : Bool) :
    (journal.note (.exchanged (.receive limit) ⟨received, cancelled⟩)).AfterTurn
      (session.deliver mod count received) := by
  have rests : journal.AtRest session := .inr ⟨mod, messages, attached, newest⟩
  cases received with
  | message message =>
    have took : (Listener.delivering mod (count + 1)).Took session messages message := attached
    exact told_dispatch session took (newest.take limit cancelled)
  | detached reason => exact told_lost session newest limit reason _ cancelled
  | nothing =>
    refine AfterTurn.unnoticed ?_ rfl rfl rfl
    exact AtRest.finish rests nofun
  | closed =>
    refine AfterTurn.unnoticed ?_ rfl rfl rfl
    exact AtRest.finish rests nofun

/-! ## Operations and answers -/

theorem told_perform (rests : journal.AtRest session) (operation : Operation) :
    journal.AfterTurn (session.perform operation) := by
  rcases rests with ⟨free, allOver⟩ | ⟨mod, messages, attached, newest⟩
  · cases operation with
    | start mod executable =>
      simp only [Session.perform, Session.start, free]
      exact told_begin session mod executable free allOver
    | stop =>
      simp only [Session.perform, Session.stop, free]
      exact told_withStatus fun _ => AtRest.finish (.inl ⟨free, allOver⟩) (by simp)
    | send name data =>
      simp only [Session.perform, Session.send, free]
      exact AtRest.finish (.inl ⟨free, allOver⟩) (by simp)
    | pump limit =>
      simp only [Session.perform, Session.pump, free]
      exact AtRest.finish (.inl ⟨free, allOver⟩) (by simp)
    | close =>
      simp only [Session.perform, Session.close, free]
      exact AtRest.finish (.inl ⟨free, allOver⟩) (by simp)
  · cases operation with
    | start mod' executable =>
      simp only [Session.perform, Session.start, attached]
      exact ⟨rfl, messages, newest⟩
    | stop =>
      simp only [Session.perform, Session.stop, attached]
      exact ⟨rfl, messages, newest⟩
    | send name data =>
      simp only [Session.perform, Session.send, attached]
      exact ⟨mod, messages, attached, newest⟩
    | pump limit =>
      simp only [Session.perform, Session.pump, attached]
      exact ⟨attached, messages, newest⟩
    | close =>
      simp only [Session.perform, Session.close, Session.stop, attached]
      exact ⟨rfl, messages, newest⟩

/-- A process that was attached goes with the mod of the start. -/
theorem told_attached {pid : Nat} (free : session.mod = none) (allOver : journal.AllOver)
    (begun : journal.begun = some job.mod) :
    journal.attach.AfterTurn (session.answered (.attaching job pid) (.ok ())) := by
  have newest : journal.attach.Newest (.after job.mod []) := allOver.attach begun
  simp only [Session.answered]
  refine AfterTurn.after_silent ?_ (by simp [Output.effect?])
  split
  · exact ⟨free, newest.allOver (.heard job.mod [])⟩
  · exact ⟨free, newest⟩

/-- The host has handled an event, which is the last part of what its message does. -/
theorem told_handled {listener : Listener} {messages : List Outbound} {label event : String} {data : Json}
    (took : listener.Took session messages (.send event data))
    (found : listener.mod.events.get? event = some (.host label))
    (newest : journal.Newest (.amid listener.mod messages (.send event data) []))
    (answer : Except String Unit) (cancelled : Bool) :
    (journal.note (.exchanged (.handle label event data) ⟨answer, cancelled⟩)).AfterTurn
      (session.answered (.handling listener label event data) answer) := by
  refine AfterTurn.after (told_proceed session took ?_)
  have handled := (newest.note (.exchanged (.handle label event data) ⟨answer, cancelled⟩) rfl).letOut
    (handledOutputs event data answer)
  rw [effects_handled] at handled
  rw [← Visit.amid_effects]
  simpa [Visit.amid, Visit.add, Happening.arrival?, Happening.received?, Happening.effect?,
    Declaration.effects, found] using handled

theorem told_sought {spawned : Bool} (told : journal.AtPoint session (.finding job spawned))
    (answer : Except Error (Option Nat)) : journal.AfterTurn (session.answered (.finding job spawned) answer) := by
  obtain ⟨free, allOver⟩ := told
  cases answer with
  | error e => exact told_notFound session spawned free allOver
  | ok found =>
    cases found with
    | none => exact told_notFound session spawned free allOver
    | some pid =>
      show journal.AfterTurn (session.withStatus .attaching fun s => s.ask (.attaching job pid))
      exact told_withStatus fun _ => ⟨free, allOver⟩

theorem told_spawned {path : SystemPath} (told : journal.AtPoint session (.spawning job path))
    (answer : Except Error Unit) : journal.AfterTurn (session.answered (.spawning job path) answer) := by
  obtain ⟨free, allOver⟩ := told
  cases answer with
  | error e => exact told_fail session e free allOver
  | ok => exact told_waitToLook session true _ free allOver

/-- Without its events, a process is left at once. -/
theorem told_events (told : journal.AtPoint session (.takingEvents job)) (answer : Except Error Unit) :
    journal.AfterTurn (session.answered (.takingEvents job) answer) := by
  obtain ⟨free, newest⟩ := told
  cases answer with
  | error e => exact ⟨free, newest.allOver (.heard job.mod [])⟩
  | ok => exact ⟨free, newest⟩

theorem told_located (told : journal.AtPoint session (.locating job)) (answer : Except Error String) :
    journal.AfterTurn (session.answered (.locating job) answer) := by
  obtain ⟨free, newest⟩ := told
  cases answer with
  | error e =>
    exact (told_inject session (unseen_resolve _ _ _) free newest).after_silent (by simp [Output.effect?])
  | ok path => exact ⟨free, newest⟩

theorem told_loaded {resolution : Resolution} (told : journal.AtPoint session (.loading job resolution))
    (answer : Except Error Unit) : journal.AfterTurn (session.answered (.loading job resolution) answer) := by
  obtain ⟨free, newest⟩ := told
  cases answer with
  | error e => exact ⟨free, newest.allOver (.heard job.mod [])⟩
  | ok => exact ⟨free, [], fun _ present => absurd present List.not_mem_nil, newest⟩

/-- A wait, and a crash before it, leaves what was told as it is. -/
theorem told_deadline {wait : Wait} (told : journal.AtPoint session (.settingDeadline wait)) (start : Duration) :
    journal.AfterTurn (session.answered (.settingDeadline wait) start) := by
  simp only [Session.answered]
  split
  · exact told
  · exact told

theorem told_cleanup {mod : Declaration} {next : AfterStop}
    (told : journal.AtPoint session (.requestingCleanup mod next)) (answer : Except Error Unit) :
    journal.AfterTurn (session.answered (.requestingCleanup mod next) answer) := by
  obtain ⟨free, messages, newest⟩ := told
  cases answer with
  | error e =>
    exact AfterTurn.after_silent ⟨free, newest.allOver (.heard mod messages)⟩ (by simp [Output.effect?])
  | ok => exact ⟨free, messages, trivial, newest⟩

theorem told_commanded {name : String} {data : Json} (told : journal.AtPoint session (.commanding name data))
    (answer : Except Error Unit) : journal.AfterTurn (session.answered (.commanding name data) answer) := by
  cases answer <;> exact AtRest.finish (.inr told) (by simp)

/-- What is taken and seen is handled before the next request, whatever the answer was. -/
theorem told_answered {point : Point} (told : journal.AtPoint session point)
    (begun : ∀ job pid, point = .attaching job pid → journal.begun = some job.mod)
    (answer : point.request.Answer) (cancelled : Bool) :
    (journal.note (.exchanged point.request ⟨answer, cancelled⟩)).AfterTurn
      (session.answered point answer) := by
  cases point with
  | finding job spawned => exact AfterTurn.unnoticed (told_sought session told answer) rfl rfl rfl
  | spawning job path => exact AfterTurn.unnoticed (told_spawned session told answer) rfl rfl rfl
  | pausing job spawned span =>
    exact AfterTurn.unnoticed (told_look session spawned told.1 told.2) rfl rfl rfl
  | attaching job pid =>
    change Except Error Unit at answer
    cases answer with
    | error e => exact AfterTurn.unnoticed (told_fail session _ told.1 told.2) rfl rfl rfl
    | ok => exact told_attached session told.1 told.2 (begun job pid rfl)
  | detachingCancelled => exact AfterTurn.unnoticed (told_abandon session told.1 told.2) rfl rfl rfl
  | takingEvents job => exact AfterTurn.unnoticed (told_events session told answer) rfl rfl rfl
  | locating job => exact AfterTurn.unnoticed (told_located session told answer) rfl rfl rfl
  | reading job path =>
    obtain ⟨free, newest⟩ := told
    exact AfterTurn.unnoticed (told_inject session (unseen_resolveContent _ _ _ _) free newest) rfl rfl rfl
  | loading job resolution => exact AfterTurn.unnoticed (told_loaded session told answer) rfl rfl rfl
  | settingDeadline wait => exact AfterTurn.unnoticed (told_deadline session told answer) rfl rfl rfl
  | readingClock wait deadline => exact AfterTurn.unnoticed told rfl rfl rfl
  | receiving wait deadline limit =>
    obtain ⟨free, messages, misses, newest⟩ := told
    exact told_heard session free misses newest answer cancelled
  | handling listener label event data =>
    obtain ⟨messages, took, found, newest⟩ := told
    exact told_handled session took found newest answer cancelled
  | unloadingFailed cause => exact AfterTurn.unnoticed told rfl rfl rfl
  | detachingFailed cause =>
    exact AfterTurn.unnoticed (told_fail session cause told.1 told.2) rfl rfl rfl
  | requestingCleanup mod next => exact AfterTurn.unnoticed (told_cleanup session told answer) rfl rfl rfl
  | unloadingStopped next => exact AfterTurn.unnoticed (told_withStatus fun _ => told) rfl rfl rfl
  | detachingStopped next =>
    exact AfterTurn.unnoticed (told_afterStop session next told.1 told.2) rfl rfl rfl
  | commanding name data => exact AfterTurn.unnoticed (told_commanded session told answer) rfl rfl rfl
  | delivering mod count limit =>
    obtain ⟨attached, messages, newest⟩ := told
    exact told_deliver session attached newest limit count answer cancelled

/-! ## Runs -/

/-- A start in progress is the start that began last. -/
def Begun (journal : Journal) (operation : Operation) : Prop :=
  ∀ mod executable, operation = .start mod executable → journal.begun = some mod

/-- What holds of the journal at a stage of a run. -/
def AtStage (journal : Journal) : Stage → Prop
  | .resting session | .closed session => journal.AtRest session
  | .asking operation session point =>
    point.Serves operation ∧ journal.Begun operation ∧ journal.AtPoint session point
  | .crashed _ session wait => journal.AtPoint session (.settingDeadline wait)

theorem starts_happenings {operation : Operation} {turn : Turn} {happening : Happening}
    (present : happening ∈ turn.happenings operation) : happening.starts? = none := by
  rcases Turn.mem_happenings_iff.1 present with ⟨output, -, rfl⟩ | ⟨outcome, -, rfl⟩ <;> rfl

variable {session} {operation : Operation} {turn : Turn}

theorem noteAll_asked {point : Point} (asks : turn.next = .ask point) :
    journal.noteAll (turn.happenings operation) = journal.letOut turn.outputs := by
  simp [Turn.happenings, asks, letOut]

theorem noteAll_crashed {wait : Wait} (crashes : turn.next = .crash wait) :
    journal.noteAll (turn.happenings operation) = journal.letOut turn.outputs := by
  simp [Turn.happenings, crashes, letOut]

theorem noteAll_finished {outcome : Outcome} (finishes : turn.next = .finish outcome) :
    journal.noteAll (turn.happenings operation) = journal.letOut turn.outputs := by
  simp only [Turn.happenings, finishes, noteAll_append]
  show (journal.letOut turn.outputs).note (.ended operation outcome) = _
  exact note_of_silent rfl rfl rfl rfl

/-- After a turn the journal is as the stage demands. -/
theorem AfterTurn.atStage (told : journal.AfterTurn turn) (serves : turn.Serves operation)
    (begun : journal.Begun operation) :
    (journal.noteAll (turn.happenings operation)).AtStage (.after operation turn) := by
  have still : (journal.noteAll (turn.happenings operation)).Begun operation := by
    intro mod executable starts
    rw [begun_noteAll fun _ => starts_happenings]
    exact begun mod executable starts
  cases next : turn.next with
  | ask point =>
    simp only [AfterTurn, Turn.Serves, next] at told serves
    simp only [Stage.after, next]
    exact ⟨serves, still, noteAll_asked next ▸ told⟩
  | crash wait =>
    simp only [AfterTurn, next] at told
    simp only [Stage.after, next]
    exact noteAll_crashed next ▸ told
  | finish outcome =>
    simp only [AfterTurn, next] at told
    have rests : (journal.noteAll (turn.happenings operation)).AtRest turn.session :=
      noteAll_finished next ▸ told.1
    simp only [Stage.after, next]
    cases operation <;> exact rests

/-- At the end of an operation the journal is as the outcome demands. -/
theorem AfterTurn.atEnd {operation' : Operation} {outcome : Outcome} {front back : List Happening}
    (told : journal.AfterTurn turn)
    (split : turn.happenings operation = front ++ .ended operation' outcome :: back) :
    (journal.noteAll front).AtEnd turn.session outcome := by
  obtain ⟨-, finishes, rfl⟩ := Turn.ended (fun _ present => absurd present List.not_mem_nil) split
  simp only [AfterTurn, finishes] at told
  exact told

/-- A step is a trigger between two operations, or something that does not end an operation and then a
turn. -/
theorem told_step {stage stage' : Stage} {happenings : List Happening}
    (told : journal.AtStage stage) (step : Step stage happenings stage') :
    (∃ session, stage = .resting session ∧ happenings = [.triggered] ∧
      stage' = .resting session.cancelNow) ∨
    ∃ first operation turn, happenings = first :: turn.happenings operation ∧
      (∀ operation outcome, first ≠ .ended operation outcome) ∧ stage' = .after operation turn ∧
      (journal.note first).AfterTurn turn ∧ turn.Serves operation ∧
      (journal.note first).Begun operation := by
  cases step with
  | perform session operation =>
    have rests : (journal.note (.performed operation)).AtRest session := by
      rw [note_of_unseen rfl rfl rfl]
      exact told
    have begun : (journal.note (.performed operation)).Begun operation := by
      rintro mod executable rfl
      rfl
    exact .inr ⟨_, operation, session.perform operation, rfl, by simp, rfl,
      told_perform session rests operation, serves_perform session operation, begun⟩
  | trigger session => exact .inl ⟨session, rfl, rfl, rfl⟩
  | reply operation session point reply =>
    obtain ⟨serves, begun, told⟩ := told
    have now (cancel : CancelSignal) : journal.AtPoint { session with cancel } point := by
      cases point <;> exact told
    have attaches (job : Job) (pid : Nat) (same : point = .attaching job pid) :
        journal.begun = some job.mod := by
      subst same
      exact begun job.mod job.executable serves
    have still : (journal.note (.exchanged point.request reply)).Begun operation := by
      intro mod executable starts
      rw [begun_note rfl]
      exact begun mod executable starts
    exact .inr ⟨_, operation, session.resume point reply, rfl, by simp, rfl,
      told_answered _ (now _) attaches reply.answer reply.cancelled,
      serves_answered serves reply.answer, still⟩

/-- The journal is as every stage of a run demands. -/
theorem atStage_step {stage stage' : Stage} {happenings : List Happening}
    (told : journal.AtStage stage) (step : Step stage happenings stage') :
    (journal.noteAll happenings).AtStage stage' := by
  obtain ⟨session, rfl, rfl, rfl⟩ | ⟨first, operation, turn, rfl, -, rfl, after, serves, begun⟩ :=
    told_step told step
  · show (journal.note .triggered).AtRest session.cancelNow
    rw [note_of_silent rfl rfl rfl rfl]
    exact told
  · exact after.atStage serves begun

theorem atStage_run {catalog : GameCatalog} {timing : Timing} {trace : List Happening}
    {stage : Stage} (run : Run (.new catalog timing) trace stage) : (ofTrace trace).AtStage stage := by
  induction run with
  | start => exact .inl ⟨rfl, rfl, fun _ present => absurd present List.not_mem_nil⟩
  | step _ step ih =>
    rw [ofTrace_append]
    exact atStage_step ih step

theorem atEnd_step {stage stage' : Stage} {outcome : Outcome} {front back : List Happening}
    (told : journal.AtStage stage)
    (step : Step stage (front ++ .ended operation outcome :: back) stage') :
    (journal.noteAll front).AtEnd stage'.session outcome := by
  obtain ⟨session, -, trigger, -⟩ | ⟨first, operation', turn, same, unended, rfl, after, -, -⟩ :=
    told_step told step
  · have only : Happening.ended operation outcome ∈ [Happening.triggered] := trigger ▸ by simp
    exact absurd (List.mem_singleton.1 only) nofun
  · cases front with
    | nil => exact absurd (List.cons.inj same).1.symm (unended operation outcome)
    | cons _ front =>
      obtain ⟨rfl, split⟩ := List.cons.inj same
      rw [Stage.session_after]
      exact after.atEnd split.symm

end Journal

/-- A start that succeeds has attached a process and dispatched its messages up to the first that tells
that the script is ready; nothing more was taken. -/
theorem Run.started_visit {catalog : GameCatalog} {timing : Timing} {trace before after : List Happening}
    {stage : Stage} {operation : Operation} {patch : String}
    (run : Run (.new catalog timing) trace stage)
    (split : trace = before ++ .ended operation (.started patch) :: after) :
    ∃ earlier during, before = earlier ++ .performed operation :: during ∧ operation.IsStart ∧
      (∀ happening ∈ during, happening.isBoundary = false) ∧
      (∃ happening ∈ during, happening.attaches = true) ∧
      ∃ mod, (Journal.ofTrace before).JustReady mod := by
  have ready : ∃ mod, (Journal.ofTrace before).JustReady mod := by
    obtain ⟨earlier, front, back, stage', stage'', run', step, rfl⟩ := run.exists_step split
    obtain ⟨-, ready⟩ := Journal.atEnd_step (Journal.atStage_run run') step
    obtain ⟨mod, -, justReady⟩ := ready patch rfl
    exact ⟨mod, (Journal.ofTrace_append earlier front).symm ▸ justReady⟩
  obtain ⟨earlier, begun, operation', during, turn, front, back, -, underway, same, unbroken, rfl⟩ :=
    run.exists_underway_of_split split rfl
  obtain ⟨rfl, finishes, rfl⟩ := Turn.ended underway.unbroken same
  obtain ⟨happening, present, attaches⟩ :=
    underway.exists_attaches (by simp [Turn.isInProcess, finishes])
  have serves := underway.serves
  simp only [Turn.Serves, finishes] at serves
  exact ⟨earlier, _, rfl, serves, unbroken, ⟨happening, by simp [present], attaches⟩, ready⟩

end ModScript
