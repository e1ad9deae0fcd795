import ModScript.Proofs.Catalog
import ModScript.Proofs.Session.Operation

/-!
# Cancellation of a start

The signal that abandons a start may be triggered while any of its requests is under way. From the time at
which the session is rid of the mod that was attached before, a trigger counts: until a process is
attached the start notices it, and gives up. Before that time the flag serves the stop of the old mod as
well, and is reset when the stop is over; a trigger during the stop is lost.

Results:
1. `Underway.gives_up`: a start that was cancelled in time goes nowhere but to its end.
2. `Run.start_heeds_cancel`: such a start ends without success and without a mod.
3. `Run.trigger_lost_in_stop`: a trigger while the old mod is stopped changes nothing.
-/

namespace ModScript

/-! ## Triggers -/

/-- The session asks to attach a process. -/
def Happening.asksAttach : Happening → Bool
  | .exchanged (.attach _) _ => true
  | _ => false

/-- The session asks to detach from a process. -/
def Happening.asksDetach : Happening → Bool
  | .exchanged .detach _ => true
  | _ => false

/-- Of what happens during a start, the signal is triggered right behind `before`, no later than the answer
to the request to attach. -/
def TriggeredEarly (before during : List Happening) : Prop :=
  ∃ (request : Request) (reply : Reply request) (after : List Happening),
    during = before ++ .exchanged request reply :: after ∧ reply.cancelled = true ∧
      ∀ happening ∈ before, happening.asksAttach = false

/-- What has happened in an operation since the session `begun` has rid it of the mod that it had. -/
def Freed (begun : Session) (since : List Happening) : Prop :=
  begun.isActive = true → ∃ happening ∈ since, happening.asksDetach = true

section

variable {before during since : List Happening} {begun : Session} {outputs : List Output}

theorem Freed.append (freed : Freed begun since) (more : List Happening) :
    Freed begun (since ++ more) := by
  intro active
  obtain ⟨happening, present, asks⟩ := freed active
  exact ⟨happening, List.mem_append_left _ present, asks⟩

/-- Outputs trigger nothing. -/
theorem TriggeredEarly.before_outputs
    (triggered : TriggeredEarly before (during ++ outputs.map .shown)) :
    TriggeredEarly before during := by
  obtain ⟨request, reply, after, split, cancelled, unattached⟩ := triggered
  have notShown : Happening.exchanged request reply ∉ outputs.map Happening.shown := by simp
  rcases List.append_eq_append_iff.1 split with ⟨middle, rfl, rest⟩ | ⟨middle, same, rest⟩
  · exact absurd (by simp [rest]) notShown
  · cases middle with
    | nil =>
      have shown : .exchanged request reply :: after = outputs.map Happening.shown := rest
      exact absurd (shown ▸ List.mem_cons_self) notShown
    | cons first middle =>
      obtain ⟨rfl, -⟩ := List.cons.inj rest
      exact ⟨request, reply, middle, same, cancelled, unattached⟩

/-- The last trigger is that of the last exchange, or there was one before. -/
theorem TriggeredEarly.concat {request : Request} {reply : Reply request}
    (triggered : TriggeredEarly before (during ++ [.exchanged request reply])) :
    TriggeredEarly before during ∨
      before = during ∧ reply.cancelled = true ∧ ∀ happening ∈ during, happening.asksAttach = false := by
  obtain ⟨request', reply', after, split, cancelled, unattached⟩ := triggered
  rcases List.eq_nil_or_concat after with rfl | ⟨front, last, rfl⟩
  · obtain ⟨rfl, same⟩ := List.append_inj' split rfl
    cases same
    exact .inr ⟨rfl, cancelled, unattached⟩
  · have split : during ++ [.exchanged request reply] =
        (before ++ .exchanged request' reply' :: front) ++ [last] := by simp [split]
    exact .inl ⟨request', reply', front, (List.append_inj' split rfl).1, cancelled, unattached⟩

end

/-! ## Points before the attach -/

def AfterStop.starts : AfterStop → Bool
  | .start _ _ => true
  | .finish => false

def Wait.stops : Wait → Bool
  | .cleanup _ next => next.starts
  | .ready _ _ => false

/-- The start still stops the mod that was attached before. -/
def Point.stops : Point → Bool
  | .requestingCleanup _ next | .unloadingStopped next | .detachingStopped next => next.starts
  | .settingDeadline wait | .readingClock wait _ | .receiving wait _ _
  | .handling (.waiting wait _ _) _ _ _ => wait.stops
  | _ => false

/-- The start looks for its process and attaches it. -/
def Point.seeks : Point → Bool
  | .finding _ _ | .spawning _ _ | .pausing _ _ _ | .attaching _ _ => true
  | _ => false

/-- The start has only to notice that it was cancelled, or to undo what it did. -/
def Point.leaves (signal : CancelSignal) : Point → Bool
  | .spawning _ _ | .attaching _ _ => signal.triggered
  | .detachingCancelled => true
  | _ => false

/-- The outcome of a start that does not succeed. -/
def Outcome.givesUp : Outcome → Bool
  | .cancelled | .failed _ => true
  | _ => false

/-- No mod is attached, and the start goes on at a point of the kind, gives up, or crashes at such a point. -/
def Turn.Keeps (kind : CancelSignal → Point → Bool) (turn : Turn) : Prop :=
  turn.session.mod = none ∧
    match turn.next with
    | .ask point => kind turn.session.cancel point = true
    | .finish outcome => outcome.givesUp = true
    | .crash wait => kind turn.session.cancel (.settingDeadline wait) = true

section

variable {kind : CancelSignal → Point → Bool} {session : Session} {job : Job}

theorem keeps_withStatus (session : Session) {status : Status} {next : Session → Turn}
    (free : session.mod = none)
    (keeps : ∀ s : Session, s.mod = none → s.cancel = session.cancel → (next s).Keeps kind) :
    (session.withStatus status next).Keeps kind := by
  unfold Session.withStatus
  split
  · exact keeps session free rfl
  · exact keeps { session with status } free rfl

theorem keeps_ask (session : Session) (status : Status) {point : Point} (free : session.mod = none)
    (ofKind : kind session.cancel point = true) :
    (session.withStatus status fun s => s.ask point).Keeps kind :=
  keeps_withStatus session free fun _ free same => ⟨free, same ▸ ofKind⟩

theorem keeps_fail (session : Session) (free : session.mod = none) (cause : Error) :
    (session.fail cause).Keeps kind :=
  keeps_withStatus session free fun _ free _ => ⟨free, rfl⟩

theorem keeps_abandon (free : session.mod = none) : session.abandon.Keeps kind :=
  keeps_withStatus session free fun _ free _ => ⟨free, rfl⟩

theorem seeks_look (free : session.mod = none) (spawned : Bool) :
    (session.look job spawned).Keeps fun _ => Point.seeks := by
  unfold Session.look
  split
  · exact keeps_abandon free
  · exact ⟨free, rfl⟩

theorem seeks_waitToLook (free : session.mod = none) (spawned : Bool) (span : Duration) :
    (session.waitToLook job spawned span).Keeps fun _ => Point.seeks := by
  unfold Session.waitToLook
  split
  · exact keeps_abandon free
  · exact ⟨free, rfl⟩

theorem seeks_notFound (free : session.mod = none) (spawned : Bool) :
    (session.notFound job spawned).Keeps fun _ => Point.seeks := by
  unfold Session.notFound
  split
  · exact ⟨free, rfl⟩
  · exact seeks_waitToLook free _ _

theorem seeks_begin (free : session.mod = none) (mod : Declaration) (executable : Option SystemPath) :
    (session.begin mod executable).Keeps fun _ => Point.seeks := by
  let reset : Session := { session with cancel := session.cancel.reset }
  unfold Session.begin
  dsimp only
  split
  · exact keeps_fail reset free _
  · exact keeps_withStatus reset free fun _ free _ => seeks_look free false

/-- A start that looks for its process keeps on looking until it asks to attach. -/
theorem seeks_answered (session : Session) {point : Point} (free : session.mod = none) (seeks : point.seeks = true)
    (answer : point.request.Answer) {cancelled : Bool}
    (unattached : (Happening.exchanged point.request ⟨answer, cancelled⟩).asksAttach = false) :
    (session.answered point answer).Keeps fun _ => Point.seeks := by
  cases point with
  | finding job spawned =>
    change Except Error (Option Nat) at answer
    cases answer with
    | error e => exact seeks_notFound free spawned
    | ok found =>
      cases found with
      | none => exact seeks_notFound free spawned
      | some pid => exact keeps_ask session .attaching free rfl
  | spawning job path =>
    change Except Error Unit at answer
    cases answer with
    | error e => exact keeps_fail _ free e
    | ok => exact seeks_waitToLook free true _
  | pausing job spawned span => exact seeks_look free spawned
  | attaching job pid => cases unattached
  | _ => cases seeks

/-! ## Points after the trigger -/

theorem leaves_look (free : session.mod = none) (triggered : session.cancel.triggered = true)
    (spawned : Bool) : (session.look job spawned).Keeps Point.leaves := by
  simp only [Session.look, triggered, if_true]
  exact keeps_abandon free

theorem leaves_waitToLook (free : session.mod = none) (triggered : session.cancel.triggered = true)
    (spawned : Bool) (span : Duration) : (session.waitToLook job spawned span).Keeps Point.leaves := by
  simp only [Session.waitToLook, triggered, if_true]
  exact keeps_abandon free

theorem leaves_notFound (free : session.mod = none) (triggered : session.cancel.triggered = true)
    (spawned : Bool) : (session.notFound job spawned).Keeps Point.leaves := by
  unfold Session.notFound
  split
  · exact ⟨free, triggered⟩
  · exact leaves_waitToLook free triggered _ _

/-- A start that looks for its process while the signal is triggered goes on to notice it. -/
theorem leaves_answered_of_triggered (session : Session) {point : Point} (free : session.mod = none)
    (triggered : session.cancel.triggered = true) (seeks : point.seeks = true)
    (answer : point.request.Answer) : (session.answered point answer).Keeps Point.leaves := by
  cases point with
  | finding job spawned =>
    change Except Error (Option Nat) at answer
    cases answer with
    | error e => exact leaves_notFound free triggered spawned
    | ok found =>
      cases found with
      | none => exact leaves_notFound free triggered spawned
      | some pid => exact keeps_ask session .attaching free triggered
  | spawning job path =>
    change Except Error Unit at answer
    cases answer with
    | error e => exact keeps_fail _ free e
    | ok => exact leaves_waitToLook free triggered true _
  | pausing job spawned span => exact leaves_look free triggered spawned
  | attaching job pid =>
    change Except Error Unit at answer
    cases answer with
    | error e => exact keeps_fail _ free _
    | ok =>
      simp only [Session.answered, triggered, if_true]
      exact ⟨free, rfl⟩
  | _ => cases seeks

/-- A start that leaves does so until its end. -/
theorem leaves_answered (session : Session) {point : Point} (free : session.mod = none)
    (leaves : point.leaves session.cancel = true) (answer : point.request.Answer) :
    (session.answered point answer).Keeps Point.leaves := by
  cases point with
  | spawning job path => exact leaves_answered_of_triggered session free leaves rfl answer
  | attaching job pid => exact leaves_answered_of_triggered session free leaves rfl answer
  | detachingCancelled => exact keeps_abandon free
  | _ => cases leaves

/-! ## Points of the stop -/

theorem stops_endWait {wait : Wait} (how : WaitEnd) (free : session.mod = none)
    (stops : wait.stops = true) : (session.endWait wait how).Keeps fun _ => Point.stops := by
  cases wait with
  | ready job patch => cases stops
  | cleanup mod next => cases how <;> exact ⟨free, stops⟩

theorem stops_proceed {wait : Wait} {deadline : Duration} {found : Bool} (free : session.mod = none)
    (stops : wait.stops = true) :
    (session.proceed (.waiting wait deadline found)).Keeps fun _ => Point.stops := by
  cases found with
  | true => exact stops_endWait .found free stops
  | false => exact ⟨free, stops⟩

theorem stops_heard {wait : Wait} {deadline : Duration} (received : Received)
    (free : session.mod = none) (stops : wait.stops = true) :
    (session.heard wait deadline received).Keeps fun _ => Point.stops := by
  cases received with
  | message message =>
    simp only [Session.heard, Session.dispatch]
    split
    · exact ⟨free, stops⟩
    · exact stops_proceed free stops
  | detached reason => exact stops_endWait _ free stops
  | nothing => exact stops_endWait _ free stops
  | closed => exact stops_endWait _ free stops

/-- A start that stops the old mod asks to detach at last, and only then looks for its process. -/
theorem stops_answered (session : Session) {point : Point} (free : session.mod = none) (stops : point.stops = true)
    (answer : point.request.Answer) (cancelled : Bool) :
    (session.answered point answer).Keeps (fun _ => Point.stops) ∧
        (Happening.exchanged point.request ⟨answer, cancelled⟩).asksDetach = false ∨
      (session.answered point answer).Keeps (fun _ => Point.seeks) ∧
        (Happening.exchanged point.request ⟨answer, cancelled⟩).asksDetach = true := by
  cases point with
  | requestingCleanup mod next =>
    change Except Error Unit at answer
    cases answer <;> exact .inl ⟨⟨free, stops⟩, rfl⟩
  | settingDeadline wait =>
    refine .inl ⟨?_, rfl⟩
    simp only [Session.answered]
    split
    · exact ⟨free, stops⟩
    · exact ⟨free, stops⟩
  | readingClock wait deadline => exact .inl ⟨⟨free, stops⟩, rfl⟩
  | receiving wait deadline limit => exact .inl ⟨stops_heard answer free stops, rfl⟩
  | handling listener label event data =>
    cases listener with
    | waiting wait deadline found => exact .inl ⟨stops_proceed free stops, rfl⟩
    | delivering mod count => cases stops
  | unloadingStopped next =>
    exact .inl ⟨keeps_ask session .idle free stops, rfl⟩
  | detachingStopped next =>
    cases next with
    | finish => cases stops
    | start mod executable => exact .inr ⟨seeks_begin free mod executable, rfl⟩
  | _ => cases stops

/-! ## Starts -/

variable {begun : Session} {mod : Declaration} {executable : Option SystemPath}
  {before during : List Happening} {turn : Turn}

/-- How far a start has come: it has asked to attach, it still stops the old mod, or it looks for its
process. -/
inductive Progress (begun : Session) (during : List Happening) (turn : Turn) : Prop
  | attached (happening : Happening) : happening ∈ during → happening.asksAttach = true →
    Progress begun during turn
  | stopping : begun.isActive = true → (∀ happening ∈ during, happening.asksDetach = false) →
    turn.Keeps (fun _ => Point.stops) → Progress begun during turn
  | seeking : Freed begun during → turn.Keeps (fun _ => Point.seeks) → Progress begun during turn

theorem progress_start (begun : Session) (mod : Declaration) (executable : Option SystemPath) :
    Progress begun [] (begun.perform (.start mod executable)) := by
  simp only [Session.perform, Session.start]
  split
  next attached known =>
    exact .stopping (by simp [Session.isActive, known]) (fun _ none => absurd none List.not_mem_nil)
      ⟨rfl, rfl⟩
  next free =>
    exact .seeking (fun active => by simp [Session.isActive, free] at active)
      (seeks_begin free mod executable)

/-- Outputs neither attach nor detach. -/
theorem quiet_happenings {operation : Operation} {point : Point} (asks : turn.next = .ask point) :
    ∀ happening ∈ turn.happenings operation,
      happening.asksAttach = false ∧ happening.asksDetach = false := by
  intro happening present
  rcases Turn.mem_happenings_iff.1 present with ⟨output, -, rfl⟩ | ⟨outcome, finishes, -⟩
  · exact ⟨rfl, rfl⟩
  · cases asks.symm.trans finishes

theorem Underway.progress (underway : Underway begun (.start mod executable) during turn) :
    Progress begun during turn := by
  induction underway with
  | first => exact progress_start begun mod executable
  | @reply during turn point reply _ asks ih =>
    let now : Session := { turn.session with cancel := turn.session.cancel.after reply.cancelled }
    cases ih with
    | attached happening present attach => exact .attached happening (by simp [present]) attach
    | stopping active undetached keeps =>
      obtain ⟨free, stops⟩ := keeps
      rw [asks] at stops
      rcases stops_answered now free stops reply.answer reply.cancelled with
        ⟨keeps, still⟩ | ⟨keeps, detaches⟩
      · refine .stopping active (fun happening present => ?_) keeps
        simp only [List.mem_append, List.mem_singleton] at present
        rcases present with (inDuring | inTurn) | rfl
        · exact undetached happening inDuring
        · exact (quiet_happenings asks happening inTurn).2
        · exact still
      · exact .seeking (fun _ => ⟨_, List.mem_append_right _ (List.mem_singleton_self _), detaches⟩) keeps
    | seeking freed keeps =>
      obtain ⟨free, seeks⟩ := keeps
      rw [asks] at seeks
      cases attach : (Happening.exchanged point.request reply).asksAttach with
      | true => exact .attached _ (List.mem_append_right _ (List.mem_singleton_self _)) attach
      | false =>
        exact .seeking ((freed.append _).append _) (seeks_answered now free seeks reply.answer attach)

/-- A start that was cancelled before it attached a process, and after it was rid of the old mod, only
leaves. -/
theorem Underway.gives_up (underway : Underway begun (.start mod executable) during turn)
    (triggered : TriggeredEarly before during) (freed : Freed begun before) :
    turn.Keeps Point.leaves := by
  induction underway with
  | first =>
    obtain ⟨request, reply, after, split, -⟩ := triggered
    exact absurd split.symm (by simp)
  | @reply during turn point reply underway asks ih =>
    let now : Session := { turn.session with cancel := turn.session.cancel.after reply.cancelled }
    have outputs : turn.happenings (.start mod executable) = turn.outputs.map .shown := by
      simp [Turn.happenings, asks]
    rw [outputs] at triggered
    rcases triggered.concat with earlier | ⟨rfl, cancelled, unattached⟩
    · obtain ⟨free, leaves⟩ := ih earlier.before_outputs
      rw [asks] at leaves
      refine leaves_answered now free ?_ reply.answer
      -- A signal that was triggered stays so whatever the reply says.
      cases point with
      | spawning _ _ | attaching _ _ => exact Bool.or_eq_true_iff.2 (.inl leaves)
      | detachingCancelled => rfl
      | _ => cases leaves
    · cases underway.progress with
      | attached happening present attach =>
        simp [unattached happening (List.mem_append_left _ present)] at attach
      | stopping active undetached _ =>
        obtain ⟨happening, present, detach⟩ := freed active
        rcases List.mem_append.1 present with inDuring | inOutputs
        · simp [undetached happening inDuring] at detach
        · simp [(quiet_happenings asks happening (outputs ▸ inOutputs)).2] at detach
      | seeking _ keeps =>
        obtain ⟨free, seeks⟩ := keeps
        rw [asks] at seeks
        exact leaves_answered_of_triggered now free (Bool.or_eq_true_iff.2 (.inr cancelled)) seeks
          reply.answer

end

/-! ## Runs -/

/-- A start that ended, in any run, ended without success and without a mod if it was cancelled after it
was rid of the mod before and not later than its process was attached. -/
theorem Run.start_heeds_cancel {session : Session} {trace front back : List Happening} {stage : Stage}
    {mod : Declaration} {executable : Option SystemPath} {outcome : Outcome}
    (run : Run session trace stage)
    (split : trace = front ++ .ended (.start mod executable) outcome :: back) :
    ∃ earlier begun during ended, front = earlier ++ .performed (.start mod executable) :: during ∧
      (∀ happening ∈ during, happening.isBoundary = false) ∧
      Run session earlier (.resting begun) ∧
      Run session (front ++ [.ended (.start mod executable) outcome]) (.resting ended) ∧
      ∀ before, TriggeredEarly before during → Freed begun before →
        (outcome = .cancelled ∨ ∃ cause, outcome = .failed cause) ∧ ended.isActive = false := by
  obtain ⟨earlier, begun, operation, during, turn, front, back, rested, underway, same, unbroken, rfl⟩ :=
    run.exists_underway_of_split split rfl
  obtain ⟨rfl, finishes, rfl⟩ := Turn.ended underway.unbroken same
  refine ⟨earlier, begun, _, turn.session, rfl, unbroken, rested, ?_, fun before triggered freed => ?_⟩
  · have run := underway.run rested
    simpa [Turn.happenings, Stage.after, finishes] using run
  · obtain ⟨free, givesUp⟩ := underway.gives_up triggered.before_outputs freed
    rw [finishes] at givesUp
    refine ⟨?_, by simp [Session.isActive, free]⟩
    cases outcome with
    | cancelled => exact .inl rfl
    | failed cause => exact .inr ⟨cause, rfl⟩
    | _ => cases givesUp

/-- Before its first step, a run stands where it starts. -/
theorem Run.eq_resting_of_nil {session : Session} {trace : List Happening} {stage : Stage}
    (run : Run session trace stage) (none : trace = []) : stage = .resting session := by
  cases run with
  | start => rfl
  | step _ step => cases step <;> simp at none

/-- The signal is triggered while a new session first looks for the process, and finds none. -/
theorem Run.start_heeds_cancel_looking :
    ∃ catalog before during ended,
      Run (.new catalog {}) (.performed (.start idleMod none) :: during ++
        [.ended (.start idleMod none) .cancelled]) (.resting ended) ∧
      TriggeredEarly before during ∧ Freed (.new catalog {}) before ∧ ended.isActive = false := by
  obtain ⟨catalog, game, -, known⟩ := GameCatalog.exists_loaded
  let start : Operation := .start idleMod none
  let first : Turn := (Session.new catalog {}).perform start
  let looking : Session := ⟨catalog, {}, .armed, .waiting game.executable, none⟩
  let finding : Point := .finding ⟨idleMod, none, game.executable⟩ false
  let reply : Reply finding.request := ⟨Except.ok none, true⟩
  have begins : first.session = looking ∧ first.next = .ask finding := by
    constructor
    all_goals
      simp only [first, start, Session.perform, Session.start, Session.new, Session.begin, idleMod, known]
      rfl
  have underway := Underway.first.reply reply begins.2
  have ends : (first.session.resume finding reply).next = .finish .cancelled := by
    rw [begins.1]
    rfl
  have triggered : TriggeredEarly (first.happenings start)
      (([] ++ first.happenings start ++ [.exchanged finding.request reply]) ++
        (first.session.resume finding reply).outputs.map .shown) :=
    ⟨_, reply, _, by simp; rfl, rfl, fun happening present => (quiet_happenings begins.2 happening present).1⟩
  have freed : Freed (.new catalog {}) (first.happenings start) :=
    fun active => absurd active Bool.false_ne_true
  have run := underway.run_of_start .start ends
  obtain ⟨earlier, begun, during, ended, split, unbroken, rested, atEnd, heeds⟩ :=
    run.start_heeds_cancel (by rw [List.nil_append, ← List.cons_append])
  obtain ⟨rfl, rfl⟩ := eq_nil_of_unbroken (Turn.unbroken_shown underway.unbroken) split
  cases Run.eq_resting_of_nil rested rfl
  exact ⟨catalog, _, _, ended, atEnd, triggered, freed, (heeds _ triggered freed).2⟩

/-! ## A trigger that is lost -/

/-- The signal is triggered while the script of the old mod is asked to clean up. -/
def lostTrigger : Happening := .exchanged (.post .cleanup) ⟨Except.ok (), true⟩

/-- The second start looks for the process as the first one did, whatever was triggered in the stop. -/
theorem asks_again {catalog : GameCatalog} {game : Game} (known : catalog.get "g" = .ok game) :
    Asks (attachedSession catalog) (.start idleMod none) [lostTrigger]
      ⟨catalog, {}, .armed, .waiting game.executable, none⟩
      (.finding ⟨idleMod, none, game.executable⟩ false) := by
  let stopping : Session := ⟨catalog, {}, ⟨true⟩, .active, none⟩
  let reply : Reply (Point.requestingCleanup idleMod (.start idleMod none)).request :=
    ⟨Except.ok (), true⟩
  have underway : Underway (attachedSession catalog) (.start idleMod none) [lostTrigger] _ :=
    Underway.first.reply reply rfl
  have requested : Asks (attachedSession catalog) (.start idleMod none) [lostTrigger] stopping
      (.settingDeadline (.cleanup idleMod (.start idleMod none))) :=
    ⟨[lostTrigger], _, List.prefix_rfl, underway, rfl, rfl⟩
  have reading := requested.reads (Wait.deadline?_default _)
  have waiting := reading.next (⟨0⟩ : Duration) rfl rfl
  have cleaned := waiting.next (Received.message (.send Event.cleanupDone .null)) rfl rfl
  have unloaded : Asks (attachedSession catalog) (.start idleMod none) [lostTrigger]
      ⟨catalog, {}, ⟨true⟩, .idle, none⟩ (.detachingStopped (.start idleMod none)) :=
    cleaned.next (Except.ok ()) rfl rfl
  refine unloaded.next (Except.ok ()) ?_ ?_
  all_goals
    simp only [Session.resume, Session.answered, Session.afterStop, Session.begin, idleMod, known]
    rfl

/-- A start does not heed every trigger. Here a mod is attached, and while its script is asked to clean up
for the next start the signal is triggered; nevertheless this start succeeds. -/
theorem Run.trigger_lost_in_stop :
    ∃ catalog earlier begun during ended patch, GameCatalog.Loaded catalog ∧
      Run (.new catalog {}) earlier (.resting begun) ∧
      Run (.new catalog {}) (earlier ++ .performed (.start idleMod none) ::
        (during ++ [.ended (.start idleMod none) (.started patch)])) (.resting ended) ∧
      (∀ happening ∈ during, happening.isBoundary = false) ∧
      TriggeredEarly [] during ∧ ended.isActive = true := by
  obtain ⟨catalog, game, loaded, known⟩ := GameCatalog.exists_loaded
  obtain ⟨resolution, resolved⟩ := loaded.resolve_ok known none
  obtain ⟨during, turn, -, underway, session, ends⟩ := (asks_new known {}).exists_started resolved
  have first := underway.run_of_start .start ends
  rw [session] at first
  obtain ⟨during', turn', ⟨after, rfl⟩, underway', session', ends'⟩ :=
    (asks_again known).exists_started resolved
  have second := underway'.run_of_start first ends'
  refine ⟨catalog, _, _, _, turn'.session, resolution.key, loaded, first, second,
    Turn.unbroken_shown underway'.unbroken, ?_, by rw [session']; rfl⟩
  exact ⟨.post .cleanup, ⟨Except.ok (), true⟩, after ++ turn'.outputs.map .shown, by simp [lostTrigger], rfl,
    fun _ none => absurd none List.not_mem_nil⟩

end ModScript
