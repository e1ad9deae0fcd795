import ModScript.Proofs.Session.Cancellation
import ModScript.Proofs.Session.Choice

/-!
# Discovery of a process

How a start finds the process that it attaches. It looks, and what it does next depends on the answer: it
attaches the process that was found; it starts the game, once and only if its executable is known; or it
pauses, and looks again. It gives up as soon as it sees that it was cancelled, and it looks at the signal
before every lookup and every pause, but not between a lookup and what the lookup leads to.

Results:
1. `Underway.due`: what has come before each request of a search.
2. `Underway.searches`: what a start has asked about its process at each point and at its end.
3. `Run.alike`: lookups that fail and lookups that find nothing have one effect.
4. `Run.discovers_process`: the search of a start, in every run.
-/

namespace ModScript

/-! ## Searches -/

/-- It looks for a process, starts the game, pauses between two lookups, or attaches a process. -/
def Happening.isSearch : Happening → Bool
  | .exchanged (.findProcess _) _ | .exchanged (.spawn _) _ | .exchanged (.pause _) _
  | .exchanged (.attach _) _ => true
  | _ => false

/-- The exchanges by which a start looks for its process and attaches it. -/
def search (during : List Happening) : List Happening := during.filter Happening.isSearch

/-- The answer of a lookup that does not find a process, or fails. -/
def Misses (answer : Except Error (Option Nat)) : Prop := ∀ pid, answer ≠ .ok (some pid)

/-- A search may go on after the exchange: a lookup missed, the game was started, or a pause is over. The
flag says whether the signal was triggered meanwhile. -/
inductive Happening.Passes (cancelled : Bool) : Happening → Prop
  | missed {name : String} {answer : Except Error (Option Nat)} :
    Misses answer → Passes cancelled (.exchanged (.findProcess name) ⟨answer, cancelled⟩)
  | spawned {path : SystemPath} : Passes cancelled (.exchanged (.spawn path) ⟨Except.ok (), cancelled⟩)
  | paused {span : Duration} : Passes cancelled (.exchanged (.pause span) ⟨(), cancelled⟩)

/-- The game is started. -/
def Happening.spawns : Happening → Bool
  | .exchanged (.spawn _) _ => true
  | _ => false

/-- When a start makes a request of its search, by the exchanges `before` it. It looks and pauses as long as
nothing was found, nothing failed to start and nobody has cancelled. Between a lookup and what the lookup leads
to, the signal does not count. -/
inductive Due (catalog : GameCatalog) (mod : Declaration) (executable : Option SystemPath)
    (before : List Happening) : Request → Prop
  | lookup {name : String} {game : Game} : catalog.get mod.game = .ok game →
    name = (executable.bind SystemPath.name?).getD game.executable →
    (∀ earlier ∈ before, earlier.Passes false) → Due catalog mod executable before (.findProcess name)
  | spawn {path : SystemPath} {earlier : List Happening} {name : String}
    {answer : Except Error (Option Nat)} {cancelled : Bool} : executable = some path →
    before = earlier ++ [.exchanged (.findProcess name) ⟨answer, cancelled⟩] → Misses answer →
    (∀ happening ∈ earlier, happening.Passes false ∧ happening.spawns = false) →
    Due catalog mod executable before (.spawn path)
  | pause {span : Duration} : (∀ earlier ∈ before, earlier.Passes false) →
    Due catalog mod executable before (.pause span)
  | attach {pid : Nat} {earlier : List Happening} {name : String} {cancelled : Bool} :
    before = earlier ++ [.exchanged (.findProcess name) ⟨Except.ok (some pid), cancelled⟩] →
    (∀ happening ∈ earlier, happening.Passes false) →
    Due catalog mod executable before (.attach pid)

/-- The start looks for the process of the job. -/
def Job.Seeks (catalog : GameCatalog) (mod : Declaration) (executable : Option SystemPath) (job : Job) :
    Prop :=
  ∃ game, catalog.get mod.game = .ok game ∧ job = ⟨mod, executable, Session.processName game executable⟩

/-- The last request of the search was to attach a process. -/
def Attached (searched : List Happening) : Prop :=
  ∃ earlier pid reply, searched = earlier ++ [.exchanged (.attach pid) reply]

/-- What a start that waits has searched. -/
def Wait.Searches (searched : List Happening) : Wait → Prop
  | ready _ _ => Attached searched
  | cleanup _ _ => searched = []

def Listener.Searches (searched : List Happening) : Listener → Prop
  | waiting wait _ _ => wait.Searches searched
  | delivering _ _ => False

/-- What a start has searched when it stands at a point. -/
def Point.Searches (catalog : GameCatalog) (mod : Declaration) (executable : Option SystemPath)
    (searched : List Happening) (signal : CancelSignal) : Point → Prop
  | finding job spawned => job.Seeks catalog mod executable ∧
    Due catalog mod executable searched (.findProcess job.process) ∧
    (spawned = false → ∀ earlier ∈ searched, earlier.spawns = false)
  | spawning job path => job.Seeks catalog mod executable ∧
    Due catalog mod executable searched (.spawn path) ∧
    (signal.triggered = false → ∀ earlier ∈ searched, earlier.Passes false)
  | pausing job spawned span => job.Seeks catalog mod executable ∧
    Due catalog mod executable searched (.pause span) ∧
    (spawned = false → ∀ earlier ∈ searched, earlier.spawns = false)
  | attaching _ pid => Due catalog mod executable searched (.attach pid)
  | settingDeadline wait | readingClock wait _ | receiving wait _ _ => wait.Searches searched
  | handling listener _ _ _ => listener.Searches searched
  | requestingCleanup _ _ | unloadingStopped _ | detachingStopped _ => searched = []
  | commanding _ _ | delivering _ _ _ => False
  | detachingCancelled | takingEvents _ | locating _ | reading _ _ | loading _ _ | unloadingFailed _
  | detachingFailed _ => Attached searched

/-- What a start has searched when it ends: nothing if its game is not known, or else the last request tells
how it ends, unless it was to attach. -/
inductive Ends (searched : List Happening) : Outcome → Prop
  | unknown {cause : Error} : searched = [] → Ends searched (.failed cause)
  | refused {earlier : List Happening} {path : SystemPath} {cause : Error} {cancelled : Bool} :
    searched = earlier ++ [.exchanged (.spawn path) ⟨Except.error cause, cancelled⟩] →
    Ends searched (.failed cause)
  | abandoned {earlier : List Happening} {last : Happening} {cancelled : Bool} :
    searched = earlier ++ [last] → last.Passes cancelled → Ends searched .cancelled
  | attached {outcome : Outcome} : Attached searched → Ends searched outcome

/-- What a start has searched before a turn. -/
def Turn.Searches (catalog : GameCatalog) (mod : Declaration) (executable : Option SystemPath)
    (searched : List Happening) (turn : Turn) : Prop :=
  match turn.next with
  | .ask point => point.Searches catalog mod executable searched turn.session.cancel
  | .finish outcome => Ends searched outcome
  | .crash wait => wait.Searches searched

section

variable {catalog : GameCatalog} {mod : Declaration} {executable : Option SystemPath}
  {searched : List Happening} {session : Session} {job : Job}

theorem search_append (during during' : List Happening) :
    search (during ++ during') = search during ++ search during' := List.filter_append ..

/-- Nothing that a turn lets out is part of a search. -/
theorem silent_happenings (turn : Turn) (operation : Operation) :
    ∀ happening ∈ turn.happenings operation, happening.isSearch = false :=
  turn.forall_happenings (fun _ => rfl) (fun _ _ => rfl) operation

theorem search_happenings (turn : Turn) (operation : Operation) : search (turn.happenings operation) = [] := by
  refine List.filter_eq_nil_iff.2 fun happening present => ?_
  rw [silent_happenings turn operation happening present]
  exact Bool.false_ne_true

theorem append_search {happening : Happening} (silent : happening.isSearch = false) :
    searched ++ search [happening] = searched := by
  simp [search, silent]

/-- Only the last of the exchanges before a request may be one after which no search goes on. -/
theorem Due.passes {earlier : List Happening} {last : Happening} {request : Request}
    (due : Due catalog mod executable (earlier ++ [last]) request) :
    ∀ happening ∈ earlier, happening.Passes false := by
  cases due with
  | lookup known named passes =>
    exact fun happening present => passes happening (List.mem_append_left _ present)
  | spawn path split missed passes =>
    obtain ⟨rfl, -⟩ := List.append_inj' split rfl
    exact fun happening present => (passes happening present).1
  | pause passes => exact fun happening present => passes happening (List.mem_append_left _ present)
  | attach split passes =>
    obtain ⟨rfl, -⟩ := List.append_inj' split rfl
    exact passes

/-! ## Turns -/

theorem searches_withStatus (session : Session) {status : Status} {next : Session → Turn}
    (searches : ∀ s : Session, s.cancel = session.cancel → (next s).Searches catalog mod executable searched) :
    (session.withStatus status next).Searches catalog mod executable searched := by
  unfold Session.withStatus
  split
  · exact searches session rfl
  · exact searches { session with status } rfl

theorem searches_fail (session : Session) {cause : Error} (ends : Ends searched (.failed cause)) :
    (session.fail cause).Searches catalog mod executable searched :=
  searches_withStatus session fun _ _ => ends

theorem searches_abandon (session : Session) (ends : Ends searched .cancelled) :
    session.abandon.Searches catalog mod executable searched :=
  searches_withStatus session fun _ _ => ends

/-- A start looks again unless it sees that it was cancelled. -/
theorem searches_look {spawned : Bool} (seeks : job.Seeks catalog mod executable)
    (ends : session.cancel.triggered = true → Ends searched .cancelled)
    (passes : session.cancel.triggered = false → ∀ earlier ∈ searched, earlier.Passes false)
    (unspawned : spawned = false → ∀ earlier ∈ searched, earlier.spawns = false) :
    (session.look job spawned).Searches catalog mod executable searched := by
  unfold Session.look
  split
  next triggered => exact searches_abandon session (ends triggered)
  next armed =>
    obtain ⟨game, known, rfl⟩ := seeks
    exact ⟨⟨game, known, rfl⟩, .lookup known rfl (passes (Bool.eq_false_iff.2 armed)), unspawned⟩

theorem searches_waitToLook {spawned : Bool} {span : Duration} (seeks : job.Seeks catalog mod executable)
    (ends : session.cancel.triggered = true → Ends searched .cancelled)
    (passes : session.cancel.triggered = false → ∀ earlier ∈ searched, earlier.Passes false)
    (unspawned : spawned = false → ∀ earlier ∈ searched, earlier.spawns = false) :
    (session.waitToLook job spawned span).Searches catalog mod executable searched := by
  unfold Session.waitToLook
  split
  next triggered => exact searches_abandon session (ends triggered)
  next armed => exact ⟨seeks, .pause (passes (Bool.eq_false_iff.2 armed)), unspawned⟩

/-- After a lookup that missed, the game is started if its executable is known and it was not started yet. -/
theorem searches_notFound {spawned cancelled : Bool} {name : String} {answer : Except Error (Option Nat)}
    (seeks : job.Seeks catalog mod executable) (missed : Misses answer)
    (heeded : session.cancel.triggered = false → cancelled = false)
    (passes : ∀ earlier ∈ searched, earlier.Passes false)
    (unspawned : spawned = false → ∀ earlier ∈ searched, earlier.spawns = false) :
    (session.notFound job spawned).Searches catalog mod executable
      (searched ++ [.exchanged (.findProcess name) ⟨answer, cancelled⟩]) := by
  have further : session.cancel.triggered = false →
      ∀ earlier ∈ searched ++ [.exchanged (.findProcess name) ⟨answer, cancelled⟩], earlier.Passes false := by
    intro armed
    obtain rfl := heeded armed
    simpa [or_imp, forall_and] using ⟨passes, .missed missed⟩
  unfold Session.notFound
  split
  next path started =>
    obtain ⟨game, known, rfl⟩ := seeks
    refine ⟨⟨game, known, rfl⟩, .spawn started rfl missed fun earlier present => ?_, further⟩
    exact ⟨passes earlier present, unspawned rfl earlier present⟩
  · refine searches_waitToLook seeks (fun _ => .abandoned rfl (.missed missed)) further fun none => ?_
    simpa [or_imp, forall_and, Happening.spawns] using unspawned none

theorem searches_begin (same : session.catalog = catalog) :
    (session.begin mod executable).Searches catalog mod executable [] := by
  unfold Session.begin
  dsimp only
  split
  · exact searches_fail _ (.unknown rfl)
  next game known =>
    refine searches_withStatus _ fun s reset => ?_
    have armed : s.cancel.triggered = false := by rw [reset]; rfl
    refine searches_look ⟨game, same ▸ known, rfl⟩ (fun triggered => ?_) (fun _ => ?_) fun _ => ?_
    · simp [armed] at triggered
    · exact fun _ none => absurd none List.not_mem_nil
    · exact fun _ none => absurd none List.not_mem_nil

theorem searches_inject {choice : Except Error Resolution × List Notice} (attached : Attached searched) :
    (session.inject job choice).Searches catalog mod executable searched := by
  obtain ⟨resolution | resolution, notices⟩ := choice
  · exact attached
  · exact searches_withStatus session fun _ _ => attached

theorem searches_endWait {wait : Wait} (how : WaitEnd) (searches : wait.Searches searched) :
    (session.endWait wait how).Searches catalog mod executable searched := by
  cases wait with
  | ready job patch =>
    cases how with
    | found => exact searches_withStatus _ fun _ _ => .attached searches
    | timedOut => exact searches
    | detached reason => exact searches
  | cleanup mod next => cases how <;> exact searches

theorem searches_proceed {listener : Listener} (searches : listener.Searches searched) :
    (session.proceed listener).Searches catalog mod executable searched := by
  match listener, searches with
  | .waiting _ _ true, searches => exact searches_endWait .found searches
  | .waiting _ _ false, searches => exact searches

theorem searches_heard {wait : Wait} {deadline : Duration} (received : Received)
    (searches : wait.Searches searched) :
    (session.heard wait deadline received).Searches catalog mod executable searched := by
  cases received with
  | message message =>
    simp only [Session.heard, Session.dispatch]
    split
    · exact searches
    · exact searches_proceed searches
  | detached reason => exact searches_endWait _ searches
  | nothing => exact searches_endWait _ searches
  | closed => exact searches_endWait _ searches

/-! ## Answers -/

/-- If the signal is not seen when an answer is there, nobody has triggered it, neither before nor meanwhile. -/
theorem untriggered {signal : CancelSignal} {cancelled : Bool} (armed : (signal.after cancelled).triggered = false) :
    signal.triggered = false ∧ cancelled = false := Bool.or_eq_false_iff.1 armed

theorem searches_found {spawned : Bool} (session : Session)
    (searches : (Point.finding job spawned).Searches catalog mod executable searched session.cancel)
    (answer : Except Error (Option Nat)) (cancelled : Bool) :
    (session.resume (.finding job spawned) ⟨answer, cancelled⟩).Searches catalog mod executable
      (searched ++ [.exchanged (.findProcess job.process) ⟨answer, cancelled⟩]) := by
  obtain ⟨seeks, due, unspawned⟩ := searches
  have passes : ∀ earlier ∈ searched, earlier.Passes false := by
    cases due with
    | lookup known named passes => exact passes
  let now : Session := { session with cancel := session.cancel.after cancelled }
  have heeded (armed : now.cancel.triggered = false) : cancelled = false := (untriggered armed).2
  cases answer with
  | error e => exact searches_notFound seeks nofun heeded passes unspawned
  | ok found =>
    cases found with
    | none => exact searches_notFound seeks nofun heeded passes unspawned
    | some pid => exact searches_withStatus now fun _ _ => .attach rfl passes

theorem searches_spawned {path : SystemPath} (session : Session)
    (searches : (Point.spawning job path).Searches catalog mod executable searched session.cancel)
    (answer : Except Error Unit) (cancelled : Bool) :
    (session.resume (.spawning job path) ⟨answer, cancelled⟩).Searches catalog mod executable
      (searched ++ [.exchanged (.spawn path) ⟨answer, cancelled⟩]) := by
  obtain ⟨seeks, due, passes⟩ := searches
  let now : Session := { session with cancel := session.cancel.after cancelled }
  cases answer with
  | error e => exact searches_fail now (.refused rfl)
  | ok =>
    refine searches_waitToLook seeks (fun _ => .abandoned rfl .spawned) (fun armed => ?_) nofun
    obtain ⟨still, rfl⟩ := untriggered armed
    simpa [or_imp, forall_and] using ⟨passes still, .spawned⟩

theorem searches_paused {spawned : Bool} {span : Duration} (session : Session)
    (searches : (Point.pausing job spawned span).Searches catalog mod executable searched session.cancel)
    (answer : Unit) (cancelled : Bool) :
    (session.resume (.pausing job spawned span) ⟨answer, cancelled⟩).Searches catalog mod executable
      (searched ++ [.exchanged (.pause span) ⟨answer, cancelled⟩]) := by
  obtain ⟨seeks, due, unspawned⟩ := searches
  have passes : ∀ earlier ∈ searched, earlier.Passes false := by
    cases due with
    | pause passes => exact passes
  refine searches_look seeks (fun _ => .abandoned rfl .paused) (fun armed => ?_) fun none => ?_
  · obtain ⟨-, rfl⟩ := untriggered armed
    simpa [or_imp, forall_and] using ⟨passes, .paused⟩
  · simpa [or_imp, forall_and, Happening.spawns] using unspawned none

/-- The search is over when a process was asked to be attached. -/
theorem searches_attached {pid : Nat} (session : Session) (answer : Except Error Unit) (cancelled : Bool) :
    (session.resume (.attaching job pid) ⟨answer, cancelled⟩).Searches catalog mod executable
      (searched ++ [.exchanged (.attach pid) ⟨answer, cancelled⟩]) := by
  have attached : Attached (searched ++ [.exchanged (.attach pid) ⟨answer, cancelled⟩]) :=
    ⟨searched, pid, _, rfl⟩
  cases answer with
  | error e => exact searches_fail _ (.attached attached)
  | ok =>
    simp only [Session.resume, Session.answered]
    split
    · exact attached
    · exact attached

/-- When the old mod is gone, the search begins. -/
theorem searches_afterStop {next : AfterStop} (same : session.catalog = catalog)
    (serves : next.Serves (.start mod executable)) :
    (session.afterStop next).Searches catalog mod executable [] := by
  cases next with
  | finish => exact absurd serves (by simp [AfterStop.Serves])
  | start mod' executable' =>
    cases serves
    exact searches_begin same

/-- What comes after the search, or before it, leaves it as it is. -/
theorem searches_answered (session : Session) (same : session.catalog = catalog) {point : Point}
    (serves : point.Serves (.start mod executable)) {signal : CancelSignal}
    (searches : point.Searches catalog mod executable searched signal)
    {reply : Reply point.request} (silent : (Happening.exchanged point.request reply).isSearch = false) :
    (session.answered point reply.answer).Searches catalog mod executable searched := by
  obtain ⟨answer, cancelled⟩ := reply
  cases point with
  | finding job spawned => cases silent
  | spawning job path => cases silent
  | pausing job spawned span => cases silent
  | attaching job pid => cases silent
  | detachingCancelled => exact searches_abandon session (.attached searches)
  | takingEvents job =>
    change Except Error Unit at answer
    cases answer <;> exact searches
  | locating job =>
    change Except Error String at answer
    cases answer with
    | error e => exact searches_inject searches
    | ok path => exact searches
  | reading job path => exact searches_inject searches
  | loading job resolution =>
    change Except Error Unit at answer
    cases answer <;> exact searches
  | settingDeadline wait =>
    simp only [Session.answered]
    split
    · exact searches
    · exact searches
  | readingClock wait deadline => exact searches
  | receiving wait deadline limit => exact searches_heard answer searches
  | handling listener label event data => exact searches_proceed searches
  | unloadingFailed cause => exact searches
  | detachingFailed cause => exact searches_fail session (.attached searches)
  | requestingCleanup mod next =>
    change Except Error Unit at answer
    cases answer <;> exact searches
  | unloadingStopped next => exact searches_withStatus session fun _ _ => searches
  | detachingStopped next =>
    obtain rfl : searched = [] := searches
    exact searches_afterStop same serves
  | commanding name data => exact searches.elim
  | delivering mod count limit => exact searches.elim

/-- What is asked next is due after what was asked, and after the answer. -/
theorem searches_resume (session : Session) (same : session.catalog = catalog) {point : Point}
    (serves : point.Serves (.start mod executable))
    (searches : point.Searches catalog mod executable searched session.cancel)
    (reply : Reply point.request) :
    (session.resume point reply).Searches catalog mod executable
      (searched ++ search [.exchanged point.request reply]) := by
  cases isSearch : (Happening.exchanged point.request reply).isSearch with
  | false =>
    rw [append_search isSearch]
    exact searches_answered { session with cancel := session.cancel.after reply.cancelled } same serves searches
      isSearch
  | true =>
    obtain ⟨answer, cancelled⟩ := reply
    cases point with
    | finding job spawned => exact searches_found session searches answer cancelled
    | spawning job path => exact searches_spawned session searches answer cancelled
    | pausing job spawned span => exact searches_paused session searches answer cancelled
    | attaching job pid => exact searches_attached session answer cancelled
    | _ => cases isSearch

/-! ## Starts -/

variable {begun : Session} {during : List Happening} {turn : Turn}

theorem searches_perform (begun : Session) :
    (begun.perform (.start mod executable)).Searches begun.catalog mod executable [] := by
  simp only [Session.perform, Session.start]
  split
  · exact rfl
  · exact searches_begin rfl

/-- What a start has asked about its process at each of its turns, and what it made of it. -/
theorem Underway.searches (underway : Underway begun (.start mod executable) during turn) :
    turn.Searches begun.catalog mod executable (search during) := by
  induction underway with
  | first => exact searches_perform begun
  | @reply during turn point reply underway asks ih =>
    have serves := underway.serves
    unfold Turn.Serves at serves
    unfold Turn.Searches at ih
    rw [asks] at serves ih
    rw [search_append, search_append, search_happenings, List.append_nil]
    exact searches_resume turn.session underway.chooses.1 serves ih reply

/-- A point knows that its request is due, if it is one of the search. -/
theorem Point.Searches.due {point : Point} {signal : CancelSignal} {reply : Reply point.request}
    (searches : point.Searches catalog mod executable searched signal)
    (isSearch : (Happening.exchanged point.request reply).isSearch = true) :
    Due catalog mod executable searched point.request := by
  cases point with
  | finding job spawned => exact searches.2.1
  | spawning job path => exact searches.2.1
  | pausing job spawned span => exact searches.2.1
  | attaching job pid => exact searches
  | _ => cases isSearch

/-- Every request of a search was due when it was made. -/
theorem Underway.due (underway : Underway begun (.start mod executable) during turn)
    {before after : List Happening} {happening : Happening}
    (split : search during = before ++ happening :: after) :
    ∃ request reply, happening = .exchanged request reply ∧
      Due begun.catalog mod executable before request := by
  induction underway generalizing after with
  | first => exact absurd split (by simp [search])
  | @reply during turn point reply underway asks ih =>
    rw [search_append, search_append, search_happenings, List.append_nil] at split
    cases isSearch : (Happening.exchanged point.request reply).isSearch with
    | false =>
      rw [append_search isSearch] at split
      exact ih split
    | true =>
      have searches := underway.searches
      unfold Turn.Searches at searches
      rw [asks] at searches
      have only : search [.exchanged point.request reply] = [.exchanged point.request reply] := by
        simp [search, isSearch]
      rw [only] at split
      -- Either the exchange is the new one, or something is behind it and it was there before.
      rcases List.eq_nil_or_concat after with rfl | ⟨front, last, rfl⟩
      · obtain ⟨rfl, same⟩ := List.append_inj' split rfl
        cases same
        exact ⟨point.request, reply, rfl, searches.due isSearch⟩
      · have split : search during ++ [.exchanged point.request reply] =
            (before ++ happening :: front) ++ [last] := by simp [split]
        exact ih (List.append_inj' split rfl).1

/-- After an exchange behind which no search goes on there is one request at most, and it was due. -/
theorem Underway.due_after (underway : Underway begun (.start mod executable) during turn)
    {before after : List Happening} {happening : Happening}
    (split : search during = before ++ happening :: after) (stopped : ¬ happening.Passes false) :
    after = [] ∨ ∃ request reply, after = [.exchanged request reply] ∧
      Due begun.catalog mod executable (before ++ [happening]) request := by
  rcases after with - | ⟨next, rest⟩
  · exact .inl rfl
  have nextSplit : search during = (before ++ [happening]) ++ next :: rest := by simp [split]
  obtain ⟨request, reply, rfl, due⟩ := underway.due nextSplit
  rcases rest with - | ⟨third, rest⟩
  · exact .inr ⟨request, reply, rfl, due⟩
  -- Another exchange behind it would have needed the first one to pass.
  have thirdSplit : search during =
      (before ++ [happening] ++ [.exchanged request reply]) ++ third :: rest := by simp [split]
  obtain ⟨_, _, -, due⟩ := underway.due thirdSplit
  exact absurd (due.passes happening (by simp)) stopped

/-! ## What a search leads to -/

theorem not_passes_found {name : String} {pid : Nat} {cancelled cancelled' : Bool} :
    ¬ (Happening.exchanged (.findProcess name) ⟨Except.ok (some pid), cancelled⟩).Passes cancelled' := by
  rintro ⟨⟩
  rename_i missed
  exact missed pid rfl

theorem not_passes_refused {path : SystemPath} {cause : Error} {cancelled cancelled' : Bool} :
    ¬ (Happening.exchanged (.spawn path) ⟨Except.error cause, cancelled⟩).Passes cancelled' := nofun

theorem not_passes_triggered {happening : Happening} (triggered : happening.Passes true) :
    ¬ happening.Passes false := by
  intro passes
  cases triggered <;> cases passes

variable {before : List Happening} {request : Request} {last : Happening}

/-- Before a request of a search the search goes on, or the request is that to which a lookup has led. -/
theorem Due.leads (due : Due catalog mod executable (before ++ [last]) request) :
    last.Passes false ∨
      (∃ path name answer cancelled, executable = some path ∧ request = .spawn path ∧ Misses answer ∧
        last = .exchanged (.findProcess name) ⟨answer, cancelled⟩ ∧
        ∀ earlier ∈ before, earlier.spawns = false) ∨
      ∃ pid name cancelled, request = .attach pid ∧
        last = .exchanged (.findProcess name) ⟨Except.ok (some pid), cancelled⟩ := by
  cases due with
  | lookup known named passes => exact .inl (passes last (by simp))
  | spawn path split missed passes =>
    obtain ⟨rfl, same⟩ := List.append_inj' split rfl
    cases same
    exact .inr (.inl ⟨_, _, _, _, path, rfl, missed, rfl, fun earlier present => (passes earlier present).2⟩)
  | pause passes => exact .inl (passes last (by simp))
  | attach split passes =>
    cases (List.append_inj' split rfl).2
    exact .inr (.inr ⟨_, _, _, rfl, rfl⟩)

/-- A lookup that found a process leads to its attachment. -/
theorem Due.eq_attach {name : String} {pid : Nat} {cancelled : Bool}
    (due : Due catalog mod executable
      (before ++ [.exchanged (.findProcess name) ⟨Except.ok (some pid), cancelled⟩]) request) :
    request = .attach pid := by
  rcases due.leads with passes | ⟨_, _, _, _, -, -, missed, same, -⟩ | ⟨_, _, _, attach, same⟩
  · exact absurd passes not_passes_found
  · cases same
    exact absurd rfl (missed pid)
  · cases same
    exact attach

/-- If the game could not be started, nothing is due. -/
theorem Due.not_refused {path : SystemPath} {cause : Error} {cancelled : Bool} :
    ¬ Due catalog mod executable
      (before ++ [.exchanged (.spawn path) ⟨Except.error cause, cancelled⟩]) request := by
  intro due
  rcases due.leads with passes | ⟨_, _, _, _, -, -, -, same, -⟩ | ⟨_, _, _, -, same⟩
  · exact not_passes_refused passes
  · cases same
  · cases same

/-- If the signal was triggered and nothing found, only the start of the game may be due. -/
theorem Due.eq_spawn (due : Due catalog mod executable (before ++ [last]) request)
    (triggered : last.Passes true) :
    ∃ path name reply, executable = some path ∧ request = .spawn path ∧
      last = .exchanged (.findProcess name) reply ∧ ∀ earlier ∈ before, earlier.spawns = false := by
  rcases due.leads with passes | ⟨path, name, _, _, known, spawn, -, lookup, unspawned⟩ | ⟨_, _, _, -, rfl⟩
  · exact absurd passes (not_passes_triggered triggered)
  · exact ⟨path, name, _, known, spawn, lookup, unspawned⟩
  · exact absurd triggered not_passes_found

theorem not_attached (unattached : last.asksAttach = false) : ¬ Attached (before ++ [last]) := by
  rintro ⟨earlier, pid, reply, split⟩
  cases (List.append_inj' split rfl).2
  cases unattached

/-- A start waits for its script only after the attachment, and for the old one only before the search. -/
theorem Wait.Searches.asksAttach {wait : Wait} (searches : wait.Searches (before ++ [last]))
    (unattached : last.asksAttach = false) : False := by
  cases wait with
  | ready job patch => exact not_attached unattached searches
  | cleanup mod next => exact absurd searches (List.append_ne_nil_of_right_ne_nil _ (List.cons_ne_nil _ _))

/-- Unless it comes after the attachment, a point at which something was searched asks for what is due. -/
theorem Point.Searches.due_of_last {point : Point} {signal : CancelSignal}
    (searches : point.Searches catalog mod executable (before ++ [last]) signal)
    (unattached : last.asksAttach = false) :
    Due catalog mod executable (before ++ [last]) point.request := by
  have begun : before ++ [last] ≠ [] := by simp
  have seeking : ¬ Attached (before ++ [last]) := not_attached unattached
  have waits {wait : Wait} (searches : wait.Searches (before ++ [last])) : False :=
    searches.asksAttach unattached
  cases point with
  | finding job spawned => exact searches.2.1
  | spawning job path => exact searches.2.1
  | pausing job spawned span => exact searches.2.1
  | attaching job pid => exact searches
  | settingDeadline wait | readingClock wait deadline | receiving wait deadline limit =>
    exact (waits searches).elim
  | handling listener label event data =>
    cases listener with
    | waiting wait deadline found => exact (waits searches).elim
    | delivering mod count => exact searches.elim
  | requestingCleanup _ _ | unloadingStopped _ | detachingStopped _ => exact absurd searches begun
  | commanding name data => exact searches.elim
  | delivering mod count limit => exact searches.elim
  | _ => exact absurd searches seeking

/-- The same for the end of a start. -/
theorem Ends.of_last {outcome : Outcome} (ends : Ends (before ++ [last]) outcome)
    (unattached : last.asksAttach = false) :
    (∃ path cause cancelled, last = .exchanged (.spawn path) ⟨Except.error cause, cancelled⟩ ∧
      outcome = .failed cause) ∨ (∃ cancelled, last.Passes cancelled) ∧ outcome = .cancelled := by
  cases ends with
  | unknown none => simp at none
  | refused split =>
    cases (List.append_inj' split rfl).2
    exact .inl ⟨_, _, _, rfl, rfl⟩
  | abandoned split passes =>
    cases (List.append_inj' split rfl).2
    exact .inr ⟨⟨_, passes⟩, rfl⟩
  | attached attached => exact absurd attached (not_attached unattached)

variable {after : List Happening}

/-- A process that was found is the one that is attached, and nothing else comes before. -/
theorem Underway.attaches_found (underway : Underway begun (.start mod executable) during turn)
    {name : String} {pid : Nat} {cancelled : Bool}
    (split : search during =
      before ++ .exchanged (.findProcess name) ⟨Except.ok (some pid), cancelled⟩ :: after) :
    (after = [] ∧ ∃ job, turn.next = .ask (.attaching job pid)) ∨
      ∃ reply, after = [.exchanged (.attach pid) reply] := by
  rcases underway.due_after split not_passes_found with rfl | ⟨request, reply, rfl, due⟩
  · have searches := underway.searches
    unfold Turn.Searches at searches
    rw [split] at searches
    split at searches
    next point asks =>
      have request := (searches.due_of_last rfl).eq_attach
      cases point with
      | attaching job pid' =>
        cases request
        exact .inl ⟨rfl, job, asks⟩
      | _ => cases request
    next outcome ends =>
      rcases searches.of_last rfl with ⟨_, _, _, same, -⟩ | ⟨⟨_, passes⟩, -⟩
      · cases same
      · exact absurd passes not_passes_found
    next => exact (searches.asksAttach rfl).elim
  · obtain rfl := due.eq_attach
    exact .inr ⟨reply, rfl⟩

/-- If the game could not be started, the start has ended with the error. -/
theorem Underway.fails_refused (underway : Underway begun (.start mod executable) during turn)
    {path : SystemPath} {cause : Error} {cancelled : Bool}
    (split : search during = before ++ .exchanged (.spawn path) ⟨Except.error cause, cancelled⟩ :: after) :
    after = [] ∧ turn.next = .finish (.failed cause) := by
  rcases underway.due_after split not_passes_refused with rfl | ⟨request, reply, rfl, due⟩
  · have searches := underway.searches
    unfold Turn.Searches at searches
    rw [split] at searches
    split at searches
    next point asks => exact absurd (searches.due_of_last rfl) Due.not_refused
    next outcome ends =>
      rcases searches.of_last rfl with ⟨_, _, _, same, rfl⟩ | ⟨⟨_, passes⟩, -⟩
      · cases same
        exact ⟨rfl, ends⟩
      · exact absurd passes not_passes_refused
    next => exact (searches.asksAttach rfl).elim
  · exact absurd due Due.not_refused

/-- If the signal was triggered and nothing found, the start has given up, unless it still starts the game. -/
theorem Underway.abandons (underway : Underway begun (.start mod executable) during turn)
    (split : search during = before ++ last :: after) (triggered : last.Passes true) :
    (after = [] ∧ turn.next = .finish .cancelled) ∨
      ∃ path name reply, executable = some path ∧ last = .exchanged (.findProcess name) reply ∧
        (∀ earlier ∈ before, earlier.spawns = false) ∧
        ((after = [] ∧ ∃ job, turn.next = .ask (.spawning job path)) ∨
          ∃ reply, after = [.exchanged (.spawn path) reply]) := by
  have unattached : last.asksAttach = false := by cases triggered <;> rfl
  rcases underway.due_after split (not_passes_triggered triggered) with rfl | ⟨request, reply, rfl, due⟩
  · have searches := underway.searches
    unfold Turn.Searches at searches
    rw [split] at searches
    split at searches
    next point asks =>
      obtain ⟨path, name, reply, known, request, lookup, unspawned⟩ :=
        (searches.due_of_last unattached).eq_spawn triggered
      cases point with
      | spawning job path' =>
        cases request
        exact .inr ⟨path, name, reply, known, lookup, unspawned, .inl ⟨rfl, job, asks⟩⟩
      | _ => cases request
    next outcome ends =>
      rcases searches.of_last unattached with ⟨_, _, _, rfl, -⟩ | ⟨-, rfl⟩
      · exact absurd triggered not_passes_refused
      · exact .inl ⟨rfl, ends⟩
    next => exact (searches.asksAttach unattached).elim
  · obtain ⟨path, name, reply', known, rfl, lookup, unspawned⟩ := due.eq_spawn triggered
    exact .inr ⟨path, name, reply', known, lookup, unspawned, .inr ⟨reply, rfl⟩⟩

end

/-! ## Lookups that fail -/

/-- Two happenings are the same, or lookups that miss in one way or another. -/
inductive Happening.Alike : Happening → Happening → Prop
  | same (happening : Happening) : Alike happening happening
  | missed {name : String} {cancelled : Bool} {answer answer' : Except Error (Option Nat)} :
    Misses answer → Misses answer' →
    Alike (.exchanged (.findProcess name) ⟨answer, cancelled⟩)
      (.exchanged (.findProcess name) ⟨answer', cancelled⟩)

section

variable {session : Session} {stage stage' : Stage} {trace happenings happenings' : List Happening}

theorem eq_of_alike (alike : List.Forall₂ Happening.Alike happenings' happenings)
    (silent : ∀ happening ∈ happenings, happening.isSearch = false) : happenings' = happenings := by
  induction alike with
  | nil => rfl
  | @cons first' first rest' rest alike _ ih =>
    have others := ih fun happening present => silent happening (List.mem_cons_of_mem _ present)
    cases alike with
    | same => rw [others]
    | missed => exact absurd (silent _ List.mem_cons_self) (by simp [Happening.isSearch])

theorem resume_of_misses (session : Session) (job : Job) (spawned cancelled : Bool)
    {answer : Except Error (Option Nat)} (missed : Misses answer) :
    session.resume (.finding job spawned) ⟨answer, cancelled⟩ =
      { session with cancel := session.cancel.after cancelled }.notFound job spawned := by
  cases answer with
  | error e => rfl
  | ok found =>
    cases found with
    | none => rfl
    | some pid => exact absurd rfl (missed pid)

theorem Step.alike (step : Step stage happenings stage')
    (alike : List.Forall₂ Happening.Alike happenings' happenings) : Step stage happenings' stage' := by
  cases step with
  | perform begun operation =>
    rw [eq_of_alike alike (List.forall_mem_cons.2 ⟨rfl, silent_happenings _ _⟩)]
    exact .perform begun operation
  | trigger now =>
    rw [eq_of_alike alike (List.forall_mem_singleton.2 rfl)]
    exact .trigger now
  | reply operation now point reply =>
    obtain ⟨answer, cancelled⟩ := reply
    obtain ⟨first, rest, alikeFirst, alikeRest, rfl⟩ := List.forall₂_cons_right_iff.1 alike
    rw [eq_of_alike alikeRest (silent_happenings _ _)]
    generalize exchange : Happening.exchanged point.request ⟨answer, cancelled⟩ = happening at alikeFirst
    cases alikeFirst with
    | same =>
      subst exchange
      exact .reply operation now point ⟨answer, cancelled⟩
    | @missed name cancelled' answer' answer'' missed' missed =>
      cases point with
      | finding job spawned =>
        cases exchange
        have step := Step.reply operation now (.finding job spawned) ⟨answer', cancelled⟩
        rw [resume_of_misses now job spawned cancelled missed'] at step
        rw [resume_of_misses now job spawned cancelled missed]
        exact step
      | _ => cases exchange

/-- A run goes the same way whether its lookups fail or find nothing. -/
theorem Run.alike (run : Run session trace stage) {trace' : List Happening}
    (alike : List.Forall₂ Happening.Alike trace' trace) : Run session trace' stage := by
  induction run generalizing trace' with
  | start =>
    cases alike
    exact .start
  | @step trace happenings stage stage' _ step ih =>
    have before := ih (List.forall₂_take_append trace' trace happenings alike)
    have after := step.alike (List.forall₂_drop_append trace' trace happenings alike)
    rw [← List.take_append_drop trace.length trace']
    exact before.step after

end

/-! ## Runs -/

/-- The search of a start. In every run, and at every time in the start that was begun last:
1. a lookup, a start of the game, a pause or an attachment was made only when it was due;
2. a process that was found is attached next;
3. if the game could not be started, nothing else was tried, and the start has ended with the error;
4. if the signal was triggered while nothing was found, the start has given up, unless the game was still to be
   started right after the lookup that missed;
5. it would go the same way if lookups failed where they found nothing, or the other way round. -/
theorem Run.discovers_process {session : Session} {front during : List Happening} {stage : Stage}
    {mod : Declaration} {executable : Option SystemPath}
    (run : Run session (front ++ .performed (.start mod executable) :: during) stage)
    (last : ∀ operation, .performed operation ∉ during) :
    (∀ before happening after, search during = before ++ happening :: after →
      ∃ request reply, happening = .exchanged request reply ∧
        Due session.catalog mod executable before request) ∧
    (∀ before after name pid cancelled,
      search during = before ++ .exchanged (.findProcess name) ⟨Except.ok (some pid), cancelled⟩ :: after →
      (after = [] ∧ ∃ now job, stage = .asking (.start mod executable) now (.attaching job pid)) ∨
        ∃ reply, after = [.exchanged (.attach pid) reply]) ∧
    (∀ before after path cause cancelled,
      search during = before ++ .exchanged (.spawn path) ⟨Except.error cause, cancelled⟩ :: after →
      after = [] ∧ .ended (.start mod executable) (.failed cause) ∈ during) ∧
    (∀ before happening after, search during = before ++ happening :: after → happening.Passes true →
      (after = [] ∧ .ended (.start mod executable) .cancelled ∈ during) ∨
        ∃ path name reply, executable = some path ∧ happening = .exchanged (.findProcess name) reply ∧
          (∀ earlier ∈ before, earlier.spawns = false) ∧
          ((after = [] ∧ ∃ now job, stage = .asking (.start mod executable) now (.spawning job path)) ∨
            ∃ reply, after = [.exchanged (.spawn path) reply])) ∧
    ∀ trace', List.Forall₂ Happening.Alike trace' (front ++ .performed (.start mod executable) :: during) →
      Run session trace' stage := by
  obtain ⟨begun, before, turn, triggers, rested, underway, rfl, stands⟩ := run.begunLast rfl last
  have same : begun.catalog = session.catalog := rested.catalog_eq
  have searched : search (before ++ turn.happenings (.start mod executable) ++ triggers) = search before := by
    have silent : search triggers = [] := by
      refine List.filter_eq_nil_iff.2 fun happening present => ?_
      rcases stands with ⟨rfl, -⟩ | ⟨triggered, -⟩
      · cases present
      · rw [triggered happening present]
        exact Bool.false_ne_true
    rw [search_append, search_append, search_happenings, silent, List.append_nil, List.append_nil]
  have asking {point : Point} (asks : turn.next = .ask point) :
      stage = .asking (.start mod executable) turn.session point := by
    rcases stands with ⟨-, rfl⟩ | ⟨-, -, outcome, ends⟩
    · simp only [Stage.after, asks]
    · cases asks.symm.trans ends
  have ended {outcome : Outcome} (ends : turn.next = .finish outcome) :
      .ended (.start mod executable) outcome ∈
        before ++ turn.happenings (.start mod executable) ++ triggers := by
    simp [Turn.happenings, ends]
  rw [searched, ← same]
  refine ⟨fun _ _ _ split => underway.due split, ?_, ?_, ?_, fun trace' alike => run.alike alike⟩
  · intro earlier after name pid cancelled split
    rcases underway.attaches_found split with ⟨none, job, asks⟩ | attach
    · exact .inl ⟨none, turn.session, job, asking asks⟩
    · exact .inr attach
  · intro earlier after path cause cancelled split
    obtain ⟨none, ends⟩ := underway.fails_refused split
    exact ⟨none, ended ends⟩
  · intro earlier happening after split triggered
    rcases underway.abandons split triggered with
      ⟨none, ends⟩ | ⟨path, name, reply, known, lookup, unspawned, ⟨none, job, asks⟩ | spawn⟩
    · exact .inl ⟨none, ended ends⟩
    · exact .inr ⟨path, name, reply, known, lookup, unspawned,
        .inl ⟨none, turn.session, job, asking asks⟩⟩
    · exact .inr ⟨path, name, reply, known, lookup, unspawned, .inr spawn⟩

/-- No operation begins while another one is in progress. -/
theorem Underway.performed_notMem {begun : Session} {operation : Operation} {during : List Happening}
    {turn : Turn} (underway : Underway begun operation during turn) (operation' : Operation) :
    .performed operation' ∉ during ++ turn.happenings operation := by
  intro present
  rcases List.mem_append.1 present with inDuring | inTurn
  · cases underway.unbroken _ inDuring
  · simp [Turn.mem_happenings_iff] at inTurn

/-- A lookup of `e.exe` that fails. -/
def failedLookup : Happening := .exchanged (.findProcess "e.exe") ⟨Except.error (.backend ""), false⟩

/-- A lookup of `e.exe` that finds a process. -/
def foundLookup : Happening := .exchanged (.findProcess "e.exe") ⟨Except.ok (some 7), false⟩

theorem exists_started_search {catalog : GameCatalog} {game : Game} (known : catalog.get "g" = .ok game) :
    ∃ during turn job, Underway (.new catalog {}) (.start idleMod (some "/e.exe")) during turn ∧
      search during = [failedLookup, .exchanged (.spawn "/e.exe") ⟨Except.ok (), false⟩,
        .exchanged (.pause ⟨2000000000⟩) ⟨(), false⟩, foundLookup] ∧
      turn.next = .ask (.attaching job 7) := by
  let start : Operation := .start idleMod (some "/e.exe")
  let looking : Session := ⟨catalog, {}, .armed, .waiting "e.exe", none⟩
  let job : Job := ⟨idleMod, some "/e.exe", "e.exe"⟩
  have named : Session.processName game (some "/e.exe") = "e.exe" := by
    have name : SystemPath.name? "/e.exe" = some "e.exe" := by decide
    rw [Session.processName, Option.bind_some, name, Option.getD_some]
  have begins : (Session.new catalog {}).perform start =
      ⟨looking, [.event (.status (.waiting "e.exe"))], .ask (.finding job false)⟩ := by
    simp only [start, Session.perform, Session.start, Session.new, Session.begin, idleMod, known, named]
    rfl
  have looks : Underway (.new catalog {}) start [] _ := .first
  rw [begins] at looks
  let failed : Reply (Point.finding job false).request := ⟨Except.error (.backend ""), false⟩
  let spawned : Reply (Point.spawning job "/e.exe").request := ⟨Except.ok (), false⟩
  let paused : Reply (Point.pausing job true ⟨2000000000⟩).request := ⟨(), false⟩
  let found : Reply (Point.finding job true).request := ⟨Except.ok (some 7), false⟩
  have spawns := looks.reply failed rfl
  have pauses := spawns.reply spawned rfl
  have looksAgain := pauses.reply paused rfl
  have attaches := looksAgain.reply found rfl
  refine ⟨_, _, job, attaches, ?_, rfl⟩
  simp only [search_append, search_happenings]
  rfl

/-- A start whose first lookup fails starts the game, and attaches the process that the second lookup finds. -/
theorem Run.discovers_process_started :
    ∃ catalog during stage,
      Run (.new catalog {}) (.performed (.start idleMod (some "/e.exe")) :: during) stage ∧
      search during = [failedLookup, .exchanged (.spawn "/e.exe") ⟨Except.ok (), false⟩,
        .exchanged (.pause ⟨2000000000⟩) ⟨(), false⟩, foundLookup] ∧
      ∃ now job, stage = .asking (.start idleMod (some "/e.exe")) now (.attaching job 7) := by
  obtain ⟨catalog, game, -, known⟩ := GameCatalog.exists_loaded
  obtain ⟨during, turn, job, underway, searched, asks⟩ := exists_started_search known
  have run := underway.run .start
  rw [List.nil_append] at run
  have whole : search (during ++ turn.happenings (.start idleMod (some "/e.exe"))) = search during := by
    rw [search_append, search_happenings, List.append_nil]
  rw [searched] at whole
  refine ⟨catalog, _, _, run, whole, ?_⟩
  obtain ⟨-, attached, -⟩ := @Run.discovers_process _ [] _ _ _ _ run underway.performed_notMem
  rcases attached [_, _, _] [] "e.exe" 7 false whole with ⟨-, now, job, asking⟩ | ⟨reply, more⟩
  · exact ⟨now, job, asking⟩
  · cases more

end ModScript
