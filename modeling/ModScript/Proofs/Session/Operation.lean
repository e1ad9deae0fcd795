import ModScript.Proofs.Session.Run

/-!
# Operations in progress

What a run does from the beginning of an operation on. `Underway` follows one operation turn by turn;
whatever a run exchanges, lets out or ends with belongs to the operation that was begun last. An operation
stands only at points of its own and ends only with outcomes of its own: a script is waited for in a start
alone, and pending events are delivered by a pump alone.

Results:
1. `Run.exists_underway`: at a request, the operation in progress was begun last and has not ended.
2. `Run.exists_underway_of_split`: every happening inside an operation is one of the operation begun last.
3. `Underway.serves`: an operation keeps to its own points and outcomes.
4. `Underway.exists_attaches`: a start that succeeds has attached a process itself.
5. `exists_run_active`: there are runs at whose end a mod is attached.
-/

namespace ModScript

/-! ## Steps of a run -/

/-- The operation begins or ends. -/
def Happening.isBoundary : Happening → Bool
  | .performed _ | .ended _ _ => true
  | .triggered | .exchanged _ _ | .shown _ => false

/-- It happens while an operation is in progress. -/
def Happening.isInside : Happening → Bool
  | .performed _ | .triggered => false
  | .exchanged _ _ | .shown _ | .ended _ _ => true

/-- A process is attached. -/
def Happening.attaches : Happening → Bool
  | .exchanged (.attach _) reply => Except.isOk (show Except Error Unit from reply.answer)
  | _ => false

/-- The session of a stage. -/
def Stage.session : Stage → Session
  | .resting session | .asking _ session _ | .closed session | .crashed _ session _ => session

theorem Stage.session_after (operation : Operation) (turn : Turn) :
    (Stage.after operation turn).session = turn.session := by
  obtain ⟨session, outputs, next⟩ := turn
  cases next with
  | ask point => rfl
  | finish outcome => cases operation <;> rfl
  | crash wait => rfl

/-- Only a turn that asks leads to a request. -/
theorem Stage.after_eq_asking {operation operation' : Operation} {turn : Turn} {session : Session}
    {point : Point} (reached : Stage.after operation' turn = .asking operation session point) :
    operation' = operation ∧ turn.session = session ∧ turn.next = .ask point := by
  obtain ⟨session', outputs, next⟩ := turn
  cases next with
  | ask point' =>
    cases reached
    exact ⟨rfl, rfl, rfl⟩
  | finish outcome => cases operation' <;> cases reached
  | crash wait => cases reached

/-- An operation, what happened in it before its latest turn, and that turn. -/
inductive Underway (session : Session) (operation : Operation) : List Happening → Turn → Prop
  | first : Underway session operation [] (session.perform operation)
  | reply {during : List Happening} {turn : Turn} {point : Point} (reply : Reply point.request) :
    Underway session operation during turn → turn.next = .ask point →
    Underway session operation
      (during ++ turn.happenings operation ++ [.exchanged point.request reply])
      (turn.session.resume point reply)

theorem Turn.mem_happenings_iff {turn : Turn} {operation : Operation} {happening : Happening} :
    happening ∈ turn.happenings operation ↔
      (∃ output ∈ turn.outputs, happening = .shown output) ∨
        ∃ outcome, turn.next = .finish outcome ∧ happening = .ended operation outcome := by
  obtain ⟨session, outputs, next⟩ := turn
  cases next <;> simp [Turn.happenings, eq_comm]

/-- What holds of outputs and of ends holds of all that a turn adds to the trace. -/
theorem Turn.forall_happenings {motive : Happening → Prop} (shown : ∀ output, motive (.shown output))
    (ended : ∀ operation outcome, motive (.ended operation outcome)) (turn : Turn) (operation : Operation) :
    ∀ happening ∈ turn.happenings operation, motive happening := by
  intro happening present
  rcases Turn.mem_happenings_iff.1 present with ⟨output, -, rfl⟩ | ⟨outcome, -, rfl⟩
  · exact shown output
  · exact ended operation outcome

/-- Until its latest turn, an operation neither begins again nor ends. -/
theorem Underway.unbroken {session : Session} {operation : Operation} {during : List Happening}
    {turn : Turn} (underway : Underway session operation during turn) :
    ∀ happening ∈ during, happening.isBoundary = false := by
  induction underway with
  | first => exact fun _ present => absurd present List.not_mem_nil
  | reply reply _ asks ih =>
    intro happening present
    simp only [List.append_assoc, List.mem_append, List.mem_singleton] at present
    rcases present with inDuring | inTurn | rfl
    · exact ih happening inDuring
    · rcases Turn.mem_happenings_iff.1 inTurn with ⟨output, -, rfl⟩ | ⟨outcome, finishes, -⟩
      · rfl
      · cases asks.symm.trans finishes
    · rfl

/-- Before the end of a turn, nothing in it begins or ends an operation. -/
theorem Turn.unbroken_shown {turn : Turn} {during : List Happening}
    (unbroken : ∀ happening ∈ during, happening.isBoundary = false) :
    ∀ happening ∈ during ++ turn.outputs.map .shown, happening.isBoundary = false := by
  intro happening present
  rcases List.mem_append.1 present with inDuring | inOutputs
  · exact unbroken happening inDuring
  · obtain ⟨output, -, rfl⟩ := List.mem_map.1 inOutputs
    rfl

/-- Before its end, an operation neither begins again nor ends. -/
theorem Underway.unbroken_before {session : Session} {operation : Operation}
    {during front back : List Happening} {turn : Turn} {happening : Happening}
    (underway : Underway session operation during turn)
    (split : during ++ turn.happenings operation = front ++ happening :: back) :
    ∀ earlier ∈ front, earlier.isBoundary = false := by
  have inside := turn.unbroken_shown underway.unbroken
  unfold Turn.happenings at split
  rw [← List.append_assoc] at split
  -- The end is one happening at most, so nothing of it stands in front of another happening.
  rcases List.append_eq_append_iff.1 split with ⟨middle, rfl, rest⟩ | ⟨middle, same, -⟩
  · have atMost : (middle ++ happening :: back).length ≤ 1 := by
      rw [← rest]
      split <;> simp
    have none : middle = [] := by
      rw [List.length_append, List.length_cons] at atMost
      exact List.length_eq_zero_iff.1 (by omega)
    rw [none, List.append_nil]
    exact inside
  · intro earlier present
    exact inside earlier (same ▸ List.mem_append_left _ present)

/-- An end in an operation is the end of the operation, right after the outputs of its last turn. -/
theorem Turn.ended {operation operation' : Operation} {during front back : List Happening}
    {turn : Turn} {outcome : Outcome}
    (unbroken : ∀ happening ∈ during, happening.isBoundary = false)
    (split : during ++ turn.happenings operation = front ++ .ended operation' outcome :: back) :
    operation' = operation ∧ turn.next = .finish outcome ∧
      front = during ++ turn.outputs.map .shown := by
  have outside : Happening.ended operation' outcome ∉ during ++ turn.outputs.map .shown :=
    fun present => absurd (turn.unbroken_shown unbroken _ present) nofun
  unfold Turn.happenings at split
  rw [← List.append_assoc] at split
  cases next : turn.next with
  | ask point =>
    rw [next, List.append_nil] at split
    exact absurd (split ▸ by simp) outside
  | crash wait =>
    rw [next, List.append_nil] at split
    exact absurd (split ▸ by simp) outside
  | finish outcome' =>
    rw [next] at split
    rcases List.append_eq_append_iff.1 split with ⟨middle, rfl, rest⟩ | ⟨middle, same, rest⟩
    · cases middle with
      | nil =>
        cases rest
        exact ⟨rfl, rfl, List.append_nil _⟩
      | cons first middle => exact absurd (List.cons.inj rest).2 (by simp)
    · cases middle with
      | nil =>
        cases rest
        exact ⟨rfl, rfl, by rw [same, List.append_nil]⟩
      | cons first middle =>
        obtain ⟨rfl, -⟩ := List.cons.inj rest
        exact absurd (same ▸ by simp) outside

theorem eq_nil_of_unbroken {operation operation' : Operation} {earlier during during' : List Happening}
    (unbroken : ∀ happening ∈ during, happening.isBoundary = false)
    (split : .performed operation :: during = earlier ++ .performed operation' :: during') :
    earlier = [] ∧ during = during' := by
  cases earlier with
  | nil => exact ⟨rfl, (List.cons.inj split).2⟩
  | cons first rest =>
    obtain ⟨-, same⟩ := List.cons.inj split
    have boundary := unbroken (.performed operation') (same ▸ by simp)
    cases boundary

section

variable {session : Session} {trace : List Happening}

/-- At a request, the operation in progress was begun last and has not ended. -/
theorem Run.exists_underway {operation : Operation} {now : Session} {point : Point}
    (run : Run session trace (.asking operation now point)) :
    ∃ earlier begun during turn, Run session earlier (.resting begun) ∧
      Underway begun operation during turn ∧ turn.session = now ∧ turn.next = .ask point ∧
      trace = earlier ++ .performed operation :: (during ++ turn.happenings operation) := by
  generalize reached : Stage.asking operation now point = stage at run
  induction run generalizing now point with
  | start => cases reached
  | @step trace happenings stage stage' run step ih =>
    cases step with
    | perform begun operation' =>
      obtain ⟨rfl, atNow, asks⟩ := Stage.after_eq_asking reached.symm
      exact ⟨trace, begun, [], _, run, .first, atNow, asks, rfl⟩
    | trigger => cases reached
    | reply operation' session' point' reply =>
      obtain ⟨rfl, atNow, asks⟩ := Stage.after_eq_asking reached.symm
      obtain ⟨earlier, begun, during, turn, rested, underway, rfl, asked, rfl⟩ := ih rfl
      exact ⟨earlier, begun, _, _, rested, underway.reply reply asked, atNow, asks, by simp⟩

/-- A turn that leads to rest has ended its operation. -/
theorem Stage.exists_finish_of_resting {operation : Operation} {turn : Turn} {now : Session}
    (reached : Stage.after operation turn = .resting now) : ∃ outcome, turn.next = .finish outcome := by
  obtain ⟨session, outputs, next⟩ := turn
  cases next with
  | ask point => cases reached
  | finish outcome => exact ⟨outcome, rfl⟩
  | crash wait => cases reached

/-- An operation begins with a step of its own. -/
theorem Step.begins {stage stage' : Stage} {front back : List Happening} {operation : Operation}
    (step : Step stage (front ++ .performed operation :: back) stage') :
    front = [] ∧ ∃ begun, stage = .resting begun ∧ back = (begun.perform operation).happenings operation ∧
      stage' = .after operation (begun.perform operation) := by
  have inside {turn : Turn} {operation' : Operation} :
      Happening.performed operation ∉ turn.happenings operation' := by
    simp [Turn.mem_happenings_iff]
  generalize happened : front ++ .performed operation :: back = happenings at step
  cases front with
  | nil =>
    cases step with
    | perform begun operation' =>
      cases happened
      exact ⟨rfl, begun, rfl, rfl, rfl⟩
    | trigger => cases happened
    | reply => cases happened
  | cons first front =>
    have present : Happening.performed operation ∈ front ++ .performed operation :: back := by simp
    rw [List.cons_append] at happened
    cases step with
    | perform begun operation' =>
      rw [(List.cons.inj happened).2] at present
      exact absurd present inside
    | trigger => simp at happened
    | reply operation' now point reply =>
      rw [(List.cons.inj happened).2] at present
      exact absurd present inside

/-- After `front` the operation was begun last, and `during` is what has followed: a part of the operation, or
all of it and then nothing but triggers. -/
def BegunLast (session : Session) (operation : Operation) (front during : List Happening) (stage : Stage) :
    Prop :=
  ∃ begun before turn triggers, Run session front (.resting begun) ∧ Underway begun operation before turn ∧
    during = before ++ turn.happenings operation ++ triggers ∧
    (triggers = [] ∧ stage = .after operation turn ∨
      (∀ happening ∈ triggers, happening = .triggered) ∧ (∃ now, stage = .resting now) ∧
        ∃ outcome, turn.next = .finish outcome)

theorem Run.begunLast_of_step {happenings front during : List Happening} {stage stage' : Stage}
    {operation : Operation} (run : Run session trace stage) (step : Step stage happenings stage')
    {more : List Happening} (same : front = trace ++ more)
    (split : happenings = more ++ .performed operation :: during) :
    BegunLast session operation front during stage' := by
  subst split
  obtain ⟨rfl, begun, rfl, rfl, rfl⟩ := step.begins
  rw [List.append_nil] at same
  subst same
  exact ⟨begun, [], _, [], run, .first, by simp, .inl ⟨rfl, rfl⟩⟩

/-- The operation that was begun last is followed from its beginning on. -/
theorem Run.begunLast {front during : List Happening} {stage : Stage} {operation : Operation}
    (run : Run session trace stage) (split : trace = front ++ .performed operation :: during)
    (last : ∀ operation', .performed operation' ∉ during) :
    BegunLast session operation front during stage := by
  induction run generalizing during with
  | start => exact absurd split (by simp)
  | @step trace happenings stage stage' run step ih =>
    rcases List.append_eq_append_iff.1 split with ⟨more, same, rest⟩ | ⟨more, inTrace, rest⟩
    · exact run.begunLast_of_step step same rest
    cases more with
    | nil =>
      have same : front = trace ++ [] := by rw [inTrace, List.append_nil, List.append_nil]
      exact run.begunLast_of_step step same rest.symm
    | cons first more =>
      obtain ⟨rfl, rfl⟩ := List.cons.inj rest
      have last' (operation' : Operation) : .performed operation' ∉ more :=
        fun present => last operation' (List.mem_append_left _ present)
      obtain ⟨begun, before, turn, triggers, rested, underway, rfl, stands⟩ := ih inTrace last'
      cases step with
      | perform now operation' => exact absurd (by simp) (last operation')
      | trigger now =>
        refine ⟨begun, before, turn, triggers ++ [.triggered], rested, underway, by simp, .inr ?_⟩
        rcases stands with ⟨rfl, rests⟩ | ⟨triggered, -, ends⟩
        · exact ⟨by simp, ⟨_, rfl⟩, Stage.exists_finish_of_resting rests.symm⟩
        · exact ⟨by simpa [or_imp, forall_and] using triggered, ⟨_, rfl⟩, ends⟩
      | reply operation' now point reply =>
        rcases stands with ⟨rfl, asking⟩ | ⟨-, ⟨_, rests⟩, -⟩
        · obtain ⟨rfl, rfl, asks⟩ := Stage.after_eq_asking asking.symm
          exact ⟨begun, _, _, [], rested, underway.reply reply asks, by simp, .inl ⟨rfl, rfl⟩⟩
        · cases rests

/-- Every happening of a run belongs to one of its steps. -/
theorem Run.exists_step {before after : List Happening} {stage : Stage} {happening : Happening}
    (run : Run session trace stage) (split : trace = before ++ happening :: after) :
    ∃ earlier front back stage' stage'', Run session earlier stage' ∧
      Step stage' (front ++ happening :: back) stage'' ∧ before = earlier ++ front := by
  induction run generalizing before after with
  | start => exact absurd split (by simp)
  | @step trace happenings stage' stage'' run step ih =>
    rcases List.append_eq_append_iff.1 split with ⟨front, rfl, rest⟩ | ⟨middle, inTrace, rest⟩
    · exact ⟨trace, front, after, stage', stage'', run, rest ▸ step, rfl⟩
    · cases middle with
      | nil => exact ⟨trace, [], after, stage', stage'', run, rest ▸ step, by simpa using inTrace.symm⟩
      | cons first middle =>
        obtain ⟨rfl, -⟩ := List.cons.inj rest
        exact ih inTrace

/-- Every happening inside an operation is one of the operation that was begun last. -/
theorem Run.exists_underway_of_split {before after : List Happening} {stage : Stage}
    {happening : Happening} (run : Run session trace stage)
    (split : trace = before ++ happening :: after) (inside : happening.isInside = true) :
    ∃ earlier begun operation during turn front back, Run session earlier (.resting begun) ∧
      Underway begun operation during turn ∧
      during ++ turn.happenings operation = front ++ happening :: back ∧
      (∀ earlier ∈ front, earlier.isBoundary = false) ∧
      before = earlier ++ .performed operation :: front := by
  obtain ⟨trace', front, back, stage', stage'', run', step, rfl⟩ := run.exists_step split
  generalize happened : front ++ happening :: back = happenings at step
  cases step with
  | perform begun operation =>
    cases front with
    | nil =>
      cases happened
      cases inside
    | cons first front =>
      obtain ⟨rfl, rest⟩ := List.cons.inj happened
      have underway : Underway begun operation [] (begun.perform operation) := .first
      exact ⟨trace', begun, operation, [], _, front, back, run', underway, rest.symm,
        underway.unbroken_before rest.symm, rfl⟩
  | trigger =>
    have only : happening ∈ [Happening.triggered] := happened ▸ by simp
    cases List.mem_singleton.1 only
    cases inside
  | reply operation now point reply =>
    obtain ⟨earlier, begun, during, turn, rested, underway, rfl, asks, rfl⟩ := run'.exists_underway
    have next := underway.reply reply asks
    have same : during ++ turn.happenings operation ++ [.exchanged point.request reply] ++
        (turn.session.resume point reply).happenings operation =
        (during ++ turn.happenings operation ++ front) ++ happening :: back := by
      rw [List.append_assoc _ front, happened]
      simp
    exact ⟨earlier, begun, operation, _, _, _, back, rested, next, same, next.unbroken_before same,
      by simp⟩

end

/-! ## Points and outcomes of an operation -/

/-- What follows a stop fits the operation that stops. -/
def AfterStop.Serves (operation : Operation) : AfterStop → Prop
  | finish => operation = .stop ∨ operation = .close
  | start mod executable => operation = .start mod executable

/-- The operation is the start of the job. -/
def Job.Serves (operation : Operation) (job : Job) : Prop :=
  operation = .start job.mod job.executable

def Wait.Serves (operation : Operation) : Wait → Prop
  | ready job _ => job.Serves operation
  | cleanup _ next => next.Serves operation

def Operation.IsStart (operation : Operation) : Prop :=
  ∃ mod executable, operation = .start mod executable

def Operation.IsPump (operation : Operation) : Prop := ∃ limit, operation = .pump limit

def Listener.Serves (operation : Operation) : Listener → Prop
  | waiting wait _ _ => wait.Serves operation
  | delivering _ _ => operation.IsPump

/-- The operation may stand at the point. -/
def Point.Serves (operation : Operation) : Point → Prop
  | finding job _ | spawning job _ | pausing job _ _ | attaching job _ | takingEvents job
  | locating job | reading job _ | loading job _ => job.Serves operation
  | detachingCancelled | unloadingFailed _ | detachingFailed _ => operation.IsStart
  | settingDeadline wait | readingClock wait _ | receiving wait _ _ => wait.Serves operation
  | handling listener _ _ _ => listener.Serves operation
  | requestingCleanup _ next | unloadingStopped next | detachingStopped next =>
    next.Serves operation
  | commanding name data => operation = .send name data
  | delivering _ _ _ => operation.IsPump

/-- The operation may end with the outcome. -/
def Outcome.Serves (operation : Operation) : Outcome → Prop
  | started _ | cancelled => operation.IsStart
  | failed _ => operation.IsStart ∨ ∃ name data, operation = .send name data
  | stopped => operation = .stop ∨ operation = .close
  | sent => ∃ name data, operation = .send name data
  | delivered _ => operation.IsPump

/-- The operation may go on as the turn does, which is to crash only before a wait of its own. -/
def Turn.Serves (operation : Operation) (turn : Turn) : Prop :=
  match turn.next with
  | .ask point => point.Serves operation
  | .finish outcome => outcome.Serves operation
  | .crash wait => wait.Serves operation

section

variable {operation : Operation} {session : Session} {job : Job}

theorem Job.Serves.isStart (serves : job.Serves operation) : operation.IsStart := ⟨_, _, serves⟩

theorem serves_withStatus {status : Status} {next : Session → Turn}
    (serves : ∀ session, (next session).Serves operation) :
    (session.withStatus status next).Serves operation := by
  unfold Session.withStatus
  split
  · exact serves session
  · exact serves { session with status }

theorem serves_fail (cause : Error) (isStart : operation.IsStart) :
    (session.fail cause).Serves operation :=
  serves_withStatus fun _ => Or.inl isStart

theorem serves_abandon (isStart : operation.IsStart) : session.abandon.Serves operation :=
  serves_withStatus fun _ => isStart

theorem serves_look (spawned : Bool) (serves : job.Serves operation) :
    (session.look job spawned).Serves operation := by
  unfold Session.look
  split
  · exact serves_abandon serves.isStart
  · exact serves

theorem serves_waitToLook (spawned : Bool) (span : Duration) (serves : job.Serves operation) :
    (session.waitToLook job spawned span).Serves operation := by
  unfold Session.waitToLook
  split
  · exact serves_abandon serves.isStart
  · exact serves

theorem serves_notFound (spawned : Bool) (serves : job.Serves operation) :
    (session.notFound job spawned).Serves operation := by
  unfold Session.notFound
  split
  · exact serves
  · exact serves_waitToLook _ _ serves

theorem serves_begin (mod : Declaration) (executable : Option SystemPath)
    (starts : operation = .start mod executable) :
    (session.begin mod executable).Serves operation := by
  unfold Session.begin
  dsimp only
  split
  · exact serves_fail _ ⟨mod, executable, starts⟩
  · exact serves_withStatus fun _ => serves_look false starts

theorem serves_inject {choice : Except Error Resolution × List Notice}
    (serves : job.Serves operation) : (session.inject job choice).Serves operation := by
  obtain ⟨resolution | resolution, notices⟩ := choice
  · exact serves.isStart
  · exact serves_withStatus fun _ => serves

theorem serves_endWait {wait : Wait} (how : WaitEnd) (serves : wait.Serves operation) :
    (session.endWait wait how).Serves operation := by
  cases wait with
  | ready job patch =>
    cases how with
    | found => exact serves_withStatus fun _ => Job.Serves.isStart serves
    | timedOut => exact Job.Serves.isStart serves
    | detached reason => exact Job.Serves.isStart serves
  | cleanup mod next => cases how <;> exact serves

theorem serves_proceed {listener : Listener} (serves : listener.Serves operation) :
    (session.proceed listener).Serves operation := by
  match listener, serves with
  | .waiting _ _ true, serves => exact serves_endWait .found serves
  | .waiting _ _ false, serves => exact serves
  | .delivering _ _, serves => exact serves

theorem serves_dispatch {mod : Declaration} {message : Outbound} {listener : Listener}
    (serves : listener.Serves operation) :
    (session.dispatch mod message listener).Serves operation := by
  unfold Session.dispatch
  dsimp only
  split
  · exact serves
  · exact serves_proceed serves

theorem serves_heard {wait : Wait} {deadline : Duration} (received : Received)
    (serves : wait.Serves operation) : (session.heard wait deadline received).Serves operation := by
  cases received with
  | message message => exact serves_dispatch serves
  | detached reason => exact serves_endWait _ serves
  | nothing => exact serves_endWait _ serves
  | closed => exact serves_endWait _ serves

theorem serves_afterStop {next : AfterStop} (serves : next.Serves operation) :
    (session.afterStop next).Serves operation := by
  cases next with
  | finish => exact serves
  | start mod executable => exact serves_begin mod executable serves

theorem serves_lost (reason : String) (count : Nat) (pumps : operation.IsPump) :
    (session.lost reason count).Serves operation := by
  unfold Session.lost
  dsimp only
  split
  · exact pumps
  · exact serves_withStatus fun _ => pumps

theorem serves_deliver {mod : Declaration} {count : Nat} (received : Received)
    (pumps : operation.IsPump) : (session.deliver mod count received).Serves operation := by
  cases received with
  | message message => exact serves_dispatch pumps
  | detached reason => exact serves_lost reason _ pumps
  | nothing => exact pumps
  | closed => exact pumps

theorem serves_perform (session : Session) (operation : Operation) :
    (session.perform operation).Serves operation := by
  cases operation with
  | start mod executable =>
    simp only [Session.perform, Session.start]
    split
    · exact rfl
    · exact serves_begin mod executable rfl
  | stop =>
    simp only [Session.perform, Session.stop]
    split
    · exact Or.inl rfl
    · exact serves_withStatus fun _ => Or.inl rfl
  | send name data =>
    simp only [Session.perform, Session.send]
    split
    · exact rfl
    · exact Or.inr ⟨name, data, rfl⟩
  | pump limit =>
    simp only [Session.perform, Session.pump]
    split <;> exact ⟨limit, rfl⟩
  | close =>
    simp only [Session.perform, Session.close, Session.stop]
    split <;> exact Or.inr rfl

theorem serves_answered {point : Point} (serves : point.Serves operation)
    (answer : point.request.Answer) : (session.answered point answer).Serves operation := by
  cases point with
  | finding job spawned =>
    change Except Error (Option Nat) at answer
    cases answer with
    | error e => exact serves_notFound spawned serves
    | ok found =>
      cases found with
      | none => exact serves_notFound spawned serves
      | some pid => exact serves_withStatus fun _ => serves
  | spawning job path =>
    change Except Error Unit at answer
    cases answer with
    | error e => exact serves_fail e (Job.Serves.isStart serves)
    | ok => exact serves_waitToLook true _ serves
  | pausing job spawned span => exact serves_look spawned serves
  | attaching job pid =>
    change Except Error Unit at answer
    cases answer with
    | error e => exact serves_fail _ (Job.Serves.isStart serves)
    | ok =>
      simp only [Session.answered]
      split
      · exact Job.Serves.isStart serves
      · exact serves
  | detachingCancelled => exact serves_abandon serves
  | takingEvents job =>
    change Except Error Unit at answer
    cases answer with
    | error e => exact Job.Serves.isStart serves
    | ok => exact serves
  | locating job =>
    change Except Error String at answer
    cases answer with
    | error e => exact serves_inject serves
    | ok path => exact serves
  | reading job path => exact serves_inject serves
  | loading job resolution =>
    change Except Error Unit at answer
    cases answer with
    | error e => exact Job.Serves.isStart serves
    | ok => exact serves
  | settingDeadline wait =>
    simp only [Session.answered]
    split
    · exact serves
    · exact serves
  | readingClock wait deadline => exact serves
  | receiving wait deadline limit => exact serves_heard answer serves
  | handling listener label event data => exact serves_proceed serves
  | unloadingFailed cause => exact serves
  | detachingFailed cause => exact serves_fail cause serves
  | requestingCleanup mod next =>
    change Except Error Unit at answer
    cases answer <;> exact serves
  | unloadingStopped next => exact serves_withStatus fun _ => serves
  | detachingStopped next => exact serves_afterStop serves
  | commanding name data =>
    change Except Error Unit at answer
    cases answer with
    | error e => exact Or.inr ⟨name, data, serves⟩
    | ok => exact ⟨name, data, serves⟩
  | delivering mod count limit => exact serves_deliver answer serves

/-- An operation keeps to its own points and outcomes. -/
theorem Underway.serves {during : List Happening} {turn : Turn}
    (underway : Underway session operation during turn) : turn.Serves operation := by
  induction underway with
  | first => exact serves_perform session operation
  | @reply during turn point reply _ asks ih =>
    unfold Turn.Serves at ih
    rw [asks] at ih
    exact serves_answered ih reply.answer

/-! ## Starts that attach

A script is loaded and waited for only in the process that the same start has attached. -/

def Wait.isReady : Wait → Bool
  | .ready _ _ => true
  | .cleanup _ _ => false

/-- The start in progress has attached a process. -/
def Point.isInProcess : Point → Bool
  | .takingEvents _ | .locating _ | .reading _ _ | .loading _ _ => true
  | .settingDeadline wait | .readingClock wait _ | .receiving wait _ _
  | .handling (.waiting wait _ _) _ _ _ => wait.isReady
  | _ => false

/-- The turn goes on in a process that the start in progress has attached, or the start has succeeded. -/
def Turn.isInProcess (turn : Turn) : Bool :=
  match turn.next with
  | .ask point => point.isInProcess
  | .finish (.started _) => true
  | .finish _ | .crash _ => false

theorem outside_withStatus {status : Status} {next : Session → Turn}
    (outside : ∀ session, (next session).isInProcess = false) :
    (session.withStatus status next).isInProcess = false := by
  unfold Session.withStatus
  split
  · exact outside session
  · exact outside { session with status }

theorem outside_fail (cause : Error) : (session.fail cause).isInProcess = false :=
  outside_withStatus fun _ => rfl

theorem outside_abandon : session.abandon.isInProcess = false := outside_withStatus fun _ => rfl

theorem outside_look (spawned : Bool) : (session.look job spawned).isInProcess = false := by
  unfold Session.look
  split
  · exact outside_abandon
  · rfl

theorem outside_waitToLook (spawned : Bool) (span : Duration) :
    (session.waitToLook job spawned span).isInProcess = false := by
  unfold Session.waitToLook
  split
  · exact outside_abandon
  · rfl

theorem outside_notFound (spawned : Bool) : (session.notFound job spawned).isInProcess = false := by
  unfold Session.notFound
  split
  · rfl
  · exact outside_waitToLook _ _

theorem outside_begin (mod : Declaration) (executable : Option SystemPath) :
    (session.begin mod executable).isInProcess = false := by
  unfold Session.begin
  dsimp only
  split
  · exact outside_fail _
  · exact outside_withStatus fun _ => outside_look false

theorem outside_cleanup (mod : Declaration) (next : AfterStop) (how : WaitEnd) :
    (session.endWait (.cleanup mod next) how).isInProcess = false := by
  cases how <;> rfl

theorem outside_proceed {listener : Listener}
    (outside : ∀ wait deadline found, listener = .waiting wait deadline found → wait.isReady = false) :
    (session.proceed listener).isInProcess = false := by
  match listener with
  | .waiting (.ready _ _) deadline found => exact absurd (outside _ _ _ rfl) (by simp [Wait.isReady])
  | .waiting (.cleanup mod next) _ true => exact outside_cleanup mod next .found
  | .waiting (.cleanup _ _) _ false => rfl
  | .delivering _ _ => rfl

theorem outside_dispatch {mod : Declaration} {message : Outbound} {listener : Listener}
    (outside : ∀ wait deadline found, listener = .waiting wait deadline found → wait.isReady = false) :
    (session.dispatch mod message listener).isInProcess = false := by
  unfold Session.dispatch
  dsimp only
  split
  · cases listener with
    | waiting wait deadline found => exact outside wait deadline found rfl
    | delivering mod count => rfl
  · exact outside_proceed outside

theorem outside_heard {mod : Declaration} {next : AfterStop} {deadline : Duration}
    (received : Received) :
    (session.heard (.cleanup mod next) deadline received).isInProcess = false := by
  cases received with
  | message message =>
    refine outside_dispatch fun wait _ _ same => ?_
    cases same
    rfl
  | detached reason => exact outside_cleanup mod next (.detached reason)
  | nothing => exact outside_cleanup mod next .timedOut
  | closed => exact outside_cleanup mod next (.detached "event channel closed")

theorem outside_afterStop (next : AfterStop) : (session.afterStop next).isInProcess = false := by
  cases next with
  | finish => rfl
  | start mod executable => exact outside_begin mod executable

theorem outside_lost (reason : String) (count : Nat) :
    (session.lost reason count).isInProcess = false := by
  unfold Session.lost
  dsimp only
  split
  · rfl
  · exact outside_withStatus fun _ => rfl

theorem outside_deliver {mod : Declaration} {count : Nat} (received : Received) :
    (session.deliver mod count received).isInProcess = false := by
  cases received with
  | message message =>
    refine outside_dispatch fun _ _ _ same => ?_
    cases same
  | detached reason => exact outside_lost reason _
  | nothing => rfl
  | closed => rfl

theorem outside_perform (session : Session) (operation : Operation) :
    (session.perform operation).isInProcess = false := by
  cases operation with
  | start mod executable =>
    simp only [Session.perform, Session.start]
    split
    · rfl
    · exact outside_begin mod executable
  | stop =>
    simp only [Session.perform, Session.stop]
    split
    · rfl
    · exact outside_withStatus fun _ => rfl
  | send name data =>
    simp only [Session.perform, Session.send]
    split <;> rfl
  | pump limit =>
    simp only [Session.perform, Session.pump]
    split <;> rfl
  | close =>
    simp only [Session.perform, Session.close, Session.stop]
    split <;> rfl

/-- Only an answer that a process is attached leads into a process. -/
theorem outside_answered {point : Point} (outside : point.isInProcess = false)
    (answer : point.request.Answer) {cancelled : Bool}
    (unattached : (Happening.exchanged point.request ⟨answer, cancelled⟩).attaches = false) :
    (session.answered point answer).isInProcess = false := by
  cases point with
  | finding job spawned =>
    change Except Error (Option Nat) at answer
    cases answer with
    | error e => exact outside_notFound spawned
    | ok found =>
      cases found with
      | none => exact outside_notFound spawned
      | some pid => exact outside_withStatus fun _ => rfl
  | spawning job path =>
    change Except Error Unit at answer
    cases answer with
    | error e => exact outside_fail e
    | ok => exact outside_waitToLook true _
  | pausing job spawned span => exact outside_look spawned
  | attaching job pid =>
    change Except Error Unit at answer
    cases answer with
    | error e => exact outside_fail _
    | ok => cases unattached
  | detachingCancelled => exact outside_abandon
  | takingEvents job => cases outside
  | locating job => cases outside
  | reading job path => cases outside
  | loading job resolution => cases outside
  | settingDeadline wait =>
    simp only [Session.answered]
    split
    · exact outside
    · rfl
  | readingClock wait deadline => exact outside
  | receiving wait deadline limit =>
    cases wait with
    | ready job patch => cases outside
    | cleanup mod next => exact outside_heard answer
  | handling listener label event data =>
    refine outside_proceed fun wait deadline found same => ?_
    subst same
    exact outside
  | unloadingFailed cause => rfl
  | detachingFailed cause => exact outside_fail cause
  | requestingCleanup mod next =>
    change Except Error Unit at answer
    cases answer <;> rfl
  | unloadingStopped next => exact outside_withStatus fun _ => rfl
  | detachingStopped next => exact outside_afterStop next
  | commanding name data =>
    change Except Error Unit at answer
    cases answer <;> rfl
  | delivering mod count limit => exact outside_deliver answer

/-- A start that is in a process, or has succeeded, has attached it. -/
theorem Underway.exists_attaches {during : List Happening} {turn : Turn}
    (underway : Underway session operation during turn) (inProcess : turn.isInProcess = true) :
    ∃ happening ∈ during, happening.attaches = true := by
  induction underway with
  | first => simp [outside_perform] at inProcess
  | @reply during turn point reply _ asks ih =>
    cases attaches : (Happening.exchanged point.request reply).attaches with
    | true => exact ⟨_, by simp, attaches⟩
    | false =>
      cases before : point.isInProcess with
      | true =>
        obtain ⟨happening, present, attaches⟩ := ih (by simp [Turn.isInProcess, asks, before])
        exact ⟨happening, by simp [present], attaches⟩
      | false =>
        have next : (turn.session.resume point reply).isInProcess = false :=
          outside_answered before reply.answer attaches
        simp [next] at inProcess

end

/-! ## Operations as parts of runs -/

/-- An operation in progress is part of the runs that lead to its beginning. -/
theorem Underway.run {session begun : Session} {operation : Operation} {earlier during : List Happening}
    {turn : Turn} (rested : Run session earlier (.resting begun))
    (underway : Underway begun operation during turn) :
    Run session (earlier ++ .performed operation :: (during ++ turn.happenings operation))
      (.after operation turn) := by
  induction underway with
  | first => exact rested.step (.perform begun operation)
  | @reply during turn point reply _ asks ih =>
    have asking : Stage.after operation turn = .asking operation turn.session point := by
      simp only [Stage.after, asks]
    have run := (asking ▸ ih).step (.reply operation turn.session point reply)
    simpa using run

/-- The same for a start that ends. -/
theorem Underway.run_of_start {session begun : Session} {mod : Declaration} {executable : Option SystemPath}
    {earlier during : List Happening} {turn : Turn} {outcome : Outcome}
    (rested : Run session earlier (.resting begun))
    (underway : Underway begun (.start mod executable) during turn) (ends : turn.next = .finish outcome) :
    Run session (earlier ++ .performed (.start mod executable) ::
      (during ++ turn.outputs.map .shown ++ [.ended (.start mod executable) outcome]))
      (.resting turn.session) := by
  have run := underway.run rested
  simpa [Turn.happenings, Stage.after, ends] using run

/-- The operation in progress asks at the point, and `front` was the beginning of it. -/
def Asks (begun : Session) (operation : Operation) (front : List Happening) (now : Session)
    (point : Point) : Prop :=
  ∃ during turn, front <+: during ∧ Underway begun operation during turn ∧ turn.session = now ∧
    turn.next = .ask point

theorem Asks.reply {begun now : Session} {operation : Operation} {front : List Happening} {point : Point}
    (asks : Asks begun operation front now point) (answer : point.request.Answer) :
    ∃ during, front <+: during ∧ Underway begun operation during (now.resume point ⟨answer, false⟩) := by
  obtain ⟨during, turn, isFront, underway, rfl, next⟩ := asks
  exact ⟨_, isFront.trans ((List.prefix_append _ _).trans (List.prefix_append _ _)),
    underway.reply ⟨answer, false⟩ next⟩

theorem Asks.next {begun now now' : Session} {operation : Operation} {front : List Happening}
    {point point' : Point} (asks : Asks begun operation front now point) (answer : point.request.Answer)
    (session : (now.resume point ⟨answer, false⟩).session = now')
    (next : (now.resume point ⟨answer, false⟩).next = .ask point') :
    Asks begun operation front now' point' := by
  obtain ⟨during, isFront, underway⟩ := asks.reply answer
  exact ⟨during, _, isFront, underway, session, next⟩

/-! ## A run that attaches a mod -/

/-- A mod that changes nothing. -/
def idleMod : Declaration where
  name := "m"
  game := "g"
  modules := ["e"]
  vars := []
  hooks := []
  loops := []
  nops := []
  receivers := .empty
  events := .empty
  init := none
  exit := none

section

variable {catalog : GameCatalog} {game : Game} {resolution : Resolution} {begun : Session}
  {front : List Happening}

/-- The session that has attached the mod. -/
def attachedSession (catalog : GameCatalog) : Session := ⟨catalog, {}, .armed, .active, some idleMod⟩

/-- A wait whose deadline can be told goes on with it. -/
theorem resume_settingDeadline {session : Session} {wait : Wait} {start deadline : Duration}
    (told : wait.deadline? session.timing start = some deadline) (cancelled : Bool) :
    session.resume (.settingDeadline wait) ⟨start, cancelled⟩ =
      { session with cancel := session.cancel.after cancelled }.ask (.readingClock wait deadline) := by
  simp only [Session.resume, Session.answered, told]

/-- A wait whose deadline cannot be told is a crash. -/
theorem resume_settingDeadline_late {session : Session} {wait : Wait} {start : Duration}
    (late : wait.deadline? session.timing start = none) (cancelled : Bool) :
    session.resume (.settingDeadline wait) ⟨start, cancelled⟩ =
      { session with cancel := session.cancel.after cancelled }.crash wait := by
  simp only [Session.resume, Session.answered, late]

/-- With the timeouts that a session has if nothing else is said, a wait that begins at time zero has a deadline. -/
theorem Wait.deadline?_default (wait : Wait) : wait.deadline? {} ⟨0⟩ = some ⟨0 + (wait.span {}).nanoseconds⟩ := by
  refine deadline?_eq_some ?_
  cases wait with
  | ready job patch =>
    show 0 + ({} : Timing).ready.nanoseconds ≤ Duration.last.nanoseconds
    decide
  | cleanup mod next =>
    show 0 + ({} : Timing).cleanup.nanoseconds ≤ Duration.last.nanoseconds
    decide

theorem Asks.reads {now : Session} {operation : Operation} {wait : Wait} {start deadline : Duration}
    (setting : Asks begun operation front now (.settingDeadline wait))
    (told : wait.deadline? now.timing start = some deadline) :
    Asks begun operation front { now with cancel := now.cancel.after false } (.readingClock wait deadline) := by
  refine setting.next start ?_ ?_
  all_goals
    rw [resume_settingDeadline told]
    rfl

/-- A start that looks for its process waits for its script when all goes well; here the build of the game is not
known. -/
theorem Asks.waits {timing : Timing} {process : String} (resolved : (catalog.resolve "g" none).1 = .ok resolution)
    (finding : Asks begun (.start idleMod none) front ⟨catalog, timing, .armed, .waiting process, none⟩
      (.finding ⟨idleMod, none, process⟩ false)) :
    Asks begun (.start idleMod none) front ⟨catalog, timing, .armed, .injecting, none⟩
      (.settingDeadline (.ready ⟨idleMod, none, process⟩ resolution.key)) := by
  let job : Job := ⟨idleMod, none, process⟩
  let start : Operation := .start idleMod none
  let attaching : Session := ⟨catalog, timing, .armed, .attaching, none⟩
  have found := finding.next (Except.ok (some 7)) rfl rfl
  have attached := found.next (Except.ok ()) rfl rfl
  have locating : Asks begun start front attaching (.locating job) :=
    attached.next (Except.ok ()) rfl rfl
  have loading : Asks begun start front ⟨catalog, timing, .armed, .injecting, none⟩
      (.loading job resolution) := by
    refine locating.next (Except.error (.backend "")) ?_ ?_
    all_goals
      simp only [Session.resume, Session.answered, Session.inject, attaching, job, idleMod, resolved]
      rfl
  exact loading.next (Except.ok ()) rfl rfl

/-- When the script is ready, such a start succeeds. -/
theorem Asks.exists_started {process : String}
    (resolved : (catalog.resolve "g" none).1 = .ok resolution)
    (finding : Asks begun (.start idleMod none) front ⟨catalog, {}, .armed, .waiting process, none⟩
      (.finding ⟨idleMod, none, process⟩ false)) :
    ∃ during turn, front <+: during ∧ Underway begun (.start idleMod none) during turn ∧
      turn.session = attachedSession catalog ∧ turn.next = .finish (.started resolution.key) := by
  have reading := (finding.waits resolved).reads (Wait.deadline?_default _)
  have waiting := reading.next (⟨0⟩ : Duration) rfl rfl
  obtain ⟨during, isFront, underway⟩ := waiting.reply (Received.message (.send Event.ready .null))
  exact ⟨during, _, isFront, underway, rfl, rfl⟩

/-- The first start of a session looks for the process of a game that is known. -/
theorem asks_new (known : catalog.get "g" = .ok game) (timing : Timing) :
    Asks (.new catalog timing) (.start idleMod none) [] ⟨catalog, timing, .armed, .waiting game.executable, none⟩
      (.finding ⟨idleMod, none, game.executable⟩ false) := by
  refine ⟨[], _, List.nil_prefix, .first, ?_, ?_⟩
  all_goals
    simp only [Session.perform, Session.start, Session.new, Session.begin, idleMod, known]
    rfl

theorem exists_run_attached (known : catalog.get "g" = .ok game)
    (resolved : (catalog.resolve "g" none).1 = .ok resolution) :
    ∃ trace, Run (.new catalog {}) trace (.resting (attachedSession catalog)) := by
  obtain ⟨during, turn, -, underway, session, ends⟩ := (asks_new known {}).exists_started resolved
  rw [← session]
  exact ⟨_, underway.run_of_start .start ends⟩

theorem exists_run_active (known : catalog.get "g" = .ok game)
    (resolved : (catalog.resolve "g" none).1 = .ok resolution) :
    ∃ trace session, Run (.new catalog {}) trace (.resting session) ∧
      session.isActive = true := by
  obtain ⟨trace, run⟩ := exists_run_attached known resolved
  exact ⟨trace, attachedSession catalog, run, rfl⟩

end

end ModScript
