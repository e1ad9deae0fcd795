import Mathlib.Data.List.Induction
import ModScript.Proofs.Catalog
import ModScript.Proofs.Session.Visit

/-!
# Waits

A session waits for a script to be ready, or to have cleaned up. A wait sets its deadline by the clock, and then
goes round: it reads the clock, receives with what is left of its time as the limit, and dispatches the message
that came. A receive with no time left still takes a message that is there; so the deadline ends a wait only when
nothing comes, and a script that always has another message keeps its session waiting. A deadline later than all
that a clock can tell is not set: the operation crashes before the first round.

Results:
1. `goes_step`: what one step does in a wait, its beginning included.
2. `wait_lasts_while_fed`: a wait that has begun goes on exactly as long as receives bring messages other than the
   awaited one, whatever the clock says; when it is over, a stop completes.
3. `Run.stop_outlasts_deadline`: a stop may dispatch any number of messages after its deadline.
-/

namespace ModScript

/-! ## Rounds of a wait -/

/-- The clock is read, or something is received. -/
def Happening.isTimed : Happening → Bool
  | .exchanged .clock _ | .exchanged (.receive _) _ => true
  | _ => false

/-- The readings of the clock, and what was received. -/
def timed (trace : List Happening) : List Happening := trace.filter Happening.isTimed

/-- What the host sees of the messages of a script. -/
def seen (trace : List Happening) : List Effect := trace.filterMap Happening.effect?

/-- A round of a wait in which a message came: the reading of the clock, the message, and whether the signal was
triggered while the one and the other was asked for. -/
structure Round where
  reading : Duration
  message : Outbound
  triggered : Bool × Bool

/-- What is left of the time of a wait. -/
def Round.left (deadline reading : Duration) : Duration := ⟨deadline.nanoseconds - reading.nanoseconds⟩

/-- The exchanges of a round. -/
def Round.exchanges (deadline : Duration) (round : Round) : List Happening :=
  [.exchanged .clock ⟨round.reading, round.triggered.1⟩,
    .exchanged (.receive (Round.left deadline round.reading)) ⟨.message round.message, round.triggered.2⟩]

/-- The beginning of a wait: the time that the clock tells, whether the signal was triggered meanwhile, and the
deadline, which a clock can tell. -/
structure WaitStart (wait : Wait) (timing : Timing) where
  start : Duration
  triggered : Bool
  deadline : Duration
  told : wait.deadline? timing start = some deadline

/-- The exchanges of a wait up to the end of its latest round: the first reading of the clock, and then the rounds. -/
def WaitStart.course {wait : Wait} {timing : Timing} (first : WaitStart wait timing) (rounds : List Round) :
    List Happening :=
  .exchanged .clock ⟨first.start, first.triggered⟩ :: rounds.flatMap (Round.exchanges first.deadline)

/-- None of the messages is the awaited one. -/
def Wait.Unanswered (wait : Wait) (rounds : List Round) : Prop :=
  ∀ round ∈ rounds, round.message.event? ≠ some wait.event

/-- How a wait ends by what it receives, if it does. -/
def Wait.ending? (wait : Wait) : Received → Option WaitEnd
  | .message message => if message.event? = some wait.event then some .found else none
  | .detached reason => some (.detached reason)
  | .nothing => some .timedOut
  | .closed => some (.detached "event channel closed")

/-- What the host sees of the rounds of a wait. -/
def Wait.effects (wait : Wait) (rounds : List Round) : List Effect :=
  rounds.flatMap fun round => wait.mod.effects round.message

/-- The session is the same but for its signal. -/
def Kept (begun now : Session) : Prop := ∃ signal, now = { begun with cancel := signal }

/-- A wait that was begun in the session `begun` goes on: what it has exchanged, what was seen, and where it
stands. -/
inductive Goes (operation : Operation) (begun : Session) (wait : Wait) :
    List Happening → List Effect → Stage → Prop
  | setting {now : Session} : Kept begun now →
    Goes operation begun wait [] [] (.asking operation now (.settingDeadline wait))
  | reading {now : Session} {first : WaitStart wait begun.timing} {rounds : List Round} : Kept begun now →
    wait.Unanswered rounds →
    Goes operation begun wait (first.course rounds) (wait.effects rounds)
      (.asking operation now (.readingClock wait first.deadline))
  | receiving {now : Session} {first : WaitStart wait begun.timing} {rounds : List Round} {reading : Duration}
    {triggered : Bool} : Kept begun now → wait.Unanswered rounds →
    Goes operation begun wait
      (first.course rounds ++ [.exchanged .clock ⟨reading, triggered⟩]) (wait.effects rounds)
      (.asking operation now (.receiving wait first.deadline
        (Round.left first.deadline reading)))
  | handling {now : Session} {first : WaitStart wait begun.timing} {rounds : List Round} {round : Round} {label : String} :
    Kept begun now → wait.Unanswered rounds → (wait.mod.delivery round.message).label = some label →
    Goes operation begun wait (first.course (rounds ++ [round])) (wait.effects rounds)
      (.asking operation now (.handling
        (.waiting wait first.deadline (round.message.event? == some wait.event))
        label (wait.mod.delivery round.message).event (wait.mod.delivery round.message).data))

/-- A wait is over: its last receive has ended it, and every message was dispatched. -/
inductive Over (begun : Session) (wait : Wait) : List Happening → List Effect → WaitEnd → Prop
  | ended {first : WaitStart wait begun.timing} {rounds : List Round} {reading : Duration} {received : Received}
    {how : WaitEnd} {triggered triggered' : Bool} : wait.Unanswered rounds →
    wait.ending? received = some how →
    Over begun wait
      (first.course rounds ++ [.exchanged .clock ⟨reading, triggered⟩,
        .exchanged (.receive (Round.left first.deadline reading))
          ⟨received, triggered'⟩])
      (wait.effects rounds ++ match received with
        | .message message => wait.mod.effects message
        | _ => []) how

/-- A wait could not begin, since its deadline is later than any clock can tell: the operation has crashed. -/
inductive Late (operation : Operation) (begun : Session) (wait : Wait) :
    List Happening → List Effect → Stage → Prop
  | crashed {now : Session} {start : Duration} {triggered : Bool} : Kept begun now →
    wait.deadline? begun.timing start = none →
    Late operation begun wait [.exchanged .clock ⟨start, triggered⟩] [] (.crashed operation now wait)

/-- A wait goes on, could not begin, or is over and the operation goes on at once. -/
def Leads (operation : Operation) (begun : Session) (wait : Wait) (waited : List Happening)
    (told : List Effect) (stage : Stage) : Prop :=
  Goes operation begun wait waited told stage ∨ Late operation begun wait waited told stage ∨
    ∃ how now, Over begun wait waited told how ∧ Kept begun now ∧
      stage = .after operation (now.endWait wait how)

section

variable {operation : Operation} {begun now : Session} {wait : Wait} {stage stage' : Stage}
  {trace happenings waited : List Happening} {told : List Effect}

theorem timed_append (happenings happenings' : List Happening) :
    timed (happenings ++ happenings') = timed happenings ++ timed happenings' := List.filter_append ..

theorem seen_append (happenings happenings' : List Happening) :
    seen (happenings ++ happenings') = seen happenings ++ seen happenings' := List.filterMap_append

theorem timed_happenings (operation : Operation) (turn : Turn) : timed (turn.happenings operation) = [] :=
  List.filter_eq_nil_iff.2 <|
    turn.forall_happenings (fun _ => Bool.false_ne_true) (fun _ _ => Bool.false_ne_true) operation

theorem seen_happenings (turn : Turn) :
    seen (turn.happenings operation) = turn.outputs.filterMap Output.effect? := by
  rw [Turn.happenings, seen_append]
  have outputs : seen (turn.outputs.map .shown) = turn.outputs.filterMap Output.effect? := by
    rw [seen, List.filterMap_map]
    rfl
  rw [outputs]
  cases turn.next with
  | ask point => exact List.append_nil _
  | finish outcome => exact List.append_nil _
  | crash wait => exact List.append_nil _

theorem Kept.cancel (kept : Kept begun now) (signal : CancelSignal) :
    Kept begun { now with cancel := signal } := by
  obtain ⟨before, rfl⟩ := kept
  exact ⟨signal, rfl⟩

theorem Kept.timing_eq (kept : Kept begun now) : now.timing = begun.timing := by
  obtain ⟨signal, rfl⟩ := kept
  rfl

theorem course_snoc {timing : Timing} (first : WaitStart wait timing) (rounds : List Round) (round : Round) :
    first.course (rounds ++ [round]) = first.course rounds ++ round.exchanges first.deadline := by
  simp [WaitStart.course]

theorem effects_snoc (rounds : List Round) (round : Round) :
    wait.effects (rounds ++ [round]) = wait.effects rounds ++ wait.mod.effects round.message := by
  simp [Wait.effects]

theorem Wait.Unanswered.snoc {rounds : List Round} {round : Round} (unanswered : wait.Unanswered rounds)
    (other : round.message.event? ≠ some wait.event) : wait.Unanswered (rounds ++ [round]) := by
  intro earlier present
  rcases List.mem_append.1 present with inRounds | isRound
  · exact unanswered earlier inRounds
  · rw [List.mem_singleton.1 isRound]
    exact other

/-- The end of a wait shows nothing of a message. -/
theorem silent_endWait (now : Session) (wait : Wait) (how : WaitEnd) :
    (now.endWait wait how).outputs.filterMap Output.effect? = [] := by
  cases wait with
  | ready job patch =>
    cases how with
    | found =>
      simp only [Session.endWait, Session.withStatus]
      split
      · rfl
      · rfl
    | timedOut => rfl
    | detached reason => rfl
  | cleanup mod next => cases how <;> rfl

/-! ## One step -/

/-- When the message of a round was dispatched, the wait goes on unless it was the awaited one. -/
theorem leads_proceed (operation : Operation) (first : WaitStart wait begun.timing) {rounds : List Round}
    (kept : Kept begun now) (unanswered : wait.Unanswered rounds) (round : Round) :
    Leads operation begun wait (first.course (rounds ++ [round]))
        (wait.effects (rounds ++ [round]))
        (.after operation (now.proceed (.waiting wait first.deadline
          (round.message.event? == some wait.event)))) ∧
      (now.proceed (.waiting wait first.deadline
        (round.message.event? == some wait.event))).outputs.filterMap Output.effect? = [] := by
  by_cases awaited : round.message.event? = some wait.event
  · have found : (round.message.event? == some wait.event) = true := beq_iff_eq.2 awaited
    have ends : wait.ending? (.message round.message) = some .found := if_pos awaited
    rw [found]
    refine ⟨.inr (.inr ⟨.found, now, ?_, kept, rfl⟩), silent_endWait now wait .found⟩
    rw [course_snoc, effects_snoc]
    exact .ended unanswered ends
  · have other : (round.message.event? == some wait.event) = false := beq_eq_false_iff_ne.2 awaited
    rw [other]
    exact ⟨.inl (.reading kept (unanswered.snoc awaited)), rfl⟩

/-- A message that was received is dispatched before anything else. -/
theorem leads_dispatch (operation : Operation) (first : WaitStart wait begun.timing) {rounds : List Round}
    (kept : Kept begun now) (unanswered : wait.Unanswered rounds) (round : Round) :
    Leads operation begun wait (first.course (rounds ++ [round]))
      (wait.effects rounds ++ (now.dispatch wait.mod round.message (.waiting wait
        first.deadline
        (round.message.event? == some wait.event))).outputs.filterMap Output.effect?)
      (.after operation (now.dispatch wait.mod round.message (.waiting wait
        first.deadline (round.message.event? == some wait.event)))) := by
  obtain ⟨leads, silent⟩ := leads_proceed operation first kept unanswered round
  unfold Session.dispatch
  dsimp only
  split
  next label handled =>
    -- Until the host has handled the message, nothing is seen of it.
    have quiet : (wait.mod.delivery round.message).before.filterMap Output.effect? = [] :=
      List.filterMap_eq_nil_iff.2 (Journal.delivery_of_label handled).2.2
    rw [Turn.after, Session.ask]
    dsimp only
    rw [List.append_nil, quiet, List.append_nil]
    exact .inl (.handling kept unanswered handled)
  next unhandled =>
    rw [Turn.after]
    dsimp only
    rw [List.filterMap_append, silent, List.append_nil, Journal.effects_delivery unhandled, ← effects_snoc]
    exact leads

theorem leads_heard (operation : Operation) (first : WaitStart wait begun.timing) {rounds : List Round} (reading : Duration)
    (triggered triggered' : Bool) (kept : Kept begun now) (unanswered : wait.Unanswered rounds) (received : Received) :
    Leads operation begun wait
      (first.course rounds ++ [.exchanged .clock ⟨reading, triggered⟩,
        .exchanged (.receive (Round.left first.deadline reading))
          ⟨received, triggered'⟩])
      (wait.effects rounds ++ (now.heard wait first.deadline
        received).outputs.filterMap Output.effect?)
      (.after operation (now.heard wait first.deadline received)) := by
  have finished {how : WaitEnd} (ends : wait.ending? received = some how)
      (silent : ∀ message, received ≠ .message message) :
      Leads operation begun wait
        (first.course rounds ++ [.exchanged .clock ⟨reading, triggered⟩,
          .exchanged (.receive (Round.left first.deadline reading))
            ⟨received, triggered'⟩])
        (wait.effects rounds ++ (now.endWait wait how).outputs.filterMap Output.effect?)
        (.after operation (now.endWait wait how)) := by
    refine .inr (.inr ⟨how, now, ?_, kept, rfl⟩)
    rw [silent_endWait]
    cases received with
    | message message => exact absurd rfl (silent message)
    | _ => exact .ended unanswered ends
  cases received with
  | message message =>
    have leads := leads_dispatch operation first kept unanswered ⟨reading, message, triggered, triggered'⟩
    rw [course_snoc] at leads
    exact leads
  | detached reason => exact finished rfl nofun
  | nothing => exact finished rfl nofun
  | closed => exact finished rfl nofun

theorem timed_reply {request : Request} {reply : Reply request} (turn : Turn)
    (isTimed : (Happening.exchanged request reply).isTimed = true) :
    timed (.exchanged request reply :: turn.happenings operation) = [.exchanged request reply] := by
  rw [← List.singleton_append, timed_append, timed_happenings, List.append_nil]
  exact List.filter_cons_of_pos isTimed

theorem seen_reply {request : Request} {reply : Reply request} (turn : Turn)
    (silent : (Happening.exchanged request reply).effect? = none) :
    seen (.exchanged request reply :: turn.happenings operation) =
      turn.outputs.filterMap Output.effect? := by
  rw [← List.singleton_append, seen_append, seen_happenings]
  simp [seen, silent]

/-- A message with a handler of the host has its effects when the host has handled it. -/
theorem effects_of_label {mod : Declaration} {message : Outbound} {label : String}
    (handled : (mod.delivery message).label = some label) :
    mod.effects message = [.handled (.host label) (mod.delivery message).event (mod.delivery message).data,
      .shown (mod.delivery message).event (mod.delivery message).data] := by
  obtain ⟨same, found, -⟩ := Journal.delivery_of_label handled
  generalize (mod.delivery message).event = event at same found
  generalize (mod.delivery message).data = data at same
  subst same
  rw [Declaration.effects, found]
  rfl

theorem seen_handled {mod : Declaration} {message : Outbound} {label : String} (turn : Turn)
    (handled : (mod.delivery message).label = some label)
    (answer : Except String Unit) (cancelled : Bool) (silent : turn.outputs.filterMap Output.effect? = []) :
    seen (.exchanged (.handle label (mod.delivery message).event (mod.delivery message).data)
        ⟨answer, cancelled⟩ :: (turn.after (handledOutputs (mod.delivery message).event
      (mod.delivery message).data answer)).happenings operation) = mod.effects message := by
  rw [← List.singleton_append, seen_append, seen_happenings, Turn.after, effects_of_label handled]
  dsimp only
  rw [List.filterMap_append, Journal.effects_handled, silent]
  rfl

/-- What the first reading of the clock leads to: the first round, or a crash. -/
theorem leads_deadline (operation : Operation) (kept : Kept begun now) (start : Duration) (triggered : Bool) :
    Leads operation begun wait [.exchanged .clock ⟨start, triggered⟩]
        ((now.resume (.settingDeadline wait) ⟨start, triggered⟩).outputs.filterMap Output.effect?)
      (.after operation (now.resume (.settingDeadline wait) ⟨start, triggered⟩)) := by
  have timing : now.timing = begun.timing := kept.timing_eq
  cases told : wait.deadline? now.timing start with
  | some deadline =>
    rw [resume_settingDeadline told]
    let first : WaitStart wait begun.timing := ⟨start, triggered, deadline, timing ▸ told⟩
    have unanswered : wait.Unanswered [] := fun _ present => absurd present List.not_mem_nil
    have goes : Goes operation begun wait (first.course []) (wait.effects [])
        (.asking operation { now with cancel := now.cancel.after triggered } (.readingClock wait first.deadline)) :=
      .reading (kept.cancel _) unanswered
    exact .inl goes
  | none =>
    rw [resume_settingDeadline_late told]
    exact .inr (.inl (.crashed (kept.cancel _) (timing ▸ told)))

/-- What one step does in a wait: it goes on with the wait, or the wait is over. -/
theorem goes_step (goes : Goes operation begun wait waited told stage) (step : Step stage happenings stage') :
    Leads operation begun wait (waited ++ timed happenings) (told ++ seen happenings) stage' := by
  cases goes with
  | @setting now kept =>
    cases step with
    | reply _ _ _ start =>
      rw [timed_reply _ rfl, seen_reply _ rfl]
      exact leads_deadline operation kept start.answer start.cancelled
  | @reading now first rounds kept unanswered =>
    cases step with
    | reply _ _ _ reading =>
      rw [timed_reply _ rfl, seen_reply _ rfl]
      show Leads operation begun wait _ (wait.effects rounds ++ []) _
      rw [List.append_nil]
      exact .inl (.receiving (kept.cancel _) unanswered)
  | @receiving now first rounds reading triggered kept unanswered =>
    cases step with
    | reply _ _ _ received =>
      rw [timed_reply _ rfl, seen_reply _ rfl, List.append_assoc]
      exact leads_heard operation first reading triggered received.cancelled (kept.cancel _) unanswered
        received.answer
  | @handling now first rounds round label kept unanswered handled =>
    cases step with
    | reply _ _ _ reply =>
      obtain ⟨leads, silent⟩ := leads_proceed operation first
        (kept.cancel (now.cancel.after reply.cancelled)) unanswered round
      have untimed : timed (.exchanged _ reply :: Turn.happenings operation _) = [] :=
        timed_happenings operation (now.resume _ reply)
      have told := @seen_handled operation _ _ _ _ handled reply.answer reply.cancelled silent
      rw [effects_snoc, ← told] at leads
      rw [untimed, List.append_nil]
      exact leads

/-! ## Many steps -/

/-- A crash is the end of a run. -/
theorem Late.not_step (late : Late operation begun wait waited told stage) : ¬ Step stage happenings stage' := by
  cases late
  intro step
  cases step

/-- From the setting of the deadline on, a wait goes on, could not begin, or was over and something else has
followed. -/
theorem Steps.leads (steps : Steps (.asking operation begun (.settingDeadline wait)) trace stage) :
    Goes operation begun wait (timed trace) (seen trace) stage ∨
      Late operation begun wait (timed trace) (seen trace) stage ∨
      ∃ front back how now, trace = front ++ back ∧ Over begun wait (timed front) (seen front) how ∧
        Kept begun now ∧ Steps (.after operation (now.endWait wait how)) back stage := by
  induction steps with
  | none => exact .inl (.setting ⟨begun.cancel, rfl⟩)
  | @step trace happenings stage stage' steps step ih =>
    rcases ih with goes | late | ⟨front, back, how, now, rfl, ended, kept, further⟩
    · have leads := goes_step goes step
      rw [← timed_append, ← seen_append] at leads
      rcases leads with goes | late | ⟨how, now, ended, kept, rfl⟩
      · exact .inl goes
      · exact .inr (.inl late)
      · exact .inr (.inr ⟨_, [], how, now, (List.append_nil _).symm, ended, kept, .none⟩)
    · exact absurd step late.not_step
    -- Once the wait is over, what comes behind it is no longer part of it.
    · exact .inr (.inr ⟨front, back ++ happenings, how, now, List.append_assoc .., ended, kept, further.step step⟩)

/-- A message that is not the awaited one is dispatched, and then the clock is read again. -/
theorem exists_dispatched (operation : Operation) (now : Session) {message : Outbound} (deadline : Duration)
    (unawaited : message.event? ≠ some wait.event) :
    ∃ trace now', Steps (.after operation (now.dispatch wait.mod message
        (.waiting wait deadline (message.event? == some wait.event)))) trace
        (.asking operation now' (.readingClock wait deadline)) ∧ Kept now now' ∧ timed trace = [] ∧
      seen ((now.dispatch wait.mod message
        (.waiting wait deadline (message.event? == some wait.event))).happenings operation ++ trace) =
        wait.mod.effects message := by
  have unfound : (message.event? == some wait.event) = false := beq_eq_false_iff_ne.2 unawaited
  unfold Session.dispatch
  dsimp only
  rw [unfound]
  split
  next label handled =>
    let delivery := wait.mod.delivery message
    let point : Point := .handling (.waiting wait deadline false) label delivery.event delivery.data
    let reply : Reply point.request := ⟨Except.ok (), false⟩
    have untimed : timed (.exchanged point.request reply :: (now.resume point reply).happenings operation) = [] :=
      timed_happenings operation (now.resume point reply)
    refine ⟨_, _, .single (.reply operation now point reply), ⟨_, rfl⟩, untimed, ?_⟩
    have quiet : (wait.mod.delivery message).before.filterMap Output.effect? = [] :=
      List.filterMap_eq_nil_iff.2 (Journal.delivery_of_label handled).2.2
    have silent : (now.proceed (.waiting wait deadline false)).outputs.filterMap Output.effect? = [] := rfl
    have told := @seen_handled operation _ _ _ _ handled (Except.ok ()) false silent
    rw [seen_append, seen_happenings, Turn.after, Session.ask]
    dsimp only
    rw [List.append_nil, quiet, List.nil_append]
    exact told
  next unhandled =>
    refine ⟨[], now, .none, ⟨now.cancel, rfl⟩, rfl, ?_⟩
    rw [List.append_nil, seen_happenings, Turn.after, ← Journal.effects_delivery unhandled]
    exact congrArg _ (List.append_nil _)

/-- A round in which another message than the awaited one comes leads to the next round. -/
theorem exists_round (operation : Operation) (now : Session) {round : Round} (deadline : Duration)
    (unawaited : round.message.event? ≠ some wait.event) :
    ∃ trace now', Steps (.asking operation now (.readingClock wait deadline)) trace
        (.asking operation now' (.readingClock wait deadline)) ∧ Kept now now' ∧
      timed trace = round.exchanges deadline ∧ seen trace = wait.mod.effects round.message := by
  obtain ⟨reading, message, triggered, triggered'⟩ := round
  let left := Round.left deadline reading
  let read : Reply (Point.readingClock wait deadline).request := ⟨reading, triggered⟩
  let received : Reply (Point.receiving wait deadline left).request := ⟨.message message, triggered'⟩
  let now₁ : Session := { now with cancel := now.cancel.after triggered }
  let now₂ : Session := { now₁ with cancel := now₁.cancel.after triggered' }
  obtain ⟨trace, now', dispatched, kept, untimed, told⟩ := exists_dispatched operation now₂ deadline unawaited
  have reads := Steps.single (.reply operation now (.readingClock wait deadline) read)
  have receives := reads.step (.reply operation now₁ (.receiving wait deadline left) received)
  obtain ⟨signal, rfl⟩ := kept
  refine ⟨_, _, receives.trans dispatched, ⟨signal, rfl⟩, ?_, ?_⟩
  · rw [timed_append, timed_append, timed_reply _ rfl, timed_reply _ rfl, untimed]
    rfl
  · rw [seen_append, seen_append, seen_reply _ rfl, seen_reply _ rfl, ← told, seen_append, seen_happenings]
    rfl

/-- However many other messages come, and whenever, a wait dispatches them all and goes on. -/
theorem exists_flooded (operation : Operation) (begun : Session) {wait : Wait} (first : WaitStart wait begun.timing)
    {rounds : List Round} (unanswered : wait.Unanswered rounds) :
    ∃ trace now, Steps (.asking operation begun (.settingDeadline wait)) trace
        (.asking operation now (.readingClock wait first.deadline)) ∧
      timed trace = first.course rounds ∧ seen trace = wait.effects rounds := by
  induction rounds using List.reverseRecOn with
  | nil =>
    let read : Reply (Point.settingDeadline wait).request := ⟨first.start, first.triggered⟩
    have resumes : begun.resume (.settingDeadline wait) read =
        { begun with cancel := begun.cancel.after first.triggered }.ask (.readingClock wait first.deadline) :=
      resume_settingDeadline first.told first.triggered
    have step := Step.reply operation begun (.settingDeadline wait) read
    rw [resumes] at step
    refine ⟨_, _, .single step, ?_, ?_⟩
    · exact timed_reply _ rfl
    · exact seen_reply _ rfl
  | append_singleton rounds round ih =>
    obtain ⟨trace, now, steps, waited, told⟩ :=
      ih fun earlier present => unanswered earlier (List.mem_append_left _ present)
    obtain ⟨more, now', further, -, waitedMore, toldMore⟩ :=
      exists_round operation now first.deadline
        (unanswered round (List.mem_append_right _ (List.mem_singleton_self round)))
    refine ⟨_, now', steps.trans further, ?_, ?_⟩
    · rw [timed_append, waited, waitedMore, course_snoc]
    · rw [seen_append, told, toldMore, effects_snoc]

end

/-! ## The end of a stop -/

/-- When its wait is over, a stop unloads the script, detaches, and completes, whatever the answers are. -/
theorem exists_stopped (now : Session) (mod : Declaration) (how : WaitEnd) (unloaded : Reply .unloadScript)
    (detached : Reply .detach) :
    ∃ (outputs : List Output) (ended : Session), Steps (.after .stop (now.endWait (.cleanup mod .finish) how))
        (.exchanged .unloadScript unloaded :: outputs.map .shown ++
          [.exchanged .detach detached, .ended .stop .stopped]) (.resting ended) ∧
      ended.status = .idle ∧ ended.mod = now.mod := by
  have asking : Stage.after .stop (now.endWait (.cleanup mod .finish) how) =
      .asking .stop now (.unloadingStopped .finish) := by cases how <;> rfl
  let turn : Turn := now.resume (.unloadingStopped .finish) unloaded
  let idle : Session := { now with cancel := now.cancel.after unloaded.cancelled, status := .idle }
  have next : turn.session = idle ∧ turn.next = .ask (.detachingStopped .finish) := by
    simp only [turn, Session.resume, Session.answered, Session.withStatus, idle]
    split
    next same =>
      have same : now.status = .idle := same
      rw [← same]
      exact ⟨rfl, rfl⟩
    next => exact ⟨rfl, rfl⟩
  have silent : turn.happenings .stop = turn.outputs.map .shown := by
    rw [Turn.happenings, next.2, List.append_nil]
  have detaching : Stage.after .stop turn = .asking .stop idle (.detachingStopped .finish) := by
    simp only [Stage.after, next.2, next.1]
  have unloads := Steps.single (.reply .stop now (.unloadingStopped .finish) unloaded)
  rw [← asking] at unloads
  have unloads : Steps _ (.exchanged .unloadScript unloaded :: turn.happenings .stop) (.after .stop turn) := unloads
  rw [silent, detaching] at unloads
  have detaches := unloads.step (.reply .stop idle (.detachingStopped .finish) detached)
  exact ⟨turn.outputs, _, detaches, rfl, rfl⟩

/-! ## Waits of any operation -/

/-- A wait lasts as long as it is fed.
1. It goes on as long as each receive brings a message that is not the awaited one, with nothing left of its time
   as the limit once the clock has reached the deadline. It is over with the first receive that brings the awaited
   message, or none. Every message was dispatched. If its deadline is later than any clock can tell, it does not
   begin, and the operation has crashed.
2. However many such messages come, and whatever the clock says, it takes and dispatches them all and goes on.
3. When the wait of a stop is over, the stop completes. -/
theorem wait_lasts_while_fed (operation : Operation) (begun : Session) (wait : Wait) :
    (∀ trace stage, Steps (.asking operation begun (.settingDeadline wait)) trace stage →
      Goes operation begun wait (timed trace) (seen trace) stage ∨
        Late operation begun wait (timed trace) (seen trace) stage ∨
        ∃ front back how now, trace = front ++ back ∧ Over begun wait (timed front) (seen front) how ∧
          Kept begun now ∧ Steps (.after operation (now.endWait wait how)) back stage) ∧
    (∀ (first : WaitStart wait begun.timing) (rounds : List Round), wait.Unanswered rounds →
      ∃ trace now, Steps (.asking operation begun (.settingDeadline wait)) trace
          (.asking operation now (.readingClock wait first.deadline)) ∧
        timed trace = first.course rounds ∧ seen trace = wait.effects rounds) ∧
    ∀ (now : Session) (mod : Declaration) (how : WaitEnd) (unloaded : Reply .unloadScript)
      (detached : Reply .detach), ∃ (outputs : List Output) (ended : Session),
      Steps (.after .stop (now.endWait (.cleanup mod .finish) how))
          (.exchanged .unloadScript unloaded :: outputs.map .shown ++
            [.exchanged .detach detached, .ended .stop .stopped]) (.resting ended) ∧
        ended.status = .idle ∧ ended.mod = now.mod :=
  ⟨fun _ _ steps => steps.leads, fun first _ unanswered => exists_flooded operation begun first unanswered,
    exists_stopped⟩

/-- A message that no stop waits for. -/
def tick : Outbound := .send "tick" .null

/-- There is a run in which an attached mod is stopped and its script was asked to clean up. -/
theorem exists_stopping :
    ∃ catalog front, Run (.new catalog {})
      (front ++ [.performed .stop, .exchanged (.post .cleanup) ⟨Except.ok (), false⟩])
      (.asking .stop ⟨catalog, {}, ⟨true⟩, .active, none⟩ (.settingDeadline (.cleanup idleMod .finish))) := by
  obtain ⟨catalog, game, loaded, known⟩ := GameCatalog.exists_loaded
  obtain ⟨resolution, resolved⟩ := loaded.resolve_ok known none
  obtain ⟨front, attached⟩ := exists_run_attached known resolved
  let requested : Reply (Point.requestingCleanup idleMod .finish).request := ⟨Except.ok (), false⟩
  have stops := attached.step (.perform (attachedSession catalog) .stop)
  have asks := stops.step
    (.reply .stop ⟨catalog, {}, ⟨true⟩, .active, none⟩ (.requestingCleanup idleMod .finish) requested)
  rw [List.append_assoc] at asks
  exact ⟨catalog, front, asks⟩

/-- A stop need not end at its deadline. Here a mod is attached and stopped, the wait for its script begins at time
zero, and the clock has reached the deadline at the next reading already; nevertheless any number of messages is
dispatched, and still the stop waits. -/
theorem Run.stop_outlasts_deadline :
    ∃ catalog front, ∀ n, ∃ during now,
      Run (.new catalog {}) (front ++ .performed .stop :: during)
        (.asking .stop now (.readingClock (.cleanup idleMod .finish) ({} : Timing).cleanup)) ∧
      timed during = .exchanged .clock ⟨(⟨0⟩ : Duration), false⟩ ::
        (List.replicate n [.exchanged .clock ⟨({} : Timing).cleanup, false⟩,
          .exchanged (.receive ⟨0⟩) ⟨.message tick, false⟩]).flatten ∧
      seen during = List.replicate n (.shown "tick" .null) := by
  obtain ⟨catalog, front, run⟩ := exists_stopping
  refine ⟨catalog, front, fun n => ?_⟩
  let stopping : Session := ⟨catalog, {}, ⟨true⟩, .active, none⟩
  let wait : Wait := .cleanup idleMod .finish
  let late : Round := ⟨({} : Timing).cleanup, tick, false, false⟩
  have unanswered : wait.Unanswered (List.replicate n late) := by
    intro round present
    rw [List.eq_of_mem_replicate present]
    decide
  let first : WaitStart wait {} := ⟨⟨0⟩, false, ({} : Timing).cleanup, by decide⟩
  have left : Round.left ({} : Timing).cleanup late.reading = ⟨0⟩ := congrArg Duration.mk (Nat.sub_self _)
  obtain ⟨flood, now, steps, waited, told⟩ := exists_flooded .stop stopping first unanswered
  have flooded := run.steps steps
  rw [List.append_assoc] at flooded
  refine ⟨_, now, flooded, ?_, ?_⟩
  · show timed flood = _
    rw [waited, WaitStart.course, List.flatMap_replicate, Round.exchanges, left]
  · show seen flood = _
    rw [told, Wait.effects, List.flatMap_replicate]
    exact List.flatten_replicate_singleton

end ModScript
