import ModScript.Session.Turn

/-!
# Runs of a session

Everything that can happen to a session: the host performs operations one after another and may trigger
the cancel signal between two of them; while an operation is in progress, the world answers its requests
in any way, and may trigger the signal before an answer is there. A run is a list of steps from some
session on. Its trace holds what happened in order: operations, exchanges with the world, outputs, and
outcomes. A session that was closed does nothing more, and neither does one that has crashed: it has no mod left that
closing it could stop.
-/

namespace ModScript

/-- What the host asks of a session. -/
inductive Operation
  | start (mod : Declaration) (executable : Option SystemPath)
  | stop
  | send (name : String) (data : Json)
  | pump (limit : Duration)
  | close

/-- The first turn of an operation. -/
def Session.perform (session : Session) : Operation → Turn
  | .start mod executable => session.start mod executable
  | .stop => session.stop
  | .send name data => session.send name data
  | .pump limit => session.pump limit
  | .close => session.close

/-- Where a run stands: between two operations, at a point of one, after the end of the session, or after a crash
of an operation that was about to wait. -/
inductive Stage
  | resting (session : Session)
  | asking (operation : Operation) (session : Session) (point : Point)
  | closed (session : Session)
  | crashed (operation : Operation) (session : Session) (wait : Wait)

/-- What can stand in the trace of a run. -/
inductive Happening
  | performed (operation : Operation)
  | triggered
  | exchanged (request : Request) (reply : Reply request)
  | shown (output : Output)
  | ended (operation : Operation) (outcome : Outcome)

/-- Where a run stands after a turn of an operation. -/
def Stage.after (operation : Operation) (turn : Turn) : Stage :=
  match turn.next, operation with
  | .ask point, _ => .asking operation turn.session point
  | .finish _, .close => .closed turn.session
  | .finish _, _ => .resting turn.session
  | .crash wait, _ => .crashed operation turn.session wait

/-- What a turn of an operation adds to the trace. -/
def Turn.happenings (operation : Operation) (turn : Turn) : List Happening :=
  turn.outputs.map .shown ++
    match turn.next with
    | .ask _ => []
    | .finish outcome => [.ended operation outcome]
    | .crash _ => []

/-- One step of a run, with what it adds to the trace. The signal is triggered at rest, or while a request is under
way. A trigger in the middle of a turn, which only another thread could make, is no step: in particular there is none
between the reset of the signal at the beginning of a start and the first look for the process. -/
inductive Step : Stage → List Happening → Stage → Prop
  | perform (session : Session) (operation : Operation) :
    Step (.resting session)
      (.performed operation :: (session.perform operation).happenings operation)
      (.after operation (session.perform operation))
  | trigger (session : Session) : Step (.resting session) [.triggered] (.resting session.cancelNow)
  | reply (operation : Operation) (session : Session) (point : Point)
    (reply : Reply point.request) :
    Step (.asking operation session point)
      (.exchanged point.request reply :: (session.resume point reply).happenings operation)
      (.after operation (session.resume point reply))

/-- `Run session trace stage`: from `session` on, a run with this trace may get to `stage`. -/
inductive Run (session : Session) : List Happening → Stage → Prop
  | start : Run session [] (.resting session)
  | step {trace happenings : List Happening} {stage stage' : Stage} :
    Run session trace stage → Step stage happenings stage' →
    Run session (trace ++ happenings) stage'

/-! ## Steps from any stage -/

/-- `Steps stage trace stage'`: from `stage` on, steps with this trace may lead to `stage'`. -/
inductive Steps (stage : Stage) : List Happening → Stage → Prop
  | none : Steps stage [] stage
  | step {trace happenings : List Happening} {stage' stage'' : Stage} :
    Steps stage trace stage' → Step stage' happenings stage'' → Steps stage (trace ++ happenings) stage''

section

variable {stage stage' stage'' : Stage} {trace happenings : List Happening}

theorem Steps.single (step : Step stage happenings stage') : Steps stage happenings stage' :=
  Steps.none.step step

theorem Steps.trans (steps : Steps stage trace stage') (more : Steps stage' happenings stage'') :
    Steps stage (trace ++ happenings) stage'' := by
  induction more with
  | none => rwa [List.append_nil]
  | step _ step ih =>
    rw [← List.append_assoc]
    exact ih.step step

/-- A run goes on by steps. -/
theorem Run.steps {session : Session} (run : Run session trace stage) (steps : Steps stage happenings stage') :
    Run session (trace ++ happenings) stage' := by
  induction steps with
  | none => rwa [List.append_nil]
  | step _ step ih =>
    rw [← List.append_assoc]
    exact ih.step step

end

end ModScript
